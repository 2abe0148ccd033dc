import TagOrder.Storage.Path

/-!
# The command line

A command line names one command, its options and its operands. Options and operands may be mixed;
after two hyphens everything is an operand, and of an option given twice the last counts. What does
not have this form is refused.
-/

namespace TagOrder

/-- What a command line asks for. -/
inductive Command where
  /-- Report what is out of order, in a format that may or may not be known. -/
  | check (format : String) (paths : List String)
  /-- Put what is out of order in order, with or without copies of the old files. -/
  | fix (backups : Bool) (paths : List String)
  /-- Say what the rule asks for. -/
  | explain
  deriving DecidableEq, Repr

namespace Command

/-- The arguments of a command, told apart. Options come in order, each with its value, which is
empty for one that takes none. -/
structure Arguments where
  options : List (String × String) := []
  operands : List String := []
  deriving DecidableEq, Repr

/-- The options that a command knows: those that take a value, and those that do not. -/
structure OptionNames where
  valued : List String := []
  plain : List String := []

/-- Whether an argument is an option: a hyphen with something after it. -/
def isOption (argument : String) : Bool :=
  match argument.toList with
  | '-' :: _ :: _ => true
  | _ => false

/-- An option cut at its first equals sign, if it has one. -/
def cutOption (argument : String) : String × Option String :=
  let (name, rest) := argument.toList.span (· != '=')
  match rest with
  | [] => (argument, none)
  | _ :: value => (String.ofList name, some (String.ofList value))

/-- Arguments with an option before them. -/
def Arguments.withOption (name value : String) (arguments : Arguments) : Arguments :=
  { arguments with options := (name, value) :: arguments.options }

/-- Arguments with an operand before them. -/
def Arguments.withOperand (operand : String) (arguments : Arguments) : Arguments :=
  { arguments with operands := operand :: arguments.operands }

/-- Arguments told apart; none when an option is not known, lacks its value or has one too many. -/
def readArguments (names : OptionNames) : List String -> Option Arguments
  | [] => some {}
  | argument :: rest =>
    if argument = "--" then some { operands := rest }
    else if isOption argument then
      let (name, value) := cutOption argument
      if name ∈ names.plain then
        match value with
        | none => (readArguments names rest).map (·.withOption name "")
        | some _ => none
      else if name ∈ names.valued then
        match value, rest with
        | some value, rest => (readArguments names rest).map (·.withOption name value)
        | none, value :: rest => (readArguments names rest).map (·.withOption name value)
        | none, [] => none
      else none
    else (readArguments names rest).map (·.withOperand argument)

/-- The last value of an option. -/
def Arguments.value? (arguments : Arguments) (name : String) : Option String :=
  arguments.options.reverse.lookup name

/-- The paths that operands name; without any, the working directory. -/
def Arguments.paths (arguments : Arguments) : List String :=
  if arguments.operands.isEmpty then ["."] else arguments.operands.map tidyPath

/-- The command of a name with its arguments. -/
def named (name : String) (rest : List String) : Option Command :=
  match name with
  | "check" => (readArguments { valued := ["--format"] } rest).map fun arguments =>
    .check ((arguments.value? "--format").getD "table") arguments.paths
  | "fix" => (readArguments { plain := ["--no-backup"] } rest).map fun arguments =>
    .fix (arguments.value? "--no-backup").isNone arguments.paths
  | "explain" => (readArguments {} rest).bind fun arguments =>
    if arguments.operands.isEmpty then some .explain else none
  | _ => none

/-- The command that a command line asks for. -/
def ofLine? : List String -> Option Command
  | "--" :: name :: rest => named name rest
  | name :: rest => named name rest
  | [] => none

end Command

end TagOrder
