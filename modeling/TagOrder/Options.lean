import TagOrder.Scan
import TagOrder.Text.Case
import TagOrder.Value.Literal

/-!
# Options

What can be configured, and reading it from a table of values. Keys may be written in camel case,
with underscores or with hyphens; of several spellings of one key the last counts. A key that is
not known is ignored with a warning. The first fault, in the order of the options, is an error.
-/

namespace TagOrder

/-- Everything that can be configured, ready for use. -/
structure Options where
  order : Order := Order.standard
  alphabetical : Bool := false
  plainBeforeBound : Bool := false
  onTop : Option OnTop := none
  /-- The most rotations that one tag may take. -/
  maxPasses : Nat := 10
  deriving DecidableEq, Repr

/-- The policy that options set. -/
def Options.policy (options : Options) : Policy :=
  { table := options.order.table
    alphabetical := options.alphabetical
    plainBeforeBound := options.plainBeforeBound
    onTop := options.onTop }

/-- Why options are refused. -/
inductive OptionsError where
  | orderNotList (value : Value)
  | entryNotText (value : Value)
  | unknownCategory (name : String)
  | repeatedCategory (name : String)
  | emptyGroup
  | notBoolean (key : String) (value : Value)
  | exceptionsNotTable (value : Value)
  | unknownExceptions (keys : List String)
  | onTopNotTexts
  | onTopRepeats
  | badPassCount (value : Value)
  /-- A value is refused that goes beyond the limits on what can be shown. -/
  | beyond (limit : LimitFault)

namespace OptionsError

/-- The words for a refusal. -/
def message : OptionsError -> String
  | orderNotList value => "'order' must be a list, got " ++ value.literal ++ "."
  | entryNotText value => "Order entries must be strings, got " ++ value.literal ++ "."
  | unknownCategory name => "Unknown attribute category '" ++ name ++ "'."
  | repeatedCategory name => "Category '" ++ name ++ "' appears more than once in 'order'."
  | emptyGroup => "Category groups in 'order' must not be empty."
  | notBoolean key value => "'" ++ key ++ "' must be a boolean, got " ++ value.literal ++ "."
  | exceptionsNotTable value =>
    "'otherAttrsExceptions' must be a table, got " ++ value.literal ++ "."
  | unknownExceptions keys =>
    "Unknown keys in 'otherAttrsExceptions': " ++ ", ".intercalate keys ++ "."
  | onTopNotTexts => "'otherAttrsExceptions.onTop' must be a list of strings."
  | onTopRepeats => "'otherAttrsExceptions.onTop' must not repeat entries."
  | badPassCount value =>
    "'max_fix_passes' must be a positive integer, got " ++ value.literal ++ "."
  | beyond limit => limit.message

/-- The refusal of a value, which has to be shown and may be so many levels deep for that. -/
def refusing (levels : Nat) (cause : Value -> OptionsError) (value : Value) : OptionsError :=
  match value.limitFault? levels with
  | none => cause value
  | some limit => .beyond limit

end OptionsError

namespace Options

/-- A key in the one spelling by which keys are compared. -/
def canonicalKey (key : String) : String :=
  lowerText (String.ofList (key.toList.filter fun c => c != '_' && c != '-'))

/-- The keys that are known, in their canonical spelling. -/
def knownKeys : List String :=
  ["order", "alphabetical", "otherattrsbind", "otherattrsexceptions", "maxfixpasses"]

/-- Fields under canonical keys; of several spellings of one key the last counts. -/
def canonicalFields (fields : Fields) : Fields :=
  fields.foldl (fun result (key, value) => result.set (canonicalKey key) value) []

/-- The keys that are ignored. -/
def unknownKeys (fields : Fields) : List String :=
  (fields.map Prod.fst).filter fun key => canonicalKey key ∉ knownKeys

/-- The warning about a key that is ignored. -/
def unknownKeyWarning (key : String) : String :=
  "Configuration Warning: unknown option '" ++ key ++ "' is ignored."

section Reading

variable (levels : Nat)

/-- The category that a value names, if it is not among those already named. -/
def readCategory (seen : List Category) (value : Value) : Except OptionsError Category :=
  match value with
  | .text name =>
    match Category.ofName? name with
    | none => .error (.unknownCategory name)
    | some category => if category ∈ seen then .error (.repeatedCategory name) else .ok category
  | value => .error (.refusing levels .entryNotText value)

/-- The categories that values name, each once and none among those already named. -/
def readCategories (seen : List Category) : List Value -> Except OptionsError (List Category)
  | [] => .ok []
  | value :: rest => do
    let category ← readCategory levels seen value
    let others ← readCategories (category :: seen) rest
    return category :: others

/-- One entry of an order. -/
def readEntry (seen : List Category) (value : Value) : Except OptionsError OrderEntry :=
  match value with
  | .list [] => .error .emptyGroup
  | .list members => (readCategories levels seen members).map .group
  | value => (readCategory levels seen value).map .one

/-- The entries of an order, naming no category twice. -/
def readEntries (seen : List Category) : List Value -> Except OptionsError Order
  | [] => .ok []
  | value :: rest => do
    let entry ← readEntry levels seen value
    let others ← readEntries (entry.categories ++ seen) rest
    return entry :: others

/-- An order; null stands for the standard one. -/
def readOrder : Value -> Except OptionsError Order
  | .null => .ok Order.standard
  | .list entries => readEntries levels [] entries
  | value => .error (.refusing levels .orderNotList value)

/-- A boolean. -/
def readBoolean (key : String) : Value -> Except OptionsError Bool
  | .bool holds => .ok holds
  | value => .error (.refusing levels (.notBoolean key) value)

/-- Texts, when all values are. -/
def readTexts : List Value -> Option (List String)
  | [] => some []
  | .text string :: rest => (readTexts rest).map (string :: ·)
  | _ => none

/-- The qualifiers of attributes on top. -/
def readOnTop : Option Value -> Except OptionsError OnTop
  | some (.list items) =>
    match readTexts items with
    | none => .error .onTopNotTexts
    | some names =>
      if names.Nodup then .ok (names.map Qualifier.ofString) else .error .onTopRepeats
  | _ => .error .onTopNotTexts

/-- The table of exceptions among the other attributes; null stands for none. -/
def readExceptions : Value -> Except OptionsError (Option OnTop)
  | .null => .ok none
  | .table fields =>
    let fields := canonicalFields fields
    match (fields.map Prod.fst).filter (· != "ontop") with
    | [] => (readOnTop (fields.get? "ontop")).map some
    | unknown => .error (.unknownExceptions (sortStrings unknown))
  | value => .error (.refusing levels .exceptionsNotTable value)

/-- The most passes; null stands for the usual number. -/
def readMaxPasses : Value -> Except OptionsError Nat
  | .null => .ok 10
  | .int (.ofNat (count + 1)) => .ok (count + 1)
  | value => .error (.refusing levels .badPassCount value)

/-- The options that a table sets; a refused value may be so many levels deep to be shown. -/
def read (fields : Fields) : Except OptionsError Options := do
  let fields := canonicalFields fields
  let value (key : String) (absent : Value) : Value := (fields.get? key).getD absent
  let order ← readOrder levels (value "order" .null)
  let alphabetical ← readBoolean levels "alphabetical" (value "alphabetical" (.bool false))
  let plainBeforeBound ← readBoolean levels "otherAttrsBind" (value "otherattrsbind" (.bool false))
  let onTop ← readExceptions levels (value "otherattrsexceptions" .null)
  let maxPasses ← readMaxPasses levels (value "maxfixpasses" .null)
  return { order, alphabetical, plainBeforeBound, onTop, maxPasses }

end Reading

end Options

end TagOrder
