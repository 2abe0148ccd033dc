import TagOrder.Options
import TagOrder.Registry
import TagOrder.Rotation

/-!
# The ordering rule

Checking a tag gives one violation for each misplaced attribute, with its message and whether it
can be fixed. The fix of a violation rotates the attribute in front of the one it should precede.
-/

namespace TagOrder

/-- A misplaced attribute: `node` should go before `previous`. -/
structure Violation where
  code : String := ruleCode
  message : Text
  node : Attribute
  previous : Attribute
  tag : Tag
  fixable : Bool := true
  failureReason : Option String := none
  deriving DecidableEq, Repr

namespace Violation

/-- Where a violation lies: path, line and column. -/
def location (violation : Violation) : String :=
  violation.tag.path ++ ":" ++ violation.node.line.repr ++ ":" ++ violation.node.column.repr

/-- A violation as a report lists it. -/
def toValue (violation : Violation) : Value :=
  .table
    [("code", .text violation.code),
      ("message", .text (String.ofList violation.message)),
      ("location", .text violation.location),
      ("attribute", .text (String.ofList violation.node.keyText)),
      ("before", .text (String.ofList violation.previous.keyText)),
      ("fixable", .bool violation.fixable),
      ("fix_failure_reason",
        match violation.failureReason with
        | some reason => .text reason
        | none => .null)]

/-- What to do by hand about a violation. -/
def instructions (violation : Violation) : String :=
  "Move \"" ++ String.ofList violation.node.keyText ++ "\" so that it appears before \"" ++
    String.ofList violation.previous.keyText ++ "\" in <" ++ violation.tag.name ++
    ">. Keep any v-bind=\"object\" next to the attribute it is paired with." ++
    (if violation.fixable then ""
    else " No automatic fix is offered: reordering would move a value past a v-bind=\"object\" " ++
      "and change which one wins, so decide the intended precedence first.")

end Violation

/-- Why a violation has no fix. -/
def unfixableReason : String :=
  "Moving the attribute would change its order relative to a v-bind=\"object\", " ++
    "which decides which value wins."

/-- The ordering rule under some options, with the template of its messages. -/
structure Rule where
  options : Options := {}
  template : Text := Template.standard
  deriving DecidableEq, Repr

namespace Rule

/-- What the rule is for, in words. -/
def description : String :=
  "Attributes Order: attributes and directives must follow the configured order. " ++
    "Auto-fix: Moves the attribute before the one it should precede."

/-- The rule with the message template of a registry. -/
def ofRegistry (options : Options) (registry : Registry) : Rule :=
  { options, template := registry.template ruleCode }

/-- Whether an attribute of a tag can be moved before another. -/
def canFix (tag : Tag) (node previous : Attribute) : Bool :=
  (block? tag.attributes node previous).isSome

/-- The violation that an inversion is. -/
def violation (rule : Rule) (tag : Tag) (inversion : Inversion) :
    Except TemplateFault Violation := do
  let node := inversion.node.node
  let previous := inversion.previous.node
  let message ← Template.message rule.template ⟨node.keyText, previous.keyText⟩
  let fixable := canFix tag node previous
  return { message, node, previous, tag, fixable
           failureReason := if fixable then none else some unfixableReason }

/-- The violations of a tag, in source order. -/
def violations (rule : Rule) (tag : Tag) : List Inversion -> Except TemplateFault (List Violation)
  | [] => .ok []
  | inversion :: rest =>
    match rule.violation tag inversion with
    | .error fault => .error fault
    | .ok violation =>
      match rule.violations tag rest with
      | .error fault => .error fault
      | .ok others => .ok (violation :: others)

/-- The violations of a tag, in source order. -/
def check (rule : Rule) (tag : Tag) : Except TemplateFault (List Violation) :=
  rule.violations tag (rule.options.policy.inversions tag.attributes)

/-- Whether a violation is of this rule, under either of its names. -/
def owns (violation : Violation) : Bool :=
  violation.code == ruleCode || violation.code == ruleSymbol

/-- The edits that resolve a violation, if it can be resolved: both attributes have to be of the
tag, and there has to be something to edit. -/
def fix? (violation : Violation) : Option Script :=
  let attributes := violation.tag.attributes
  if !owns violation then none
  else if !attributes.contains violation.node || !attributes.contains violation.previous then none
  else (rotationScript? attributes violation.node violation.previous).filter (!·.isEmpty)

/-- The tag of a violation and a text with the violation resolved, if it can be resolved. -/
def applyFix? (violation : Violation) (text : Text) : Option Placed :=
  if (fix? violation).isSome then rotate? ⟨violation.tag, text⟩ violation.node violation.previous
  else none

end Rule

end TagOrder
