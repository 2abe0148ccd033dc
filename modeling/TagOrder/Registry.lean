import TagOrder.Json.Printer
import TagOrder.Template
import TagOrder.Text.Case
import TagOrder.Value.Literal

/-!
# Rule registry

A registry holds a table of texts for each rule under a key such as `attrs.W7101`. A rule is found
by its code or, failing that, by the first entry whose symbol is asked for. Texts that an entry
does not have are made up from the code.
-/

namespace TagOrder

/-- The code of the ordering rule. -/
def ruleCode : String := "W7101"

/-- The name by which the ordering rule is also called. -/
def ruleSymbol : String := "attributes-order"

/-- A registry: what stands under each key, in order. -/
abbrev Registry := Fields

namespace Registry

/-- The lead of every rule's key. -/
def keyLead : String := "attrs."

/-- Whether the text of a key starts like a rule's key. -/
def isRuleKey (key : String) : Bool :=
  keyLead.toList.isPrefixOf key.toList && key != keyLead ++ "_default"

/-- Whether a value is a certain text. -/
def isText (value : Value) (text : String) : Bool :=
  match value with
  | .text string => string == text
  | _ => false

/-- The entry of the first rule with a symbol. -/
def bySymbol (symbol : String) : Registry -> Option Fields
  | [] => none
  | (key, value) :: rest =>
    match isRuleKey key, value.fields? with
    | true, some fields =>
      if (fields.get? "symbol").any (isText · symbol) then some fields else bySymbol symbol rest
    | _, _ => bySymbol symbol rest

/-- The entry of a rule, by its code or its symbol. -/
def rule? (registry : Registry) (code : String) : Option Fields :=
  match (registry.get? (keyLead ++ code)).bind Value.fields? with
  | some fields => some fields
  | none => bySymbol code registry

/-- The text of a key in an entry, as far as it counts as true. -/
def textOf (fields : Fields) (key : String) : Option String :=
  match fields.get? key with
  | some value => if value.isTrue then some value.display else none
  | none => none

/-- The message template of a rule. -/
def template (registry : Registry) (code : String) : Text :=
  match (registry.rule? code).bind fun fields => textOf fields "message_template" with
  | some text => text.toList
  | none => Template.standard

/-- A code as a title. -/
def titleOfCode (code : String) : String :=
  titleText (String.ofList (code.toList.map fun c => if c = '-' then ' ' else c))

/-- The name under which a rule is shown. -/
def displayName (registry : Registry) (code : String) : String :=
  match registry.rule? code with
  | none => titleOfCode code
  | some fields =>
    match textOf fields "display_name" with
    | some name => name
    | none => (textOf fields "short_description").getD (titleOfCode code)

/-- What to do by hand about a rule. -/
def manualInstructions (registry : Registry) (code : String) : String :=
  match (registry.rule? code).bind fun fields => fields.get? "manual_instructions" with
  | some value => value.display
  | none => "See project docs. Fix the violation at the reported location."

/-- The registry that comes with the tool. -/
def packaged : Registry :=
  [("attrs.W7101", .table
    [("symbol", .text "attributes-order"),
      ("display_name", .text "Attributes Order"),
      ("short_description",
        .text "Enforce the order of attributes and directives in start tags."),
      ("message_template", .text (String.ofList Template.standard)),
      ("fixable", .bool true),
      ("manual_instructions", .text
        ("Move the reported attribute in front of the attribute named in the message. " ++
          "The default order is DEFINITION, LIST_RENDERING, CONDITIONALS, RENDER_MODIFIERS, " ++
          "GLOBAL, UNIQUE/SLOT, TWO_WAY_BINDING, OTHER_DIRECTIVES, OTHER_ATTR, EVENTS, " ++
          "CONTENT. Keep a v-bind=\"object\" next to the attribute it sits beside, since " ++
          "their relative order decides which value wins.")),
      ("proactive_guidance", .text
        ("Write attributes in the configured order; list onTop exceptions first within the " ++
          "other-attribute group.")),
      ("references", .list [.text "https://eslint.vuejs.org/rules/attributes-order.html"])])]

mutual

/-- A value as a registry file gives it back: a number in exponent form without a point is no
number there but a text. -/
def asFiled : Value -> Value
  | .float number =>
    let written := Json.decimal.write number
    if '.' ∈ written.toList then .float number else .text written
  | .list items => .list (itemsAsFiled items)
  | .table fields => .table (fieldsAsFiled fields)
  | value => value

/-- The items of a list as a registry file gives them back. -/
def itemsAsFiled : List Value -> List Value
  | [] => []
  | item :: rest => asFiled item :: itemsAsFiled rest

/-- The fields of a table as a registry file gives them back. -/
def fieldsAsFiled : List (String × Value) -> List (String × Value)
  | [] => []
  | (key, value) :: rest => (key, asFiled value) :: fieldsAsFiled rest

end

/-- The registry that a registry file holds; one that holds no table is empty. -/
def ofFiled (value : Value) : Registry := ((asFiled value).fields?).getD []

end Registry

end TagOrder
