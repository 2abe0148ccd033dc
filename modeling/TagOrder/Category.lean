import TagOrder.Attribute
import TagOrder.Text.CharSet

/-!
# Categories

The closed set of categories that an order ranks, the names by which they are called, and the
category of each attribute.
-/

namespace TagOrder

/-- What an attribute is for. -/
inductive Category where
  | definition
  | listRendering
  | conditionals
  | renderModifiers
  | global
  | unique
  | slot
  | twoWayBinding
  | otherDirectives
  | otherAttr
  | events
  | content
  deriving DecidableEq, Repr

namespace Category

/-- Every category, in the order of their declaration. -/
def all : List Category :=
  [definition, listRendering, conditionals, renderModifiers, global, unique, slot, twoWayBinding,
    otherDirectives, otherAttr, events, content]

/-- The name of a category, in capitals. -/
def name : Category -> String
  | definition => "DEFINITION"
  | listRendering => "LIST_RENDERING"
  | conditionals => "CONDITIONALS"
  | renderModifiers => "RENDER_MODIFIERS"
  | global => "GLOBAL"
  | unique => "UNIQUE"
  | slot => "SLOT"
  | twoWayBinding => "TWO_WAY_BINDING"
  | otherDirectives => "OTHER_DIRECTIVES"
  | otherAttr => "OTHER_ATTR"
  | events => "EVENTS"
  | content => "CONTENT"

/-- The capitals of a character as far as they lie in ASCII. Category names hold nothing else, so
a character whose capitals are not ASCII may stay as it is: it occurs in no name either way. -/
def capitals (c : Char) : List Char :=
  match c with
  | 'ſ' => ['S']
  | 'ı' => ['I']
  | 'ß' => ['S', 'S']
  | 'ﬀ' => ['F', 'F']
  | 'ﬁ' => ['F', 'I']
  | 'ﬂ' => ['F', 'L']
  | 'ﬃ' => ['F', 'F', 'I']
  | 'ﬄ' => ['F', 'F', 'L']
  | 'ﬅ' => ['S', 'T']
  | 'ﬆ' => ['S', 'T']
  | c => [c.toUpper]

/-- The spelling under which names are compared: no blanks at the ends, capitals, and an
underscore for every hyphen. -/
def canonicalName (raw : String) : String :=
  String.ofList (((trimBlanks raw.toList).flatMap capitals).map fun c => if c = '-' then '_' else c)

/-- The category that a name calls, in any spelling. -/
def ofName? (raw : String) : Option Category :=
  all.find? fun category => category.name == canonicalName raw

/-- The category of a directive other than a bind, by its name. -/
def ofDirective : String -> Category
  | "for" => listRendering
  | "if" | "else-if" | "else" | "show" | "cloak" => conditionals
  | "pre" | "once" => renderModifiers
  | "model" => twoWayBinding
  | "on" => events
  | "html" | "text" => content
  | "slot" => slot
  | "is" => definition
  | _ => otherDirectives

/-- The category of a plain attribute or a bind, by the property that it sets. -/
def ofProperty : String -> Category
  | "is" => definition
  | "id" => global
  | "ref" | "key" => unique
  | "slot" | "slot-scope" => slot
  | _ => otherAttr

/-- The category of an attribute. A spread bind and a bind with a computed key set no known
property, so they count among the other attributes. -/
def of (node : Attribute) : Category :=
  if node.setsValue then ofProperty node.propertyName else ofDirective node.name

end Category

end TagOrder
