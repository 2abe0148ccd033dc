import TagOrder.Span

/-!
# Attributes and start tags

One attribute or directive of a start tag, as a template parser reports it, and the start tag that
holds such attributes in source order.

The name of a directive is written without its `v-` lead: `bind` stands for both `v-bind:foo` and
`:foo`, `on` for `@click`. For a plain attribute the name is its key.
-/

namespace TagOrder

/-- One attribute or directive of a start tag. -/
structure Attribute where
  directive : Bool := false
  name : String
  range : Span := ⟨0, 0⟩
  keyRange : Span := ⟨0, 0⟩
  text : Text := []
  keyText : Text
  argument : Option String := none
  dynamic : Bool := false
  modifiers : List String := []
  line : Int := 1
  column : Int := 0
  deriving DecidableEq, Repr

namespace Attribute

/-- A `v-bind` in either spelling. -/
def isBind (node : Attribute) : Bool :=
  node.directive && node.name == "bind"

/-- A bind of a whole object: `v-bind` without an argument. -/
def isSpread (node : Attribute) : Bool :=
  node.isBind && node.argument.isNone

/-- A plain attribute or any bind: whatever can set the value of a property. -/
def setsValue (node : Attribute) : Bool :=
  !node.directive || node.isBind

/-- Whether the name is known before run time; a computed key such as `:[name]` is not. -/
def hasStaticName (node : Attribute) : Bool :=
  !(node.directive && node.dynamic)

/-- The attribute or property that is set, empty when it is not known. -/
def propertyName (node : Attribute) : String :=
  if !node.directive then node.name
  else if node.isBind && !node.dynamic then node.argument.getD ""
  else ""

/-- The name that alphabetical order and pinned names look at. -/
def displayName (node : Attribute) : String :=
  if !node.directive then node.name
  else if node.isBind then node.argument.getD ""
  else
    let argument := match node.argument with
      | some argument => ":" ++ argument
      | none => ""
    "v-" ++ node.name ++ argument ++
      String.join (node.modifiers.map fun modifier => "." ++ modifier)

/-- The attribute with its text starting at another offset; line and column stay as they were. -/
def movedTo (node : Attribute) (start : Int) : Attribute :=
  let distance := start - node.range.start
  { node with
    range := node.range.shift distance
    keyRange := node.keyRange.shift distance }

end Attribute

/-- A start tag with its attributes in source order, and the path of its source. -/
structure Tag where
  name : String
  attributes : List Attribute
  path : String := ""
  deriving DecidableEq, Repr

/-- From the start of the first attribute to the end of the last one. -/
def Tag.span (tag : Tag) : Option Span :=
  match tag.attributes.head?, tag.attributes.getLast? with
  | some first, some last => some ⟨first.range.start, last.range.stop⟩
  | _, _ => none

end TagOrder
