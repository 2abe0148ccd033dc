import TagOrder.Cluster
import TagOrder.Edit
import TagOrder.Text.Position

/-!
# Rotations

The smallest contiguous reordering that puts one attribute in front of another. The attribute moves
together with its cluster; the attributes that it passes keep their order. A rotation that would
carry one attribute past another to which it is linked is never made. Each slot of the block takes
the text of its new occupant, so what stands between the slots, and everything outside the block,
stays as it is.

Attributes are looked up by equality: the first equal one is meant.
-/

namespace TagOrder

/-- The places that a rotation touches: the passed attributes from `first` up to, and not
including, `moving`, then the moving ones up to and including `last`. -/
structure Block where
  first : Nat
  moving : Nat
  last : Nat
  deriving DecidableEq, Repr

namespace Block

/-- The attributes that move to the front. -/
def movers (block : Block) (attributes : List Attribute) : List Attribute :=
  (attributes.take (block.last + 1)).drop block.moving

/-- The attributes that they pass. -/
def passed (block : Block) (attributes : List Attribute) : List Attribute :=
  (attributes.take block.moving).drop block.first

/-- The block in source order. -/
def slots (block : Block) (attributes : List Attribute) : List Attribute :=
  (attributes.take (block.last + 1)).drop block.first

/-- The block in its new order. -/
def occupants (block : Block) (attributes : List Attribute) : List Attribute :=
  block.movers attributes ++ block.passed attributes

/-- The places of the slots. -/
def slotPlaces (block : Block) : List Nat :=
  List.range' block.first (block.last + 1 - block.first)

/-- The places from which the occupants come. -/
def occupantPlaces (block : Block) : List Nat :=
  List.range' block.moving (block.last + 1 - block.moving)
    ++ List.range' block.first (block.moving - block.first)

end Block

/-- The block to rotate so that `node` goes before `previous`, if there is one: `previous` must
stand before the cluster of `node`, and no member of the cluster may be linked to an attribute that
it passes. -/
def block? (attributes : List Attribute) (node previous : Attribute) : Option Block :=
  match attributes.idxOf? previous, attributes.idxOf? node with
  | some first, some place =>
    let block : Block := ⟨first, clusterStart attributes place, clusterEnd attributes place⟩
    if block.moving ≤ first then none
    else if (block.movers attributes).any fun mover => (block.passed attributes).any (linked mover)
    then none
    else some block
  | _, _ => none

/-- One replacement for each slot of a block. -/
def Block.script (block : Block) (attributes : List Attribute) : Script :=
  List.zipWith (fun slot occupant => ⟨slot.range, occupant.text⟩)
    (block.slots attributes) (block.occupants attributes)

/-- The edits that put `node` before `previous`. -/
def rotationScript? (attributes : List Attribute) (node previous : Attribute) : Option Script :=
  (block? attributes node previous).map fun block => block.script attributes

/-- Occupants set down from an offset on, with what stood between the slots kept between them;
lines and columns are read off the new text. -/
def settle (text : Text) (cursor : Int) : List Attribute -> List Attribute -> List Attribute
  | occupant :: occupants, slot :: slots =>
    let position := text.position cursor
    let gap := match slots with
      | next :: _ => next.range.start - slot.range.stop
      | [] => 0
    { occupant.movedTo cursor with line := position.line, column := position.column }
      :: settle text (cursor + occupant.text.length + gap) occupants slots
  | _, _ => []

/-- A tag and the text that holds it. -/
structure Placed where
  tag : Tag
  text : Text
  deriving DecidableEq, Repr

/-- A tag and its text with a block rotated. -/
def Block.rotate (block : Block) (placed : Placed) : Placed :=
  let attributes := placed.tag.attributes
  let slots := block.slots attributes
  let text := (block.script attributes).apply placed.text
  let start := match slots with
    | slot :: _ => slot.range.start
    | [] => 0
  let settled := settle text start (block.occupants attributes) slots
  { tag := { placed.tag with
      attributes :=
        attributes.take block.first ++ settled ++ attributes.drop (block.first + slots.length) }
    text := text }

/-- A tag and its text with `node` moved before `previous`, if that can be done. -/
def rotate? (placed : Placed) (node previous : Attribute) : Option Placed :=
  (block? placed.tag.attributes node previous).map fun block => block.rotate placed

end TagOrder
