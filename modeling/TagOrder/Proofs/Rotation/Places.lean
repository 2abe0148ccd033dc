import Mathlib.Logic.Equiv.Defs
import TagOrder.Proofs.Rotation.Run

/-!
# Where a rotation puts each attribute

A rotation exchanges two neighbouring runs of places. `Block.relocate` sends each place to the place
at which its attribute is found afterwards, and the block that undoes a rotation sends it
back (`Block.relocate_reversed`). Only a moving attribute and one that it passes change their order.
-/

namespace TagOrder

namespace Block

/-- The place at which a rotation puts the attribute of a place. -/
def relocate (block : Block) (place : Nat) : Nat :=
  if place < block.first ∨ block.last < place then place
  else if place < block.moving then place + (block.last + 1 - block.moving)
  else place - (block.moving - block.first)

/-- The block whose rotation undoes that of another. -/
def reversed (block : Block) : Block :=
  ⟨block.first, block.first + (block.last + 1 - block.moving), block.last⟩

variable {block : Block} {attributes : List Attribute}

/-- Places stay inside the list. -/
theorem relocate_lt (fits : block.Fits attributes) {place : Nat}
    (inside : place < attributes.length) : block.relocate place < attributes.length := by
  have passes := fits.passes
  have moves := fits.moves
  have bound := fits.inside
  unfold relocate
  split
  · exact inside
  · split <;> omega

theorem reversed_fits (fits : block.Fits attributes) : block.reversed.Fits attributes := by
  obtain ⟨passes, moves, inside⟩ := fits
  constructor <;> simp only [reversed] <;> omega

/-- Undoing a rotation brings every place back. -/
theorem relocate_reversed (fits : block.Fits attributes) (place : Nat) :
    block.reversed.relocate (block.relocate place) = place := by
  obtain ⟨passes, moves, inside⟩ := fits
  unfold relocate reversed
  dsimp only
  by_cases outside : place < block.first ∨ block.last < place
  · rw [if_pos outside, if_pos outside]
  · rw [if_neg outside]
    by_cases passed : place < block.moving
    · rw [if_pos passed, if_neg (by omega), if_neg (by omega)]
      omega
    · rw [if_neg passed, if_neg (by omega), if_pos (by omega)]
      omega

theorem reversed_reversed (fits : block.Fits attributes) : block.reversed.reversed = block := by
  obtain ⟨first, moving, last⟩ := block
  obtain ⟨passes, moves, inside⟩ := fits
  simp only [reversed, Block.mk.injEq, true_and, and_true]
  dsimp only at passes moves
  omega

/-- Two places change their order only when the first is passed and the second moves. -/
theorem relocate_lt_relocate (fits : block.Fits attributes) {left right : Nat}
    (ordered : left < right)
    (kept : ¬ (block.first ≤ left ∧ left < block.moving ∧
      block.moving ≤ right ∧ right ≤ block.last)) :
    block.relocate left < block.relocate right := by
  have passes := fits.passes
  have moves := fits.moves
  unfold relocate
  split <;> split <;> (try split) <;> (try split) <;> omega

theorem mem_passed {place : Nat} {node : Attribute}
    (above : block.first ≤ place) (below : place < block.moving)
    (stands : attributes[place]? = some node) : node ∈ block.passed attributes := by
  apply List.mem_of_getElem? (i := place - block.first)
  rw [passed, List.getElem?_drop, List.getElem?_take, if_pos (by omega),
    Nat.add_sub_cancel' above, stands]

theorem mem_movers {place : Nat} {node : Attribute}
    (above : block.moving ≤ place) (below : place ≤ block.last)
    (stands : attributes[place]? = some node) : node ∈ block.movers attributes := by
  apply List.mem_of_getElem? (i := place - block.moving)
  rw [movers, List.getElem?_drop, List.getElem?_take, if_pos (by omega),
    Nat.add_sub_cancel' above, stands]

/-- The exchanged list has at each relocated place what stood at the place. -/
theorem getElem?_exchanged (fits : block.Fits attributes) (place : Nat) :
    (attributes.take block.first ++ (block.movers attributes ++ block.passed attributes) ++
      attributes.drop (block.last + 1))[block.relocate place]? = attributes[place]? := by
  obtain ⟨passes, moves, bound⟩ := fits
  have front : (attributes.take block.first).length = block.first := by
    rw [List.length_take]; omega
  have moversLength : (block.movers attributes).length = block.last + 1 - block.moving := by
    rw [movers, List.length_drop, List.length_take]; omega
  have passedLength : (block.passed attributes).length = block.moving - block.first := by
    rw [passed, List.length_drop, List.length_take]; omega
  unfold relocate
  simp only [List.getElem?_append, List.length_append, front, moversLength, passedLength]
  by_cases outside : place < block.first ∨ block.last < place
  · rw [if_pos outside]
    rcases outside with before | behind
    · rw [if_pos (by omega), if_pos before, List.getElem?_take, if_pos before]
    · rw [if_neg (by omega), List.getElem?_drop]
      congr 1
      omega
  · rw [if_neg outside]
    by_cases passing : place < block.moving
    · rw [if_pos passing, if_pos (by omega), if_neg (by omega), if_neg (by omega), passed,
        List.getElem?_drop, List.getElem?_take, if_pos (by omega)]
      congr 1
      omega
    · rw [if_neg passing, if_pos (by omega), if_neg (by omega), if_pos (by omega), movers,
        List.getElem?_drop, List.getElem?_take, if_pos (by omega)]
      congr 1
      omega

theorem length_rotate {placed : Placed} (fits : block.Fits placed.tag.attributes) :
    (block.rotate placed).tag.attributes.length = placed.tag.attributes.length := by
  have images := congrArg List.length (rotate_unplaced fits)
  have whole := congrArg List.length (eq_append fits)
  simp only [List.length_map, List.length_append] at images whole
  omega

/-- The places of a list, taken to the places of the rotated list. -/
def places {placed : Placed} (fits : block.Fits placed.tag.attributes) :
    Fin placed.tag.attributes.length ≃ Fin (block.rotate placed).tag.attributes.length where
  toFun place :=
    ⟨block.relocate place, by rw [length_rotate fits]; exact relocate_lt fits place.isLt⟩
  invFun place :=
    ⟨block.reversed.relocate place,
      relocate_lt (reversed_fits fits) (by rw [← length_rotate fits]; exact place.isLt)⟩
  left_inv place := Fin.ext (relocate_reversed fits place)
  right_inv place := by
    apply Fin.ext
    have back := relocate_reversed (reversed_fits fits) place
    rw [reversed_reversed fits] at back
    exact back

/-- Every attribute is found where its place was taken. -/
theorem get_places {placed : Placed} (fits : block.Fits placed.tag.attributes)
    (place : Fin placed.tag.attributes.length) :
    ((block.rotate placed).tag.attributes.get (places fits place)).unplaced =
      (placed.tag.attributes.get place).unplaced := by
  have images := congrArg (fun nodes => nodes[block.relocate place]?) (rotate_unplaced fits)
  simp only [List.getElem?_map, getElem?_exchanged fits place] at images
  have target : block.relocate place < (block.rotate placed).tag.attributes.length :=
    (places fits place).isLt
  rw [List.getElem?_eq_getElem target, List.getElem?_eq_getElem place.isLt] at images
  exact Option.some.inj images

end Block

end TagOrder
