import TagOrder.Proofs.Repair.Run
import TagOrder.Proofs.Rotation.Layout

/-!
# What rotations and repairs keep

A laid out tag stays laid out under rotations, with the same string in front of each slot, the same
span, the same attributes in some order, and the same text outside the span. `Placed.Kept` says so
of two tags in their texts, for one rotation (`Placed.Kept.rotate`), for every run and for every
repair. Keys play no part in it.
-/

namespace TagOrder

/-- Whether an offset lies in what the attributes of a tag cover. -/
def Tag.Covers (tag : Tag) (offset : Nat) : Prop :=
  ∃ span, tag.span = some span ∧ span.Covers offset

/-- What stays of a laid out tag in its text when its attributes are put in another order. -/
structure Placed.Kept (origin placed : Placed) : Prop where
  laid : Laid placed.text 0 placed.tag.attributes
  gaps : gaps placed.text 0 placed.tag.attributes = gaps origin.text 0 origin.tag.attributes
  contents : (placed.tag.attributes.map Attribute.unplaced).Perm
    (origin.tag.attributes.map Attribute.unplaced)
  span : placed.tag.span = origin.tag.span
  text : Text.SameExcept origin.tag.Covers origin.text placed.text

/-- A tag covers the text from the start of its first attribute to where they come to their end. -/
theorem Tag.span_of_cons {tag : Tag} {first : Attribute} {rest : List Attribute}
    (attributes : tag.attributes = first :: rest) :
    tag.span = some ⟨first.range.start, reach 0 tag.attributes⟩ := by
  obtain ⟨last, atEnd⟩ : ∃ last, (first :: rest).getLast? = some last :=
    ⟨_, List.getLast?_eq_some_getLast (List.cons_ne_nil _ _)⟩
  rw [attributes, reach_of_getLast? atEnd, Tag.span, attributes, atEnd]
  rfl

/-- A tag without a span has no attributes. -/
theorem Tag.span_eq_none_iff {tag : Tag} : tag.span = none ↔ tag.attributes = [] := by
  cases attributes : tag.attributes with
  | nil => simp [Tag.span, attributes]
  | cons first rest => simp [Tag.span_of_cons attributes]

/-- The span of a laid out tag lies in its text and is not empty. -/
theorem Laid.span_bounds {tag : Tag} {text : Text} {span : Span}
    (laid : Laid text 0 tag.attributes) (covers : tag.span = some span) :
    0 ≤ span.start ∧ span.start < span.stop ∧ span.stop ≤ text.length := by
  cases attributes : tag.attributes with
  | nil => simp [Tag.span_eq_none_iff.mpr attributes] at covers
  | cons first rest =>
    rw [Tag.span_of_cons attributes] at covers
    obtain rfl := Option.some.inj covers
    rw [attributes] at laid ⊢
    have bounds := laid.reach_bounds
    have head := laid.of_mem List.mem_cons_self
    dsimp only
    omega

/-- Laid out tags with the same strings in front of their attributes begin together. -/
theorem Laid.span_eq {left right : Placed} (leftLaid : Laid left.text 0 left.tag.attributes)
    (rightLaid : Laid right.text 0 right.tag.attributes)
    (same : gaps left.text 0 left.tag.attributes = gaps right.text 0 right.tag.attributes)
    (ends : reach 0 left.tag.attributes = reach 0 right.tag.attributes) :
    left.tag.span = right.tag.span := by
  have length := congrArg List.length same
  rw [length_gaps, length_gaps] at length
  cases leftNodes : left.tag.attributes with
  | nil =>
    rw [leftNodes] at length
    rw [Tag.span_eq_none_iff.mpr leftNodes,
      Tag.span_eq_none_iff.mpr (List.eq_nil_of_length_eq_zero length.symm)]
  | cons first rest =>
    obtain ⟨other, others, rightNodes⟩ : ∃ other others, right.tag.attributes = other :: others :=
      List.exists_cons_of_length_pos (by rw [← length, leftNodes]; simp)
    rw [Tag.span_of_cons leftNodes, Tag.span_of_cons rightNodes, ends]
    rw [leftNodes] at leftLaid same
    rw [rightNodes] at rightLaid same
    have leftEnds := leftLaid.reach_bounds
    have rightEnds := rightLaid.reach_bounds
    have leftHead := leftLaid.of_mem List.mem_cons_self
    have rightHead := rightLaid.of_mem List.mem_cons_self
    have leftLength := Text.length_slice left.text (Int.le_refl 0) leftHead.1 (by omega)
    have rightLength := Text.length_slice right.text (Int.le_refl 0) rightHead.1 (by omega)
    rw [(List.cons.inj same).1] at leftLength
    congr 2
    omega

/-- The strings between the attributes of a tag are those in front of them but the first. -/
theorem tail_gaps (text : Text) (floor : Int) (nodes : List Attribute) :
    (gaps text floor nodes).tail = between text nodes := by
  cases nodes <;> rfl

theorem Placed.spanText_of_span (placed : Placed) {span : Span}
    (covers : placed.tag.span = some span) : placed.spanText = span.of placed.text := by
  rw [Placed.spanText, covers]

/-- What the attributes of a laid out tag cover: their texts, with the strings between them. -/
theorem Laid.spanText_eq {placed : Placed} (laid : Laid placed.text 0 placed.tag.attributes) :
    placed.spanText = interleave (placed.tag.attributes.map (·.text))
      (between placed.text placed.tag.attributes) := by
  unfold Placed.spanText
  cases attributes : placed.tag.attributes with
  | nil =>
    rw [Tag.span_eq_none_iff.mpr attributes]
    rfl
  | cons first rest =>
    rw [Tag.span_of_cons attributes, attributes]
    rw [attributes] at laid
    exact laid.slice_eq_interleave (Int.le_refl 0)

/-- A slot of a block lies in the span of the tag. -/
theorem Block.covers {block : Block} {placed : Placed} {slot : Attribute} {rest : List Attribute}
    (fits : block.Fits placed.tag.attributes)
    (laid : Laid placed.text 0 placed.tag.attributes)
    (slots : block.slots placed.tag.attributes = slot :: rest) {offset : Nat}
    (inside : Span.Covers ⟨slot.range.start, reach 0 (slot :: rest)⟩ offset) :
    placed.tag.Covers offset := by
  have whole := eq_append fits
  rw [← slots_eq fits, slots] at whole
  cases attributes : placed.tag.attributes with
  | nil => simp [attributes] at whole
  | cons first others =>
    refine ⟨_, Tag.span_of_cons attributes, ?_⟩
    have member : slot ∈ placed.tag.attributes := by rw [whole]; simp
    have below : reach 0 (slot :: rest) ≤ reach 0 placed.tag.attributes := by
      rw [whole] at laid ⊢
      rw [Laid.append_iff] at laid
      rw [reach_append]
      have bounds := laid.2.reach_bounds
      rw [reach_append] at bounds ⊢
      rw [reach_of_ne_nil (List.cons_ne_nil slot rest) 0
        (reach 0 (placed.tag.attributes.take block.first))]
      exact bounds.1
    have above : first.range.start ≤ slot.range.start := by
      rw [attributes] at member laid
      rcases List.mem_cons.mp member with rfl | later
      · exact Int.le_refl _
      · obtain ⟨_, ordered, _, behind⟩ := laid
        have after := (behind.of_mem later).1
        omega
    obtain ⟨starts, stops⟩ := inside
    dsimp only at starts stops
    constructor
    · dsimp only
      omega
    · dsimp only
      omega

namespace Placed.Kept

variable {origin middle final : Placed}

theorem refl (laid : Laid origin.text 0 origin.tag.attributes) : Kept origin origin :=
  ⟨laid, rfl, .refl _, rfl, .refl _ _⟩

theorem trans (first : Kept origin middle) (second : Kept middle final) : Kept origin final where
  laid := second.laid
  gaps := second.gaps.trans first.gaps
  contents := second.contents.trans first.contents
  span := second.span.trans first.span
  text := by
    refine first.text.trans (second.text.widen fun offset inside => ?_)
    obtain ⟨span, covers, within⟩ := inside
    exact ⟨span, first.span ▸ covers, within⟩

/-- What a rotation keeps. -/
theorem rotate {block : Block} (fits : block.Fits origin.tag.attributes)
    (laid : Laid origin.text 0 origin.tag.attributes) : Kept origin (block.rotate origin) := by
  obtain ⟨slot, rest, slots⟩ := Block.exists_slot fits
  obtain ⟨rotated, sameGaps, sameEnd⟩ := Block.rotate_laid fits laid
  refine ⟨rotated, sameGaps, ?_, Laid.span_eq rotated laid sameGaps sameEnd, ?_⟩
  · rw [Block.rotate_unplaced fits]
    refine List.Perm.map _ ?_
    conv => rhs; rw [Block.eq_append fits]
    exact (List.perm_append_comm.append_left _).append_right _
  · exact (Block.rotate_sameExcept fits laid slots).widen fun offset inside =>
      Block.covers fits laid slots inside

/-- What every run of rotations keeps. -/
theorem rotations {moves : List Move} (run : Rotations origin moves final)
    (laid : Laid origin.text 0 origin.tag.attributes) : Kept origin final := by
  refine run.invariant _ (fun kept rotated => ?_) (refl laid)
  obtain ⟨block, found, rfl⟩ := rotate?_eq_some.mp rotated
  exact kept.trans (rotate (block?_fits found) kept.laid)

/-- What every repair keeps. -/
theorem repair {rule : Rule} {result : Repair}
    (laid : Laid origin.text 0 origin.tag.attributes)
    (repaired : repair rule origin = .ok result) : Kept origin result.placed := by
  obtain ⟨⟨moves, run⟩, -⟩ := repair_rotations repaired
  exact rotations run laid

/-- The texts of the attributes are the same, in some order. -/
theorem texts (kept : Kept origin final) :
    (final.tag.attributes.map (·.text)).Perm (origin.tag.attributes.map (·.text)) := by
  have texts := kept.contents.map Attribute.text
  simpa only [List.map_map, Function.comp_def, Attribute.text_unplaced] using texts

/-- Every attribute has the key of one that was there at first. -/
theorem exists_keyText (kept : Kept origin final) {node : Attribute}
    (member : node ∈ final.tag.attributes) :
    ∃ other ∈ origin.tag.attributes, other.keyText = node.keyText := by
  obtain ⟨other, otherMember, same⟩ :=
    List.mem_map.mp (kept.contents.subset (List.mem_map_of_mem member))
  refine ⟨other, otherMember, ?_⟩
  rw [← Attribute.keyText_unplaced, same, Attribute.keyText_unplaced]

/-- What the attributes cover: their texts, with the strings that stood between them at first. -/
theorem spanText_eq (kept : Kept origin final) :
    final.spanText = interleave (final.tag.attributes.map (·.text))
      (between origin.text origin.tag.attributes) := by
  have strings := congrArg List.tail kept.gaps
  rw [tail_gaps, tail_gaps] at strings
  rw [kept.laid.spanText_eq, strings]

/-- The attributes cover the same characters, in some order. -/
theorem spanText_perm (kept : Kept origin final)
    (laid : Laid origin.text 0 origin.tag.attributes) :
    final.spanText.Perm origin.spanText := by
  have texts := kept.texts
  rw [kept.spanText_eq, laid.spanText_eq]
  cases attributes : origin.tag.attributes with
  | nil =>
    rw [attributes] at texts
    rw [List.Perm.eq_nil texts]
    rfl
  | cons first rest =>
    rw [attributes] at texts
    refine interleave_perm texts ?_
    rw [texts.length_eq, between, length_gaps, List.length_map, List.length_cons]

end Placed.Kept

end TagOrder
