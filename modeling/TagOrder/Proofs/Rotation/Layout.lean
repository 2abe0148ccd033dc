import TagOrder.Proofs.Edit.Splice
import TagOrder.Proofs.Layout
import TagOrder.Proofs.Rotation.Block

/-!
# Rotations of laid out attributes

A rotation computes the new text by splicing replacements and the new ranges by a cursor that never
looks at the new text. On a laid out tag the two agree: the rotated attributes are laid out in the
rotated text, and the string in front of each slot is the one that stood there before
(`Block.rotate_laid`). `Block.rotate_text` gives the new text in one piece.
-/

namespace TagOrder

theorem Text.slice_zero (text : Text) {stop : Int} (positive : 0 ≤ stop) :
    text.slice 0 stop = text.before stop := by
  have joined := Text.before_append_slice text (Int.le_refl 0) positive
  rwa [Text.before_eq_take text (Int.le_refl 0), Int.toNat_zero, List.take_zero,
    List.nil_append] at joined

theorem weave_cons (string : Text) (strings : List Text) {pieces : List Text}
    (some : pieces ≠ []) :
    weave (string :: strings) pieces = string ++ interleave pieces strings := by
  obtain ⟨piece, rest, rfl⟩ := List.exists_cons_of_ne_nil some
  simp [weave, interleave]

/-- Replacing each slot by its occupant keeps the strings in front of the slots. -/
theorem splice_slots (text : Text) (cursor : Int) {slots occupants : List Attribute}
    (fit : occupants.length = slots.length) :
    Script.splice text cursor
        (List.zipWith (fun slot occupant => ⟨slot.range, occupant.text⟩) slots occupants) =
      weave (gaps text cursor slots) (occupants.map (·.text)) ++
        text.after (reach cursor slots) := by
  induction slots generalizing cursor occupants with
  | nil => simp [Script.splice, gaps, weave]
  | cons slot slots ih =>
    obtain ⟨occupant, rest, rfl⟩ := List.exists_cons_of_length_eq_add_one fit
    simp only [List.zipWith_cons_cons, Script.splice, gaps, List.map_cons, weave, reach_cons,
      List.append_assoc]
    rw [ih _ (by simpa using fit)]

/-- Replacements for laid out slots are in ascending order. -/
theorem ascending_slots {text : Text} {floor : Int} {slots occupants : List Attribute}
    (laid : Laid text floor slots) (fit : occupants.length = slots.length) :
    Script.Ascending text floor
      (List.zipWith (fun slot occupant => ⟨slot.range, occupant.text⟩) slots occupants) := by
  induction slots generalizing floor occupants with
  | nil =>
    rw [List.zipWith_nil_left]
    exact laid
  | cons slot slots ih =>
    obtain ⟨above, ordered, reads, behind⟩ := laid
    obtain ⟨occupant, rest, rfl⟩ := List.exists_cons_of_length_eq_add_one fit
    exact ⟨above, ordered, ih behind (by simpa using fit)⟩

theorem between_cons_cons (text : Text) (left right : Attribute) (rest : List Attribute) :
    between text (left :: right :: rest) =
      text.slice left.range.stop right.range.start :: between text (right :: rest) := rfl

theorem interleave_singleton (piece : Text) : interleave [piece] [] = piece := by
  simp [interleave, weave]

theorem interleave_cons_cons (piece string : Text) {pieces : List Text} (strings : List Text)
    (some : pieces ≠ []) :
    interleave (piece :: pieces) (string :: strings) =
      piece ++ string ++ interleave pieces strings := by
  rw [interleave, weave, weave_cons string strings some, List.nil_append, List.append_assoc]

/-- An attribute moved to an offset, with its line and column read off a text. -/
def Attribute.settledAt (node : Attribute) (text : Text) (cursor : Int) : Attribute :=
  { node.movedTo cursor with
    line := (text.position cursor).line, column := (text.position cursor).column }

@[simp] theorem text_settledAt (node : Attribute) (text : Text) (cursor : Int) :
    (node.settledAt text cursor).text = node.text := rfl

/-- The range of a settled attribute begins at the cursor and is as long as before. -/
theorem range_settledAt (node : Attribute) (text : Text) (cursor : Int) :
    (node.settledAt text cursor).range =
      ⟨cursor, cursor + (node.range.stop - node.range.start)⟩ := by
  simp only [Attribute.settledAt, Attribute.movedTo, Span.shift, Span.mk.injEq]
  omega

theorem settle_singleton (text : Text) (cursor : Int) (occupant slot : Attribute) :
    settle text cursor [occupant] [slot] = [occupant.settledAt text cursor] := rfl

theorem settle_cons_cons (text : Text) (cursor : Int) (occupant slot next : Attribute)
    (occupants slots : List Attribute) :
    settle text cursor (occupant :: occupants) (slot :: next :: slots) =
      occupant.settledAt text cursor ::
        settle text (cursor + occupant.text.length + (next.range.start - slot.range.stop))
          occupants (next :: slots) := rfl

/-- An attribute that ranges over its own text, in front of a layout, makes a layout. -/
theorem Laid.cons_of_holds {text lead rest : Text} {cursor : Int} {node : Attribute}
    {nodes : List Attribute} (ranges : node.range = ⟨cursor, cursor + node.text.length⟩)
    (filled : node.text ≠ []) (holds : text = lead ++ node.text ++ rest)
    (starts : cursor = lead.length) (behind : Laid text (cursor + node.text.length) nodes) :
    Laid text cursor (node :: nodes) := by
  have size := List.length_pos_iff.mpr filled
  have longer : cursor < cursor + node.text.length := by omega
  rw [Laid, ranges]
  refine ⟨Int.le_refl _, longer, ?_, behind⟩
  rw [Span.of, holds]
  exact (Text.slice_append_middle lead _ rest starts (by dsimp only; omega)).symm

/-- Occupants that stand in a text from a cursor on, with the strings between the slots between
them, are settled where they stand. -/
theorem settle_laid {text other lead rest : Text} {cursor floor : Int} {slot : Attribute}
    {occupants slots : List Attribute} (laid : Laid other floor (slot :: slots))
    (positive : 0 ≤ floor) (fit : occupants.length = (slot :: slots).length)
    (sized : ∀ occupant ∈ occupants, occupant.text ≠ [] ∧
      (occupant.text.length : Int) = occupant.range.stop - occupant.range.start)
    (holds : text = lead ++ interleave (occupants.map (·.text)) (between other (slot :: slots)) ++
      rest) (starts : cursor = lead.length) :
    ∃ first others, settle text cursor occupants (slot :: slots) = first :: others ∧
      first.range.start = cursor ∧ Laid text cursor (first :: others) ∧
      between text (first :: others) = between other (slot :: slots) ∧
      reach cursor (first :: others) = cursor +
        (interleave (occupants.map (·.text)) (between other (slot :: slots))).length := by
  -- The cursor stands behind `lead` at every step, so each occupant is read where it was put.
  induction slots generalizing lead cursor floor slot occupants with
  | nil =>
    obtain ⟨occupant, none, rfl⟩ := List.exists_cons_of_length_eq_add_one fit
    obtain rfl : none = [] := List.eq_nil_of_length_eq_zero (by simpa using fit)
    obtain ⟨filled, length⟩ := sized occupant List.mem_cons_self
    have alone : between other [slot] = [] := rfl
    rw [alone, List.map_singleton, interleave_singleton] at holds ⊢
    have whole := congrArg List.length holds
    simp only [List.length_append] at whole
    rw [settle_singleton]
    refine ⟨_, [], rfl, by rw [range_settledAt], ?_, rfl, ?_⟩
    · refine Laid.cons_of_holds (by rw [range_settledAt, text_settledAt, length]) filled holds
        starts ?_
      rw [text_settledAt, Laid]
      omega
    · rw [reach_cons, reach_nil, range_settledAt, length]
  | cons next slots ih =>
    obtain ⟨occupant, occupants, rfl⟩ := List.exists_cons_of_length_eq_add_one fit
    obtain ⟨above, ordered, reads, behind⟩ := laid
    have within := behind.of_mem List.mem_cons_self
    have bounds := behind.reach_bounds
    obtain ⟨filled, length⟩ := sized occupant List.mem_cons_self
    have gapLength : ((other.slice slot.range.stop next.range.start).length : Int) =
        next.range.start - slot.range.stop :=
      Text.length_slice other (by omega) within.1 (by omega)
    have remaining : occupants.map (·.text) ≠ [] := by
      intro none
      simp [List.map_eq_nil_iff.mp none] at fit
    rw [between_cons_cons, List.map_cons, interleave_cons_cons _ _ _ remaining] at holds ⊢
    generalize gap : other.slice slot.range.stop next.range.start = string at *
    have here : text = lead ++ occupant.text ++ string ++
        interleave (occupants.map (·.text)) (between other (next :: slots)) ++ rest := by
      simpa only [List.append_assoc] using holds
    have further : cursor + occupant.text.length + (next.range.start - slot.range.stop) =
        (lead ++ occupant.text ++ string).length := by
      simp only [List.length_append]
      omega
    obtain ⟨first, others, settled, start, tail, same, ends⟩ := ih behind (by omega)
      (by simpa using fit) (fun other member => sized other (List.mem_cons_of_mem _ member)) here
      further
    rw [settle_cons_cons, settled]
    refine ⟨_, first :: others, rfl, by rw [range_settledAt], ?_, ?_, ?_⟩
    · refine Laid.cons_of_holds (by rw [range_settledAt, text_settledAt, length]) filled
        (by simpa only [List.append_assoc, text_settledAt] using holds) starts ?_
      exact tail.lower (by rw [text_settledAt]; omega)
    · rw [between_cons_cons, same, range_settledAt, start, ← length]
      congr 1
      rw [here, List.append_assoc]
      exact Text.slice_append_middle _ _ _ (by simp only [List.length_append]; omega)
        (by simp only [List.length_append]; omega)
    · rw [reach_cons, reach_of_ne_nil (List.cons_ne_nil _ _) _
        (cursor + occupant.text.length + (next.range.start - slot.range.stop)), ends]
      simp only [List.length_append]
      omega

theorem gaps_cons (text : Text) (floor : Int) (node : Attribute) (rest : List Attribute) :
    gaps text floor (node :: rest) =
      text.slice floor node.range.start :: between text (node :: rest) := rfl

namespace Block

variable {block : Block} {placed : Placed} {slot : Attribute} {rest : List Attribute}

/-- The slots of a laid out tag are laid out behind what stands before the block. -/
theorem slots_laid (fits : block.Fits placed.tag.attributes)
    (laid : Laid placed.text 0 placed.tag.attributes) :
    Laid placed.text (reach 0 (placed.tag.attributes.take block.first))
      (block.slots placed.tag.attributes) := by
  rw [eq_append fits, ← slots_eq fits, Laid.append_iff, Laid.append_iff] at laid
  exact laid.1.2

/-- The slots of a laid out tag begin at or behind the front of the text. -/
theorem slots_floor (fits : block.Fits placed.tag.attributes)
    (laid : Laid placed.text 0 placed.tag.attributes) :
    0 ≤ reach 0 (placed.tag.attributes.take block.first) := by
  rw [eq_append fits, List.append_assoc, Laid.append_iff] at laid
  exact laid.1.reach_bounds.1

/-- The rotated text: what stands before the block, the texts of the occupants with the strings
between the slots between them, and what stands behind the block. -/
theorem rotate_text (fits : block.Fits placed.tag.attributes)
    (laid : Laid placed.text 0 placed.tag.attributes)
    (slots : block.slots placed.tag.attributes = slot :: rest) :
    (block.rotate placed).text = placed.text.before slot.range.start ++
      interleave ((block.occupants placed.tag.attributes).map (·.text))
        (between placed.text (slot :: rest)) ++
      placed.text.after (reach 0 (slot :: rest)) := by
  have slotsLaid := slots_laid fits laid
  have floor := slots_floor fits laid
  have fit := length_occupants fits
  have above := (slotsLaid.of_mem (slots ▸ List.mem_cons_self)).1
  have some : (block.occupants placed.tag.attributes).map (·.text) ≠ [] := by
    intro none
    rw [List.map_eq_nil_iff.mp none, slots] at fit
    simp at fit
  change (block.script placed.tag.attributes).apply placed.text = _
  unfold script
  rw [Script.apply_eq_splice (.refl _) (ascending_slots (slotsLaid.lower floor) fit),
    splice_slots _ _ fit, slots, gaps_cons, weave_cons _ _ some,
    Text.slice_zero placed.text (by omega)]

/-- There is a string between every two occupants. -/
theorem length_between (fits : block.Fits placed.tag.attributes)
    (slots : block.slots placed.tag.attributes = slot :: rest) :
    (between placed.text (slot :: rest)).length + 1 =
      ((block.occupants placed.tag.attributes).map (·.text)).length := by
  rw [List.length_map, length_occupants fits, slots, between, length_gaps, List.length_cons]

/-- The occupants take as much room as the slots. -/
theorem length_occupied (fits : block.Fits placed.tag.attributes)
    (laid : Laid placed.text 0 placed.tag.attributes)
    (slots : block.slots placed.tag.attributes = slot :: rest) :
    ((interleave ((block.occupants placed.tag.attributes).map (·.text))
      (between placed.text (slot :: rest))).length : Int) =
        reach 0 (slot :: rest) - slot.range.start := by
  have slotsLaid := slots_laid fits laid
  have floor := slots_floor fits laid
  rw [slots] at slotsLaid
  have bounds := slotsLaid.reach_bounds
  have first := slotsLaid.of_mem List.mem_cons_self
  have paired := length_between fits slots
  rw [(interleave_perm ((occupants_perm fits).map _) paired).length_eq, slots,
    ← slotsLaid.slice_eq_interleave floor,
    reach_of_ne_nil (List.cons_ne_nil _ _) 0
      (reach 0 (placed.tag.attributes.take block.first))]
  exact Text.length_slice _ (by omega) (by omega) bounds.2

/-- The slots of a laid out tag cover a part of the text that is not empty. -/
theorem slots_bounds (fits : block.Fits placed.tag.attributes)
    (laid : Laid placed.text 0 placed.tag.attributes)
    (slots : block.slots placed.tag.attributes = slot :: rest) :
    0 ≤ slot.range.start ∧ slot.range.start < reach 0 (slot :: rest) ∧
      reach 0 (slot :: rest) ≤ placed.text.length := by
  have slotsLaid := slots_laid fits laid
  have floor := slots_floor fits laid
  rw [slots] at slotsLaid
  have bounds := slotsLaid.reach_bounds
  have first := slotsLaid.of_mem List.mem_cons_self
  rw [reach_of_ne_nil (List.cons_ne_nil slot rest) 0
    (reach 0 (placed.tag.attributes.take block.first))]
  omega

/-- A rotation changes nothing outside its block. -/
theorem rotate_sameExcept (fits : block.Fits placed.tag.attributes)
    (laid : Laid placed.text 0 placed.tag.attributes)
    (slots : block.slots placed.tag.attributes = slot :: rest) :
    Text.SameExcept (Span.Covers ⟨slot.range.start, reach 0 (slot :: rest)⟩) placed.text
      (block.rotate placed).text := by
  obtain ⟨starts, ordered, stops⟩ := slots_bounds fits laid slots
  rw [rotate_text fits laid slots]
  exact Text.sameExcept_replace _ _ starts (Int.le_of_lt ordered) stops
    (length_occupied fits laid slots)

/-- The settled occupants stand where the slots stood, with the same strings between them. -/
theorem settled_laid (fits : block.Fits placed.tag.attributes)
    (laid : Laid placed.text 0 placed.tag.attributes)
    (slots : block.slots placed.tag.attributes = slot :: rest) :
    ∃ first others, settle (block.rotate placed).text slot.range.start
        (block.occupants placed.tag.attributes) (block.slots placed.tag.attributes) =
          first :: others ∧
      first.range.start = slot.range.start ∧
      Laid (block.rotate placed).text slot.range.start (first :: others) ∧
      between (block.rotate placed).text (first :: others) =
        between placed.text (slot :: rest) ∧
      reach slot.range.start (first :: others) = reach 0 (slot :: rest) := by
  have slotsLaid := slots_laid fits laid
  have floor := slots_floor fits laid
  have sized : ∀ occupant ∈ block.occupants placed.tag.attributes, occupant.text ≠ [] ∧
      (occupant.text.length : Int) = occupant.range.stop - occupant.range.start := by
    intro occupant member
    have inSlots := (occupants_perm fits).subset member
    have length := slotsLaid.length_text floor inSlots
    have ordered := (slotsLaid.of_mem inSlots).2.1
    exact ⟨List.length_pos_iff.mp (by omega), length⟩
  have fit := length_occupants fits
  obtain ⟨starts, ordered, stops⟩ := slots_bounds fits laid slots
  rw [slots] at slotsLaid fit ⊢
  obtain ⟨first, others, settled, start, settledLaid, same, ends⟩ :=
    settle_laid slotsLaid floor fit sized (rotate_text fits laid slots)
      (Text.length_before placed.text starts (by omega)).symm
  have room := length_occupied fits laid slots
  exact ⟨first, others, settled, start, settledLaid, same, by omega⟩

/-- What a rotation keeps of a layout: the rotated attributes are laid out in the rotated text, with
the same string in front of each slot and the same end. -/
theorem rotate_laid (fits : block.Fits placed.tag.attributes)
    (laid : Laid placed.text 0 placed.tag.attributes) :
    Laid (block.rotate placed).text 0 (block.rotate placed).tag.attributes ∧
      gaps (block.rotate placed).text 0 (block.rotate placed).tag.attributes =
        gaps placed.text 0 placed.tag.attributes ∧
      reach 0 (block.rotate placed).tag.attributes = reach 0 placed.tag.attributes := by
  obtain ⟨slot, rest, slots⟩ := exists_slot fits
  obtain ⟨first, others, settled, start, settledLaid, same, ends⟩ :=
    settled_laid fits laid slots
  have outside := rotate_sameExcept fits laid slots
  have whole : placed.tag.attributes = placed.tag.attributes.take block.first ++
      (slot :: rest) ++ placed.tag.attributes.drop (block.last + 1) := by
    rw [← slots, slots_eq fits]
    exact eq_append fits
  have floor := slots_floor fits laid
  rw [rotate_attributes fits slots, settled]
  generalize placed.tag.attributes.take block.first = front at *
  generalize placed.tag.attributes.drop (block.last + 1) = back at *
  generalize (block.rotate placed).text = text at *
  rw [whole] at laid ⊢
  obtain ⟨frontSlotsLaid, backLaid⟩ := Laid.append_iff.mp laid
  obtain ⟨frontLaid, slotsLaid⟩ := Laid.append_iff.mp frontSlotsLaid
  have head := slotsLaid.of_mem List.mem_cons_self
  have slotsBounds := slotsLaid.reach_bounds
  have firstEnds : reach (reach 0 front) (first :: others) = reach 0 (slot :: rest) :=
    (reach_of_ne_nil (List.cons_ne_nil _ _) _ _).trans ends
  have slotsEnds : reach (reach 0 front) (slot :: rest) = reach 0 (slot :: rest) :=
    reach_of_ne_nil (List.cons_ne_nil _ _) _ _
  rw [reach_append, slotsEnds] at backLaid
  rw [slotsEnds] at slotsBounds
  -- Front and back lie outside the block, so both are as they were.
  have frontSame : ∀ offset : Nat, 0 ≤ (offset : Int) → offset < reach 0 front →
      text[offset]? = placed.text[offset]? :=
    fun offset _ below => outside.elsewhere offset fun covered => by
      have above := covered.1
      dsimp only at above
      omega
  have backSame : ∀ offset : Nat, reach 0 (slot :: rest) ≤ (offset : Int) →
      offset < reach (reach 0 (slot :: rest)) back → text[offset]? = placed.text[offset]? :=
    fun offset above _ => outside.elsewhere offset fun covered => by
      have below := covered.2
      dsimp only at below
      omega
  refine ⟨?_, ?_, ?_⟩
  · rw [Laid.append_iff, Laid.append_iff, reach_append, firstEnds]
    have frontStays := frontLaid.congr (Int.le_refl 0) outside.length frontSame
    refine ⟨⟨frontStays, settledLaid.lower head.1⟩, ?_⟩
    exact backLaid.congr (by omega) outside.length backSame
  · rw [gaps_append, gaps_append, gaps_append, gaps_append, reach_append, reach_append, firstEnds,
      slotsEnds, frontLaid.gaps_congr (Int.le_refl 0) frontSame,
      backLaid.gaps_congr (by omega) backSame, gaps_cons, gaps_cons, same, start,
      outside.slice_eq floor head.1 fun offset _ below covered => by
        have above := covered.1
        dsimp only at above
        omega]
  · rw [reach_append, reach_append, reach_append, reach_append, firstEnds, slotsEnds]

end Block

end TagOrder
