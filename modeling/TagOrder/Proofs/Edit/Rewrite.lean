import Mathlib.Algebra.BigOperators.Group.List.Basic
import Mathlib.Algebra.Ring.Int.Defs
import TagOrder.Proofs.Edit.Order

/-!
# What a script makes of a text

`Script.Makes` derives what becomes of a text when all edits take effect at once: piece by piece
from the front, what a range covers gives way to its replacement and what lies in front of it is
kept. It makes one text only (`Script.Makes.unique`), whose length is told by the edits
(`Script.Makes.length_eq`). Where no range is empty and no two overlap, this is the text that a
script comes to when its edits are made one by one, in whatever order they are listed
(`Script.apply_makes`).
-/

namespace TagOrder

namespace Script

/-- What becomes of a text that begins at an offset, under edits that are listed from the front to
the back and take effect at once. -/
inductive Makes : Int -> Text -> Script -> Text -> Prop where
  | rest {offset text} : Makes offset text [] text
  | edit {offset : Int} {kept covered text result : Text} {edit : Edit} {edits : Script}
      (starts : edit.range.start = offset + kept.length)
      (stops : edit.range.stop = edit.range.start + covered.length)
      (behind : Makes edit.range.stop text edits result) :
      Makes offset (kept ++ covered ++ text) (edit :: edits) (kept ++ edit.replacement ++ result)

namespace Makes

variable {offset : Int} {text one other result : Text} {script : Script}

/-- Edits make one text of a text. -/
theorem unique (makes : Makes offset text script one) (others : Makes offset text script other) :
    one = other := by
  induction makes generalizing other with
  | rest =>
    cases others
    rfl
  | @edit offset kept covered text edit edits result starts stops _ ih =>
    generalize whole : kept ++ covered ++ text = source at others
    cases others with
    | @edit _ keptToo coveredToo textToo _ _ resultToo startsToo stopsToo behindToo =>
      -- The pieces are told by where the range starts and stops.
      obtain ⟨sameFront, rfl⟩ := List.append_inj whole (by
        rw [List.length_append, List.length_append]
        omega)
      obtain ⟨rfl, rfl⟩ := List.append_inj sameFront (by omega)
      rw [ih behindToo]

/-- The length grows by what is put in and shrinks by what is taken out. -/
theorem length_eq (makes : Makes offset text script result) :
    (result.length : Int) =
      text.length + (script.map fun edit => (edit.replacement.length : Int)).sum -
        (script.map fun edit => edit.range.stop - edit.range.start).sum := by
  induction makes with
  | rest => simp
  | @edit offset kept covered text edit edits result starts stops _ ih =>
    simp only [List.length_append, List.map_cons, List.sum_cons]
    omega

/-- Splicing makes the text. -/
theorem splice {whole : Text} (positive : 0 ≤ offset)
    (successive : Successive whole offset script) :
    Makes offset (whole.after offset) script (Script.splice whole offset script) := by
  induction script generalizing offset with
  | nil => exact .rest
  | cons edit rest ih =>
    obtain ⟨above, ordered, behind⟩ := successive
    have bounded : edit.range.stop ≤ whole.length := behind.floor_le
    have kept := Text.length_slice whole positive above (by omega)
    have covered := Text.length_slice whole (by omega) ordered bounded
    have pieces : whole.after offset = whole.slice offset edit.range.start ++
        whole.slice edit.range.start edit.range.stop ++ whole.after edit.range.stop := by
      rw [Text.slice_append_slice whole positive above ordered,
        Text.slice_append_after whole positive (by omega)]
    rw [pieces]
    exact .edit (by omega) (by omega) (ih (by omega) behind)

end Makes

variable {text : Text} {script : Script}

/-- Successive edits that replace something each are ascending. -/
theorem Successive.ascending {floor : Int} (successive : Successive text floor script)
    (covers : ∀ edit ∈ script, edit.range.start < edit.range.stop) :
    Ascending text floor script := by
  induction script generalizing floor with
  | nil => exact successive
  | cons edit rest ih =>
    obtain ⟨above, -, behind⟩ := successive
    obtain ⟨here, later⟩ := List.forall_mem_cons.mp covers
    exact ⟨above, here, ih behind later⟩

/-- Edits that replace something each and do not overlap can be put in ascending order. -/
theorem ascending_fromBack (fits : ∀ edit ∈ script, edit.Fits text)
    (covers : ∀ edit ∈ script, edit.range.start < edit.range.stop)
    (apart : script.Pairwise fun left right => left.range.overlaps right.range = false) :
    Ascending text 0 script.fromBack.reverse := by
  have clear : script.Pairwise fun left right => right.range.overlaps left.range = false :=
    apart.imp fun {left right} clear => by rwa [Span.overlaps_comm]
  have listed : script.Pairwise Edit.MayPrecede := by
    refine List.pairwise_of_forall_mem_list fun left here right _ _ empty => ?_
    exact absurd empty (Int.ne_of_lt (covers left here))
  refine (successive_fromBack fits clear listed).ascending fun edit member => ?_
  exact covers edit (script.fromBack_perm.subset (List.mem_reverse.mp member))

/-- Edits of a text that replace something each and do not overlap take effect at once. Put in the
order of their starts they make exactly one text, and this is what the script comes to; so it comes
to the same text in whatever order its edits are listed, and the length of that text is told by
theirs. -/
theorem apply_makes (fits : ∀ edit ∈ script, edit.Fits text)
    (covers : ∀ edit ∈ script, edit.range.start < edit.range.stop)
    (apart : script.Pairwise fun left right => left.range.overlaps right.range = false) :
    (∃ sorted : Script, sorted.Perm script ∧
      (sorted.Pairwise fun left right => left.range.start < right.range.start) ∧
      ∀ result, Makes 0 text sorted result ↔ result = script.apply text) ∧
    (∀ other : Script, other.Perm script → other.apply text = script.apply text) ∧
    ((script.apply text).length : Int) =
      text.length + (script.map fun edit => (edit.replacement.length : Int)).sum -
        (script.map fun edit => edit.range.stop - edit.range.start).sum := by
  have same : script.fromBack.reverse.Perm script :=
    (List.reverse_perm _).trans script.fromBack_perm
  have ascending := ascending_fromBack fits covers apart
  have applied := apply_eq_splice same.symm ascending
  have makes : Makes 0 text script.fromBack.reverse (script.apply text) := by
    have spliced := Makes.splice (Int.le_refl 0) ascending.successive
    rwa [Text.after_zero, ← applied] at spliced
  refine ⟨⟨_, same, ascending.pairwise_start, fun result => ?_⟩, fun other perm => ?_, ?_⟩
  · exact ⟨fun made => made.unique makes, fun same => same ▸ makes⟩
  · rw [apply_eq_splice (perm.trans same.symm) ascending, applied]
  · rw [makes.length_eq, (same.map _).sum_eq, (same.map _).sum_eq]

/-- Ten letters in which a script puts edits. -/
def alphabet : Text := "abcdefghij".toList

/-- A range cut short, one made longer and, where that one ends, one taken out. -/
def shuffledScript : Script :=
  [⟨⟨5, 8⟩, "X".toList⟩, ⟨⟨0, 2⟩, "LONG".toList⟩, ⟨⟨2, 5⟩, []⟩]

/-- The same edits from the front to the back. -/
def orderedScript : Script :=
  [⟨⟨0, 2⟩, "LONG".toList⟩, ⟨⟨2, 5⟩, []⟩, ⟨⟨5, 8⟩, "X".toList⟩]

/-- The edits take effect at once although each moves what stands behind it, and two touch. -/
theorem apply_makes_alphabet :
    (∀ edit ∈ shuffledScript, edit.Fits alphabet) ∧
      (∀ edit ∈ shuffledScript, edit.range.start < edit.range.stop) ∧
      (shuffledScript.Pairwise fun left right => left.range.overlaps right.range = false) ∧
      Script.apply shuffledScript alphabet = "LONGXij".toList ∧
      Script.apply orderedScript alphabet = Script.apply shuffledScript alphabet ∧
      ((Script.apply shuffledScript alphabet).length : Int) = 10 + 5 - 8 := by
  have fits : ∀ edit ∈ shuffledScript, edit.Fits alphabet := by
    simp only [shuffledScript, List.forall_mem_cons]
    exact ⟨⟨by decide, by decide, by decide⟩, ⟨by decide, by decide, by decide⟩,
      ⟨by decide, by decide, by decide⟩, nofun⟩
  have covers : ∀ edit ∈ shuffledScript, edit.range.start < edit.range.stop := by decide
  have apart : shuffledScript.Pairwise fun left right =>
      left.range.overlaps right.range = false := by decide
  have same : orderedScript.Perm shuffledScript := by decide
  obtain ⟨⟨sorted, perm, ordered, makes⟩, anyOrder, length⟩ := apply_makes fits covers apart
  have sortedIs : sorted = orderedScript := List.reverse_injective
    ((fromBack_of_perm perm.symm ordered).symm.trans (fromBack_of_perm same.symm (by decide)))
  have made : Makes 0
      ([] ++ "ab".toList ++ ([] ++ "cde".toList ++ ([] ++ "fgh".toList ++ "ij".toList)))
      orderedScript ([] ++ "LONG".toList ++ ([] ++ [] ++ ([] ++ "X".toList ++ "ij".toList))) :=
    .edit rfl rfl (.edit rfl rfl (.edit rfl rfl .rest))
  rw [sortedIs] at makes
  exact ⟨fits, covers, apart, ((makes _).mp made).symm, anyOrder _ same, length⟩

end Script

end TagOrder
