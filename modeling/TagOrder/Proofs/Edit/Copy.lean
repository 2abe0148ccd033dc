import TagOrder.Edit
import TagOrder.Proofs.Text.Slice

/-!
# Edits that copy from a text

An edit copies from a target when its replacement is what the target holds in its range. Edits that
copy from one target may be applied in any order, also where they overlap: each makes its range
equal to the target and leaves the rest (`Script.apply_eq_of_copies`).
-/

namespace TagOrder

/-- The replacement is what a target text holds in the range. -/
structure Edit.Copies (edit : Edit) (target : Text) : Prop where
  starts : 0 ≤ edit.range.start
  ordered : edit.range.start ≤ edit.range.stop
  stops : edit.range.stop ≤ target.length
  reads : edit.replacement = edit.range.of target

/-- An edit that copies from a target settles its range. -/
theorem Edit.Copies.apply {edit : Edit} {target text : Text} {covered : Nat -> Prop}
    (copies : edit.Copies target)
    (same : Text.SameExcept (fun offset => edit.range.Covers offset ∨ covered offset) text target) :
    Text.SameExcept covered (edit.apply text) target := by
  obtain ⟨starts, ordered, stops, reads⟩ := copies
  have length := same.length
  have piece : (edit.replacement.length : Int) = edit.range.stop - edit.range.start := by
    rw [reads]
    exact Text.length_slice target starts ordered stops
  have replaced := Text.sameExcept_replace text edit.replacement starts ordered (by omega) piece
  have lead := Text.length_before text starts (by omega)
  refine ⟨length.trans replaced.length.symm, fun offset clear => ?_⟩
  by_cases inside : edit.range.Covers offset
  · obtain ⟨above, below⟩ := inside
    unfold Edit.apply
    rw [List.append_assoc, List.getElem?_append_right (by omega),
      List.getElem?_append_left (by omega), reads, Span.of,
      Text.getElem?_slice target starts ordered, if_pos (by omega)]
    congr 1
    omega
  · rw [same.elsewhere offset (not_or.mpr ⟨inside, clear⟩)]
    exact (replaced.elsewhere offset inside).symm

/-- Whether an offset lies in the range of one of some edits. -/
def Script.Covers (script : Script) (offset : Nat) : Prop :=
  ∃ edit ∈ script, edit.range.Covers offset

namespace Script

/-- A fold of edits that copy from a target ends in the target. -/
theorem foldl_eq_of_copies {script : Script} {target text : Text}
    (copies : ∀ edit ∈ script, edit.Copies target)
    (same : Text.SameExcept script.Covers text target) :
    script.foldl (fun result edit => edit.apply result) text = target := by
  induction script generalizing text with
  | nil =>
    apply List.ext_getElem?
    intro offset
    refine (same.elsewhere offset ?_).symm
    rintro ⟨edit, member, -⟩
    cases member
  | cons edit rest ih =>
    refine ih (fun other member => copies other (List.mem_cons_of_mem _ member)) ?_
    refine (copies edit List.mem_cons_self).apply (same.widen fun offset inside => ?_)
    obtain ⟨other, member, within⟩ := inside
    rcases List.mem_cons.mp member with rfl | later
    · exact .inl within
    · exact .inr ⟨other, later, within⟩

/-- A script of edits that copy from a target makes the target of a text that differs from it in
their ranges at most. -/
theorem apply_eq_of_copies {script : Script} {target text : Text}
    (copies : ∀ edit ∈ script, edit.Copies target)
    (same : Text.SameExcept script.Covers text target) : script.apply text = target := by
  have sorted : ∀ edit, edit ∈ script.fromBack ↔ edit ∈ script := fun edit => List.mem_mergeSort
  refine foldl_eq_of_copies (fun edit member => copies edit ((sorted edit).mp member)) ?_
  refine same.widen fun offset inside => ?_
  obtain ⟨edit, member, within⟩ := inside
  exact ⟨edit, (sorted edit).mpr member, within⟩

end Script

end TagOrder
