import TagOrder.Edit
import TagOrder.Proofs.Text.Slice

/-!
# Scripts as simultaneous replacement

`Script.apply` works from the back of a text to its front and cuts the text again for every edit.
`Script.splice` says what comes of that in one pass from the front: each covered range gives way to
its replacement, and every piece between ranges is kept. The two agree on scripts whose edits, put
from the front to the back, are successive (`Script.apply_eq_splice_fromBack`), and so on scripts
that can be put in ascending order (`Script.apply_eq_splice`).
-/

namespace TagOrder

namespace Script

/-- The part of a text from an offset on, with every edit made; edits are listed from the front of
the text to its back. -/
def splice (text : Text) (cursor : Int) : Script -> Text
  | [] => text.after cursor
  | edit :: rest =>
    text.slice cursor edit.range.start ++ edit.replacement ++ splice text edit.range.stop rest

/-- Edits of a text from an offset on that come one after the other; one that replaces nothing may
stand where the next one starts. -/
def Successive (text : Text) : Int -> Script -> Prop
  | floor, [] => floor ≤ text.length
  | floor, edit :: rest =>
    floor ≤ edit.range.start ∧ edit.range.start ≤ edit.range.stop ∧
      Successive text edit.range.stop rest

/-- Successive edits begin inside the text. -/
theorem Successive.floor_le {text : Text} {floor : Int} {script : Script}
    (successive : Successive text floor script) : floor ≤ text.length := by
  induction script generalizing floor with
  | nil => exact successive
  | cons edit rest ih =>
    obtain ⟨above, ordered, behind⟩ := successive
    have bounded := ih behind
    omega

/-- Edits of a text from an offset on that replace something each and come one after the other. -/
def Ascending (text : Text) : Int -> Script -> Prop
  | floor, [] => floor ≤ text.length
  | floor, edit :: rest =>
    floor ≤ edit.range.start ∧ edit.range.start < edit.range.stop ∧
      Ascending text edit.range.stop rest

namespace Ascending

variable {text : Text} {floor : Int} {edit : Edit} {rest : Script}

theorem successive {script : Script} (ascending : Ascending text floor script) :
    Successive text floor script := by
  induction script generalizing floor with
  | nil => exact ascending
  | cons edit rest ih =>
    obtain ⟨above, ordered, behind⟩ := ascending
    exact ⟨above, Int.le_of_lt ordered, ih behind⟩

/-- Every edit of an ascending script starts where the script may start, or behind. -/
theorem floor_le_start {script : Script} (ascending : Ascending text floor script) :
    ∀ edit ∈ script, floor ≤ edit.range.start := by
  induction script generalizing floor with
  | nil => simp
  | cons edit rest ih =>
    obtain ⟨above, ordered, behind⟩ := ascending
    intro other member
    rcases List.mem_cons.mp member with rfl | member
    · exact above
    · have after := ih behind other member
      omega

/-- Ascending edits have ascending starts. -/
theorem pairwise_start {script : Script} (ascending : Ascending text floor script) :
    script.Pairwise fun left right => left.range.start < right.range.start := by
  induction script generalizing floor with
  | nil => exact .nil
  | cons edit rest ih =>
    obtain ⟨above, ordered, behind⟩ := ascending
    refine .cons (fun other member => ?_) (ih behind)
    have after := floor_le_start behind other member
    omega

end Ascending

/-- Among edits with ascending starts, two that start together are one and the same. -/
theorem eq_of_start_eq {sorted : Script} {left right : Edit}
    (ascending : sorted.Pairwise fun left right => left.range.start < right.range.start)
    (leftMember : left ∈ sorted) (rightMember : right ∈ sorted)
    (together : left.range.start = right.range.start) : left = right := by
  induction ascending with
  | nil => simp at leftMember
  | cons before _ ih =>
    rcases List.mem_cons.mp leftMember with rfl | leftRest <;>
      rcases List.mem_cons.mp rightMember with rfl | rightRest
    · rfl
    · exact absurd (before _ rightRest) (by omega)
    · exact absurd (before _ leftRest) (by omega)
    · exact ih leftRest rightRest

theorem fromBack_perm (script : Script) : script.fromBack.Perm script :=
  List.mergeSort_perm script _

/-- From the back to the front the starts descend. -/
theorem pairwise_fromBack (script : Script) :
    script.fromBack.Pairwise fun left right => right.range.start ≤ left.range.start := by
  have descending : script.fromBack.Pairwise fun left right =>
      decide (right.range.start ≤ left.range.start) = true :=
    List.pairwise_mergeSort
      (fun first second third => by simp only [decide_eq_true_eq]; omega)
      (fun left right => by simp only [Bool.or_eq_true, decide_eq_true_eq]; omega) script
  exact descending.imp of_decide_eq_true

/-- Edits with different starts have one order from back to front. -/
theorem fromBack_of_perm {script sorted : Script} (same : script.Perm sorted)
    (ascending : sorted.Pairwise fun left right => left.range.start < right.range.start) :
    script.fromBack = sorted.reverse := by
  have descending : sorted.reverse.Pairwise fun left right =>
      right.range.start ≤ left.range.start := by
    rw [List.pairwise_reverse]
    exact ascending.imp fun {left right} before => by omega
  have backPerm : script.fromBack.Perm sorted.reverse :=
    script.fromBack_perm.trans (same.trans (List.reverse_perm sorted).symm)
  refine backPerm.eq_of_pairwise ?_ script.pairwise_fromBack descending
  intro left right leftMember rightMember leftFirst rightFirst
  have leftSorted : left ∈ sorted := by simpa using backPerm.subset leftMember
  have rightSorted : right ∈ sorted := by simpa using rightMember
  exact eq_of_start_eq ascending leftSorted rightSorted (by omega)

/-- Edits made one by one from the back are the edits made at once. -/
theorem foldr_eq_splice (text : Text) (script : Script) {floor : Int} (positive : 0 ≤ floor)
    (successive : Successive text floor script) :
    script.foldr (fun edit result => edit.apply result) text =
      text.before floor ++ splice text floor script := by
  induction script generalizing floor with
  | nil => exact (Text.before_append_after text floor).symm
  | cons edit rest ih =>
    obtain ⟨above, ordered, behind⟩ := successive
    have bounded : edit.range.stop ≤ text.length := behind.floor_le
    have front : ((text.before edit.range.stop).length : Int) = edit.range.stop :=
      text.length_before (by omega) bounded
    rw [List.foldr_cons, ih (by omega) behind]
    -- The edits behind leave everything up to the end of this one in place.
    have kept : text.before edit.range.stop =
        text.before edit.range.start ++ text.slice edit.range.start edit.range.stop :=
      (Text.before_append_slice text (by omega) (by omega)).symm
    have start : ((text.before edit.range.start).length : Int) = edit.range.start :=
      text.length_before (by omega) (by omega)
    unfold Edit.apply
    rw [Text.after_append _ _ front.symm, kept, List.append_assoc (text.before edit.range.start),
      Text.before_append _ _ start.symm]
    simp only [splice, ← List.append_assoc]
    rw [Text.before_append_slice text positive above]

/-- A script replaces all its ranges at once where these are successive. -/
theorem apply_eq_splice_fromBack {text : Text} {script : Script}
    (successive : Successive text 0 script.fromBack.reverse) :
    script.apply text = splice text 0 script.fromBack.reverse := by
  have folded := foldr_eq_splice text _ (Int.le_refl 0) successive
  rw [List.foldr_reverse] at folded
  rw [apply, folded]
  simp [Text.before, clampOffset]

/-- A script that can be put in ascending order replaces all its ranges at once. -/
theorem apply_eq_splice {text : Text} {script sorted : Script} (same : script.Perm sorted)
    (ascending : Ascending text 0 sorted) : script.apply text = splice text 0 sorted := by
  have reversed : script.fromBack.reverse = sorted := by
    rw [fromBack_of_perm same ascending.pairwise_start, List.reverse_reverse]
  rw [apply_eq_splice_fromBack (by rw [reversed]; exact ascending.successive), reversed]

end Script

end TagOrder
