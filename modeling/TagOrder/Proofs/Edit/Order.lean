import TagOrder.Proofs.Edit.Merge
import TagOrder.Proofs.Edit.Splice

/-!
# Edits from the front to the back

Edits inside a text that do not overlap come one after the other once they are put in the order of
their starts (`Script.successive_fromBack`). An insertion may start where another range does, and
edits that start together are made in the order in which they are listed (`Script.filter_fromBack`),
so an insertion has to be listed behind the replacement that starts with it.
-/

namespace TagOrder

/-- An edit with its range inside a text. -/
structure Edit.Fits (edit : Edit) (text : Text) : Prop where
  starts : 0 ≤ edit.range.start
  ordered : edit.range.start ≤ edit.range.stop
  stops : edit.range.stop ≤ text.length

/-- Whether an edit may be listed before another: an insertion may not where the other replaces
something from the same start on. -/
def Edit.MayPrecede (earlier later : Edit) : Prop :=
  earlier.range.start = later.range.start → earlier.range.start = earlier.range.stop →
    later.range.start = later.range.stop

namespace Script

/-- Edits that start together keep the order in which they are listed. -/
theorem filter_fromBack (script : Script) (start : Int) :
    script.fromBack.filter (fun edit => edit.range.start = start) =
      script.filter fun edit => edit.range.start = start := by
  let together : Script := script.filter fun edit => edit.range.start = start
  have level : together.Pairwise fun left right =>
      decide (right.range.start ≤ left.range.start) = true := by
    refine List.pairwise_of_forall_mem_list fun left here right there => ?_
    have leftStart := of_decide_eq_true (List.mem_filter.mp here).2
    have rightStart := of_decide_eq_true (List.mem_filter.mp there).2
    exact decide_eq_true (by omega)
  have inside : together.Sublist script.fromBack :=
    List.sublist_mergeSort
      (fun first second third => by simp only [decide_eq_true_eq]; omega)
      (fun left right => by simp only [Bool.or_eq_true, decide_eq_true_eq]; omega) level
      List.filter_sublist
  have filtered := inside.filter fun edit => decide (edit.range.start = start)
  simp only [together, List.filter_filter, Bool.and_self] at filtered
  exact (filtered.eq_of_length (script.fromBack_perm.filter _).length_eq.symm).symm

/-- What holds of any two edits as they are listed holds, from back to front, of any two that start
together. -/
theorem pairwise_fromBack_of_together {script : Script} {relation : Edit -> Edit -> Prop}
    (listed : script.Pairwise relation) :
    script.fromBack.Pairwise fun left right =>
      left.range.start = right.range.start → relation left right := by
  rw [List.pairwise_iff_forall_sublist] at listed ⊢
  intro left right inside together
  have both := inside.filter fun edit => decide (edit.range.start = right.range.start)
  rw [filter_fromBack] at both
  simp only [List.filter_cons, together, decide_true, if_true, List.filter_nil] at both
  exact listed (both.trans List.filter_sublist)

/-- Edits inside a text of which each stops where the next one starts, or before, are successive. -/
theorem successive_of_pairwise {text : Text} {script : Script} {floor : Int}
    (fits : ∀ edit ∈ script, edit.Fits text) (bounded : floor ≤ text.length)
    (above : ∀ edit ∈ script, floor ≤ edit.range.start)
    (ordered : script.Pairwise fun left right => left.range.stop ≤ right.range.start) :
    Successive text floor script := by
  induction script generalizing floor with
  | nil => exact bounded
  | cons edit rest ih =>
    obtain ⟨here, later⟩ := List.forall_mem_cons.mp fits
    obtain ⟨before, ordered⟩ := List.pairwise_cons.mp ordered
    exact ⟨above edit List.mem_cons_self, here.ordered, ih later here.stops before ordered⟩

/-- Edits that do not overlap are successive from the front when no insertion is listed before a
replacement that starts with it. -/
theorem successive_fromBack {text : Text} {script : Script}
    (fits : ∀ edit ∈ script, edit.Fits text)
    (apart : script.Pairwise fun left right => right.range.overlaps left.range = false)
    (listed : script.Pairwise Edit.MayPrecede) :
    Successive text 0 script.fromBack.reverse := by
  have inside : ∀ edit ∈ script.fromBack, edit.Fits text := fun edit member =>
    fits edit (script.fromBack_perm.subset member)
  have clear : script.fromBack.Pairwise fun left right =>
      right.range.overlaps left.range = false :=
    (script.fromBack_perm.pairwise_iff fun {left right} clear => by
      rwa [Span.overlaps_comm]).mpr apart
  have ordered : script.fromBack.Pairwise fun left right =>
      right.range.stop ≤ left.range.start := by
    refine List.Pairwise.imp_of_mem ?_
      ((pairwise_fromBack script).and (clear.and (pairwise_fromBack_of_together listed)))
    rintro left right leftMember rightMember ⟨descending, apart, together⟩
    have leftOrdered := (inside left leftMember).ordered
    have rightOrdered := (inside right rightMember).ordered
    simp only [Span.overlaps, Bool.and_eq_false_iff, decide_eq_false_iff_not] at apart
    simp only [Edit.MayPrecede] at together
    omega
  refine successive_of_pairwise (fun edit member => inside edit (List.mem_reverse.mp member))
    (by omega) (fun edit member => (inside edit (List.mem_reverse.mp member)).starts) ?_
  rwa [List.pairwise_reverse]

end Script

end TagOrder
