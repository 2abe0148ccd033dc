import Mathlib.Data.List.Pairwise
import TagOrder.Scan

/-!
# Sorting by exchanges of neighbours

A relation that decides between any two items of a list and is transitive among them sorts the list:
each exchange of two neighbours that are out of order leaves one pair less out of order
(`disorder_exchange`) and moves no item past one with which it is tied (`filter_tied_exchange`). So
a list is stably sorted once there is no disorder left, after as many exchanges as there was
disorder.
-/

namespace TagOrder

variable {α : Type} {le : α -> α -> Bool} {items : List α}

/-- How many pairs of a list are out of order. -/
def disorder (le : α -> α -> Bool) : List α -> Nat
  | [] => 0
  | item :: rest => rest.countP (fun later => !le item later) + disorder le rest

/-- Whether neither of two items has to go before the other. -/
def tied (le : α -> α -> Bool) (left right : α) : Bool := le left right == le right left

/-- A list sorted, with items that are tied in the order in which they came. -/
structure StablySorted (le : α -> α -> Bool) (before after : List α) : Prop where
  perm : after.Perm before
  ordered : after.Pairwise fun left right => le left right = true
  stable : ∀ item ∈ before, after.filter (tied le item) = before.filter (tied le item)

theorem tied_self (item : α) : tied le item item = true := beq_self_eq_true _

/-- There is one way to sort a list stably. -/
theorem StablySorted.unique {before first second : List α} (one : StablySorted le before first)
    (other : StablySorted le before second) : first = second := by
  have stable : ∀ item ∈ first, first.filter (tied le item) = second.filter (tied le item) :=
    fun item member => (one.stable item (one.perm.subset member)).trans
      (other.stable item (one.perm.subset member)).symm
  have same := one.perm.trans other.perm.symm
  have firstOrdered := one.ordered
  have secondOrdered := other.ordered
  clear one other
  induction first generalizing second with
  | nil => exact (List.nil_perm.mp same).symm
  | cons left lefts ih =>
    cases second with
    | nil => exact absurd same.length_eq (by simp)
    | cons right rights =>
      obtain ⟨leftFirst, leftsOrdered⟩ := List.pairwise_cons.mp firstOrdered
      obtain ⟨rightFirst, rightsOrdered⟩ := List.pairwise_cons.mp secondOrdered
      have heads := stable left List.mem_cons_self
      rw [List.filter_cons_of_pos (tied_self left)] at heads
      -- Two different heads would be tied, each being behind the other in one of the lists.
      have equal : left = right := by
        by_contra different
        have leftBehind : left ∈ rights :=
          (List.mem_cons.mp (same.subset List.mem_cons_self)).resolve_left different
        have rightBehind : right ∈ lefts :=
          (List.mem_cons.mp (same.symm.subset List.mem_cons_self)).resolve_left (Ne.symm different)
        have together : tied le left right = true := by
          rw [tied, leftFirst right rightBehind, rightFirst left leftBehind]
          rfl
        rw [List.filter_cons_of_pos together] at heads
        exact different (List.cons.inj heads).1
      subst equal
      congr 1
      refine ih (fun item member => ?_) ((List.perm_cons left).mp same) leftsOrdered rightsOrdered
      have tails := stable item (List.mem_cons_of_mem _ member)
      rw [List.filter_cons, List.filter_cons] at tails
      split at tails
      · exact (List.cons.inj tails).2
      · exact tails

/-- A relation that decides between any two items of a list and is transitive among them. -/
structure DecidesAmong (le : α -> α -> Bool) (items : List α) : Prop where
  total : items.Pairwise fun left right => le left right = true ∨ le right left = true
  trans : ∀ {first second third}, first ∈ items → second ∈ items → third ∈ items →
    le first second = true → le second third = true → le first third = true

/-- The order of the items does not matter. -/
theorem DecidesAmong.perm (decides : DecidesAmong le items) {others : List α}
    (same : others.Perm items) : DecidesAmong le others where
  total := (same.pairwise_iff fun {_ _} decided => decided.symm).mpr decides.total
  trans := fun first second third =>
    decides.trans (same.subset first) (same.subset second) (same.subset third)

/-- There is no disorder exactly in a sorted list. -/
theorem disorder_eq_zero_iff :
    disorder le items = 0 ↔ items.Pairwise fun left right => le left right = true := by
  induction items with
  | nil => simp [disorder]
  | cons item rest ih =>
    rw [disorder, Nat.add_eq_zero_iff, ih, List.countP_eq_zero, List.pairwise_cons]
    simp

/-- Disorder is counted as well on what a function makes of the items. -/
theorem disorder_map {β : Type} (shown : α -> β) (other : β -> β -> Bool) (items : List α) :
    disorder other (items.map shown) =
      disorder (fun left right => other (shown left) (shown right)) items := by
  induction items with
  | nil => rfl
  | cons item rest ih =>
    rw [List.map_cons, disorder, disorder, ih, List.countP_map]
    rfl

/-- How many pairs of an item in front and one behind it are out of order. -/
def crossed (le : α -> α -> Bool) : List α -> List α -> Nat
  | [], _ => 0
  | item :: rest, back => back.countP (fun later => !le item later) + crossed le rest back

theorem crossed_append (first second back : List α) :
    crossed le (first ++ second) back = crossed le first back + crossed le second back := by
  induction first with
  | nil => simp [crossed]
  | cons item rest ih => simp [crossed, ih, Nat.add_assoc]

theorem crossed_eq_zero_iff {front back : List α} :
    crossed le front back = 0 ↔ ∀ item ∈ front, ∀ later ∈ back, le item later = true := by
  induction front with
  | nil => simp [crossed]
  | cons item rest ih =>
    rw [crossed, Nat.add_eq_zero_iff, List.forall_mem_cons, List.countP_eq_zero, ih]
    simp

/-- The order of those behind does not matter. -/
theorem crossed_perm (front : List α) {back others : List α} (same : back.Perm others) :
    crossed le front back = crossed le front others := by
  induction front with
  | nil => rfl
  | cons item rest ih => rw [crossed, crossed, same.countP_eq, ih]

theorem disorder_append (front back : List α) :
    disorder le (front ++ back) = disorder le front + disorder le back + crossed le front back := by
  induction front with
  | nil => simp [disorder, crossed]
  | cons item rest ih =>
    rw [List.cons_append, disorder, disorder, ih, List.countP_append, crossed]
    omega

/-- Two neighbouring parts of a list that change places: only pairs of the one and the other come
in order or out of it. -/
theorem disorder_rotate (le : α -> α -> Bool) (front passed movers back : List α) :
    disorder le (front ++ (movers ++ passed) ++ back) + crossed le passed movers =
      disorder le (front ++ (passed ++ movers) ++ back) + crossed le movers passed := by
  have ahead : crossed le front (movers ++ passed ++ back) =
      crossed le front (passed ++ movers ++ back) :=
    crossed_perm front (List.perm_append_comm.append_right back)
  rw [List.append_assoc front, List.append_assoc front, disorder_append front,
    disorder_append front, ahead, disorder_append (movers ++ passed),
    disorder_append (passed ++ movers), disorder_append movers, disorder_append passed,
    crossed_append, crossed_append]
  omega

/-- Where every pair that changes places is in order afterwards, and some pair was not before,
there is less disorder. -/
theorem disorder_rotate_lt {passed movers : List α}
    (settled : ∀ mover ∈ movers, ∀ item ∈ passed, le mover item = true) {item mover : α}
    (member : item ∈ passed) (moves : mover ∈ movers) (wrong : le item mover = false)
    (front back : List α) :
    disorder le (front ++ (movers ++ passed) ++ back) <
      disorder le (front ++ (passed ++ movers) ++ back) := by
  have whole := disorder_rotate le front passed movers back
  have none : crossed le movers passed = 0 := crossed_eq_zero_iff.mpr settled
  have some : crossed le passed movers ≠ 0 := by
    intro zero
    rw [crossed_eq_zero_iff.mp zero item member mover moves] at wrong
    cases wrong
  omega

/-- Where every pair that changes places is in order before and afterwards, there is as much
disorder. -/
theorem disorder_rotate_eq {passed movers : List α}
    (settled : ∀ mover ∈ movers, ∀ item ∈ passed, le mover item = true)
    (before : ∀ item ∈ passed, ∀ mover ∈ movers, le item mover = true) (front back : List α) :
    disorder le (front ++ (movers ++ passed) ++ back) =
      disorder le (front ++ (passed ++ movers) ++ back) := by
  have whole := disorder_rotate le front passed movers back
  rw [crossed_eq_zero_iff.mpr settled, crossed_eq_zero_iff.mpr before] at whole
  exact whole

/-- An exchange of neighbours that are out of order leaves one pair less out of order. -/
theorem disorder_exchange {left right : α} (wrong : le left right = false)
    (decided : le right left = true) (front back : List α) :
    disorder le (front ++ left :: right :: back) =
      disorder le (front ++ right :: left :: back) + 1 := by
  have whole := disorder_rotate le front [left] [right] back
  have before : crossed le [left] [right] = 1 := by simp [crossed, wrong]
  have after : crossed le [right] [left] = 0 := by simp [crossed, decided]
  rw [before, after] at whole
  simpa using whole.symm

/-- Of two items that are out of order at most one is tied with a third. -/
theorem not_tied_of_wrong {left right item : α} (decides : DecidesAmong le items)
    (member : item ∈ items) (leftMember : left ∈ items) (rightMember : right ∈ items)
    (wrong : le left right = false) (converse : le right left = true) :
    ¬ (tied le item left = true ∧ tied le item right = true) := by
  rintro ⟨tiedLeft, tiedRight⟩
  unfold tied at tiedLeft tiedRight
  rw [beq_iff_eq] at tiedLeft tiedRight
  by_cases isLeft : item = left
  · subst isLeft
    rw [wrong, converse] at tiedRight
    cases tiedRight
  by_cases isRight : item = right
  · subst isRight
    rw [wrong, converse] at tiedLeft
    cases tiedLeft
  -- Tied items other than the two may stand on either side of both.
  have symmetric : Std.Symm fun left right => le left right = true ∨ le right left = true :=
    ⟨fun _ _ decided => decided.symm⟩
  have decided := decides.total.forall
  have beforeLeft : le left item = true := by
    rcases decided member leftMember isLeft with after | before
    · rw [← tiedLeft, after]
    · exact before
  have beforeRight : le item right = true := by
    rcases decided member rightMember isRight with after | before
    · exact after
    · rw [tiedRight, before]
  rw [decides.trans leftMember member rightMember beforeLeft beforeRight] at wrong
  cases wrong

/-- An exchange of neighbours that are out of order moves no item past one with which it is tied. -/
theorem filter_tied_exchange {left right item : α}
    (apart : ¬ (tied le item left = true ∧ tied le item right = true)) (front back : List α) :
    (front ++ left :: right :: back).filter (tied le item) =
      (front ++ right :: left :: back).filter (tied le item) := by
  rw [List.filter_append, List.filter_append]
  congr 1
  simp only [List.filter_cons]
  split <;> split
  · rename_i tiedLeft tiedRight
    exact absurd ⟨tiedLeft, tiedRight⟩ apart
  all_goals rfl

section Scan

variable {mayFollow : Ranked -> Ranked -> Bool}

theorem pairwise_of_scanFrom_eq_nil {previous : Ranked} {items : List Ranked}
    (trans : ∀ {first second third}, first ∈ previous :: items → second ∈ previous :: items →
      third ∈ previous :: items → mayFollow first second = true →
        mayFollow second third = true → mayFollow first third = true)
    (clean : scanFrom mayFollow previous items = []) :
    (previous :: items).Pairwise fun left right => mayFollow left right = true := by
  induction items generalizing previous with
  | nil => exact List.pairwise_singleton _ _
  | cons current rest ih =>
    rw [scanFrom] at clean
    split at clean
    · rename_i follows
      have tail := ih (fun first second third => trans (List.mem_cons_of_mem _ first)
        (List.mem_cons_of_mem _ second) (List.mem_cons_of_mem _ third)) clean
      refine .cons (fun item member => ?_) tail
      rcases List.mem_cons.mp member with rfl | later
      · exact follows
      · have further := (List.pairwise_cons.mp tail).1 item later
        exact trans List.mem_cons_self (List.mem_cons_of_mem _ List.mem_cons_self)
          (List.mem_cons_of_mem _ member) follows further
    · cases clean

/-- A scan that reports nothing has gone over a sorted list. -/
theorem pairwise_of_scan_eq_nil {items : List Ranked}
    (trans : ∀ {first second third}, first ∈ items → second ∈ items → third ∈ items →
      mayFollow first second = true → mayFollow second third = true →
        mayFollow first third = true)
    (clean : scan mayFollow items = []) :
    items.Pairwise fun left right => mayFollow left right = true := by
  cases items with
  | nil => exact .nil
  | cons first rest => exact pairwise_of_scanFrom_eq_nil trans clean

theorem neighbours_of_scanFrom_eq_cons {previous : Ranked} {items : List Ranked}
    {inversion : Inversion} {others : List Inversion}
    (reported : scanFrom mayFollow previous items = inversion :: others) :
    ∃ front back, previous :: items = front ++ inversion.previous :: inversion.node :: back ∧
      mayFollow inversion.previous inversion.node = false := by
  induction items generalizing previous with
  | nil => cases reported
  | cons current rest ih =>
    rw [scanFrom] at reported
    split at reported
    · obtain ⟨front, back, whole, wrong⟩ := ih reported
      exact ⟨previous :: front, back, by rw [whole, List.cons_append], wrong⟩
    · rename_i wrong
      obtain rfl := (List.cons.inj reported).1
      exact ⟨[], rest, rfl, Bool.eq_false_iff.mpr wrong⟩

/-- The first inversion that a scan reports is between neighbours. -/
theorem neighbours_of_scan_eq_cons {items : List Ranked} {inversion : Inversion}
    {others : List Inversion} (reported : scan mayFollow items = inversion :: others) :
    ∃ front back, items = front ++ inversion.previous :: inversion.node :: back ∧
      mayFollow inversion.previous inversion.node = false := by
  cases items with
  | nil => cases reported
  | cons first rest => exact neighbours_of_scanFrom_eq_cons reported

end Scan

end TagOrder
