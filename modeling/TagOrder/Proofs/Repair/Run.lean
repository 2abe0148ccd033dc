import TagOrder.Proofs.Rotation.Run
import TagOrder.Proofs.Rule.Check
import TagOrder.Repair

/-!
# Runs of a repair

`RepairRun` derives the ways in which a repair comes to its end: clean, at an arrangement seen
before, out of passes or of violations that can be fixed, or after one more pass. The function runs
exactly these derivations (`RepairRun.of_repairFrom`, `RepairRun.repairFrom_eq`); a violation marked
as fixable is always resolved, so no run ends for want of a rotation. Whatever a repair yields is
reached by rotations (`RepairRun.rotations`).
-/

namespace TagOrder

/-- The visit of an arrangement with some number of violations. -/
def Placed.visit (placed : Placed) (count : Nat) : Visit := ⟨placed.spanText, placed, count⟩

/-- The rotation that a pass made. -/
def RepairPass.move (pass : RepairPass) : Move := ⟨pass.violation.node, pass.violation.previous⟩

/-- How a repair with so many passes left, after some visits and passes, comes to its end. -/
inductive RepairRun (rule : Rule) :
    Nat -> List Visit -> List RepairPass -> Placed -> Repair -> Prop where
  | clean {left visited passes placed} (checked : rule.check placed.tag = .ok []) :
      RepairRun rule left visited passes placed { placed, clean := true, passes }
  | cycled {left visited passes placed violations}
      (checked : rule.check placed.tag = .ok violations) (misplaced : violations ≠ [])
      (seen : visited.any (·.arrangement == placed.spanText) = true) :
      RepairRun rule left visited passes placed (Repair.settled placed visited passes true)
  | stopped {left visited passes placed violations}
      (checked : rule.check placed.tag = .ok violations) (misplaced : violations ≠ [])
      (fresh : visited.any (·.arrangement == placed.spanText) = false)
      (ending : left = 0 ∨ violations.find? (·.fixable) = none) :
      RepairRun rule left visited passes placed
        (Repair.settled placed (visited ++ [placed.visit violations.length]) passes false)
  | pass {left visited passes placed violations violation next result}
      (checked : rule.check placed.tag = .ok violations)
      (fresh : visited.any (·.arrangement == placed.spanText) = false)
      (found : violations.find? (·.fixable) = some violation)
      (rotated : rotate? placed violation.node violation.previous = some next)
      (rest : RepairRun rule left (visited ++ [placed.visit violations.length])
        (passes ++ [⟨violation, some next⟩]) next result) :
      RepairRun rule (left + 1) visited passes placed result

/-- A violation that is found to be fixable has its rotation. -/
theorem exists_rotate?_of_find? {rule : Rule} {placed : Placed} {violations : List Violation}
    {violation : Violation} (checked : rule.check placed.tag = .ok violations)
    (found : violations.find? (·.fixable) = some violation) :
    ∃ next, rotate? placed violation.node violation.previous = some next := by
  have fixable := List.find?_some found
  rw [Rule.fixable_iff_of_mem_check checked (List.mem_of_find?_eq_some found) placed.text]
    at fixable
  exact Option.isSome_iff_exists.mp fixable

section Passes

variable {rule : Rule} {left : Nat} {visited : List Visit} {passes : List RepairPass}
  {placed next : Placed} {violations : List Violation} {violation : Violation}

theorem repairFrom_fault {fault : TemplateFault} (checked : rule.check placed.tag = .error fault) :
    repairFrom rule left visited passes placed = .error fault := by
  unfold repairFrom
  rw [checked]

theorem repairFrom_clean (checked : rule.check placed.tag = .ok []) :
    repairFrom rule left visited passes placed = .ok { placed, clean := true, passes } := by
  unfold repairFrom
  rw [checked]

theorem repairFrom_cycled (checked : rule.check placed.tag = .ok violations)
    (misplaced : violations ≠ []) (seen : visited.any (·.arrangement == placed.spanText) = true) :
    repairFrom rule left visited passes placed =
      .ok (Repair.settled placed visited passes true) := by
  obtain ⟨first, others, rfl⟩ := List.exists_cons_of_ne_nil misplaced
  unfold repairFrom
  simp only [checked]
  rw [if_pos seen]

theorem repairFrom_stopped (checked : rule.check placed.tag = .ok violations)
    (misplaced : violations ≠ []) (fresh : visited.any (·.arrangement == placed.spanText) = false)
    (ending : left = 0 ∨ violations.find? (·.fixable) = none) :
    repairFrom rule left visited passes placed =
      .ok (Repair.settled placed (visited ++ [placed.visit violations.length]) passes false) := by
  obtain ⟨first, others, rfl⟩ := List.exists_cons_of_ne_nil misplaced
  unfold repairFrom
  simp only [checked]
  rw [if_neg (Bool.eq_false_iff.mp fresh)]
  rcases ending with rfl | none
  · rfl
  · cases left <;> simp only [none] <;> rfl

theorem repairFrom_pass (checked : rule.check placed.tag = .ok violations)
    (fresh : visited.any (·.arrangement == placed.spanText) = false)
    (found : violations.find? (·.fixable) = some violation)
    (rotated : rotate? placed violation.node violation.previous = some next) :
    repairFrom rule (left + 1) visited passes placed =
      repairFrom rule left (visited ++ [placed.visit violations.length])
        (passes ++ [⟨violation, some next⟩]) next := by
  have member := List.mem_of_find?_eq_some found
  have applied := (Rule.applyFix?_of_mem_check checked member placed.text).trans rotated
  obtain ⟨first, others, rfl⟩ := List.exists_cons_of_ne_nil (List.ne_nil_of_mem member)
  rw [repairFrom]
  simp only [checked]
  rw [if_neg (Bool.eq_false_iff.mp fresh)]
  simp only [found, applied]
  rfl

end Passes

/-- A repair comes to a check that is at fault, ends where it is, or makes one pass and goes on. -/
theorem repairFrom_split (rule : Rule) (left : Nat) (visited : List Visit)
    (passes : List RepairPass) (placed : Placed) :
    (∃ fault, rule.check placed.tag = .error fault ∧
        repairFrom rule left visited passes placed = .error fault) ∨
      (∃ result, RepairRun rule left visited passes placed result) ∨
      ∃ fewer violations violation next, left = fewer + 1 ∧
        rule.check placed.tag = .ok violations ∧
        visited.any (·.arrangement == placed.spanText) = false ∧
        violations.find? (·.fixable) = some violation ∧
        rotate? placed violation.node violation.previous = some next ∧
        repairFrom rule left visited passes placed =
          repairFrom rule fewer (visited ++ [placed.visit violations.length])
            (passes ++ [⟨violation, some next⟩]) next := by
  cases checked : rule.check placed.tag with
  | error fault => exact .inl ⟨fault, rfl, repairFrom_fault checked⟩
  | ok violations =>
    right
    by_cases misplaced : violations = []
    · subst misplaced
      exact .inl ⟨_, .clean checked⟩
    · cases seen : visited.any (·.arrangement == placed.spanText) with
      | true => exact .inl ⟨_, .cycled checked misplaced seen⟩
      | false =>
        by_cases ending : left = 0 ∨ violations.find? (·.fixable) = none
        · exact .inl ⟨_, .stopped checked misplaced seen ending⟩
        · obtain ⟨more, some⟩ := not_or.mp ending
          obtain ⟨violation, found⟩ := Option.ne_none_iff_exists'.mp some
          obtain ⟨fewer, rfl⟩ := Nat.exists_eq_succ_of_ne_zero more
          obtain ⟨next, rotated⟩ := exists_rotate?_of_find? checked found
          exact .inr ⟨fewer, violations, violation, next, rfl, rfl, rfl, found, rotated,
            repairFrom_pass checked seen found rotated⟩

/-- A repair comes to what is derived. -/
theorem RepairRun.repairFrom_eq {rule : Rule} {left : Nat} {visited : List Visit}
    {passes : List RepairPass} {placed : Placed} {result : Repair}
    (run : RepairRun rule left visited passes placed result) :
    repairFrom rule left visited passes placed = .ok result := by
  induction run with
  | clean checked => exact repairFrom_clean checked
  | cycled checked misplaced seen => exact repairFrom_cycled checked misplaced seen
  | stopped checked misplaced fresh ending =>
    exact repairFrom_stopped checked misplaced fresh ending
  | pass checked fresh found rotated _ ih =>
    exact (repairFrom_pass checked fresh found rotated).trans ih

/-- A repair comes to its end, or rotations lead it to a tag whose check is at fault. -/
theorem repairFrom_ends (rule : Rule) (left : Nat) (visited : List Visit)
    (passes : List RepairPass) (placed : Placed) :
    (∃ result, RepairRun rule left visited passes placed result) ∨
      ∃ moves reached fault, Rotations placed moves reached ∧
        rule.check reached.tag = .error fault ∧
        repairFrom rule left visited passes placed = .error fault := by
  induction left using Nat.strongRecOn generalizing visited passes placed with
  | _ left ih =>
    rcases repairFrom_split rule left visited passes placed with ⟨fault, checked, failed⟩ |
      ⟨result, run⟩ |
      ⟨fewer, violations, violation, next, rfl, checked, fresh, found, rotated, goesOn⟩
    · exact .inr ⟨[], placed, fault, .refl, checked, failed⟩
    · exact .inl ⟨result, run⟩
    · rcases ih fewer (Nat.lt_succ_self _) _ _ next with
        ⟨result, rest⟩ | ⟨moves, reached, fault, rest, checkedThere, failed⟩
      · exact .inl ⟨result, .pass checked fresh found rotated rest⟩
      · have first : Rotations placed [⟨violation.node, violation.previous⟩] next :=
          .step .refl rotated
        exact .inr ⟨_, reached, fault, first.trans rest, checkedThere, goesOn.trans failed⟩

/-- Every result of a repair is derived. -/
theorem RepairRun.of_repairFrom {rule : Rule} {left : Nat} {visited : List Visit}
    {passes : List RepairPass} {placed : Placed} {result : Repair}
    (finished : repairFrom rule left visited passes placed = .ok result) :
    RepairRun rule left visited passes placed result := by
  rcases repairFrom_ends rule left visited passes placed with
    ⟨other, run⟩ | ⟨moves, reached, fault, -, -, failed⟩
  · obtain rfl := Except.ok.inj (run.repairFrom_eq.symm.trans finished)
    exact run
  · rw [failed] at finished
    cases finished

/-- The visit with the fewest violations is one of the visits. -/
theorem fewest_mem (best : Visit) (rest : List Visit) : fewest best rest ∈ best :: rest := by
  induction rest generalizing best with
  | nil => exact List.mem_cons_self
  | cons visit rest ih =>
    rw [fewest]
    split
    · exact List.mem_cons_of_mem _ (ih visit)
    · rcases List.mem_cons.mp (ih best) with same | later
      · rw [same]
        exact List.mem_cons_self
      · exact List.mem_cons_of_mem _ (List.mem_cons_of_mem _ later)

/-- What holds of a tag and of every visit holds of what a repair settles on. -/
theorem settled_holds (holds : Placed -> Prop) {placed : Placed} {visited : List Visit}
    (here : holds placed) (visits : ∀ visit ∈ visited, holds visit.placed)
    (passes : List RepairPass) (cycled : Bool) :
    holds (Repair.settled placed visited passes cycled).placed := by
  cases visited with
  | nil => exact here
  | cons first rest => exact visits (fewest first rest) (fewest_mem first rest)

namespace RepairRun

variable {rule : Rule} {left : Nat} {visited : List Visit} {passes : List RepairPass}
  {origin placed : Placed} {result : Repair}

/-- A repair yields what rotations make of where it began, and a repair that comes clean
yields what its passes make of it. -/
theorem rotations (run : RepairRun rule left visited passes placed result)
    (visits : ∀ visit ∈ visited, ∃ moves, Rotations origin moves visit.placed)
    (here : Rotations origin (passes.map RepairPass.move) placed) :
    (∃ moves, Rotations origin moves result.placed) ∧
      (result.clean = true →
        Rotations origin (result.passes.map RepairPass.move) result.placed) := by
  induction run with
  | clean checked => exact ⟨⟨_, here⟩, fun _ => here⟩
  | cycled checked misplaced seen =>
    refine ⟨?_, fun clean => by cases clean⟩
    exact settled_holds (fun placed => ∃ moves, Rotations origin moves placed) ⟨_, here⟩ visits _ _
  | stopped checked misplaced fresh ending =>
    refine ⟨?_, fun clean => by cases clean⟩
    refine settled_holds (fun placed => ∃ moves, Rotations origin moves placed) ⟨_, here⟩ ?_ _ _
    exact List.forall_mem_append.mpr ⟨visits, List.forall_mem_singleton.mpr ⟨_, here⟩⟩
  | pass checked fresh found rotated rest ih =>
    refine ih (List.forall_mem_append.mpr ⟨visits, List.forall_mem_singleton.mpr ⟨_, here⟩⟩) ?_
    rw [List.map_append]
    exact here.step rotated

end RepairRun

/-- What a repair of a tag yields is what rotations make of the tag. -/
theorem repair_rotations {rule : Rule} {placed : Placed} {result : Repair}
    (repaired : repair rule placed = .ok result) :
    (∃ moves, Rotations placed moves result.placed) ∧
      (result.clean = true →
        Rotations placed (result.passes.map RepairPass.move) result.placed) :=
  (RepairRun.of_repairFrom repaired).rotations (by simp) .refl

end TagOrder
