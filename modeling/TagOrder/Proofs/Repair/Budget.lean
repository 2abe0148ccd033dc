import Mathlib.Data.List.Permutation
import TagOrder.Proofs.Repair.Fewest
import TagOrder.Proofs.Repair.Kept

/-!
# Repairs with passes to spare

A repair goes through each text once, and all of them are rearrangements of the one with which it
began, so it makes no more passes than there are rearrangements (`Repair.Ends.length_passes_le`). A
repair that is allowed more passes than that ends for another reason than their number, and ends in
the same way however many more it is allowed (`exists_repair_allow`).
-/

namespace TagOrder

/-- A rule that allows so many passes for one tag. -/
def Rule.allow (rule : Rule) (passes : Nat) : Rule :=
  { rule with options := { rule.options with maxPasses := passes } }

/-- A tag is misplaced and has no violation that can be fixed. -/
def Rule.Stuck (rule : Rule) (tag : Tag) : Prop :=
  ∃ violations, rule.check tag = .ok violations ∧ violations ≠ [] ∧
    ∀ violation ∈ violations, violation.fixable = false

section Allow

variable (rule : Rule) (allowed : Nat)

theorem Rule.check_allow (tag : Tag) : (rule.allow allowed).check tag = rule.check tag := by
  have same : ∀ inversions : List Inversion,
      (rule.allow allowed).violations tag inversions = rule.violations tag inversions := by
    intro inversions
    induction inversions with
    | nil => rfl
    | cons inversion rest ih =>
      rw [violations, violations, ih]
      rfl
  exact same _

variable {rule} in
/-- A run looks at the passes that are left and not at those that the rule allows. -/
theorem RepairRun.allow {left : Nat} {visited : List Visit} {passes : List RepairPass}
    {placed : Placed} {result : Repair} (run : RepairRun rule left visited passes placed result) :
    RepairRun (rule.allow allowed) left visited passes placed result := by
  induction run with
  | clean checked => exact .clean ((rule.check_allow allowed _).trans checked)
  | cycled checked misplaced seen =>
    exact .cycled ((rule.check_allow allowed _).trans checked) misplaced seen
  | stopped checked misplaced fresh ending =>
    exact .stopped ((rule.check_allow allowed _).trans checked) misplaced fresh ending
  | pass checked fresh found rotated _ ih =>
    exact .pass ((rule.check_allow allowed _).trans checked) fresh found rotated ih

/-- How many passes a rule allows plays no part once a repair has begun. -/
theorem repairFrom_allow (left : Nat) (visited : List Visit) (passes : List RepairPass)
    (placed : Placed) :
    repairFrom (rule.allow allowed) left visited passes placed =
      repairFrom rule left visited passes placed := by
  induction left using Nat.strongRecOn generalizing visited passes placed with
  | _ left ih =>
    rcases repairFrom_split rule left visited passes placed with ⟨fault, checked, failed⟩ |
      ⟨result, run⟩ |
      ⟨fewer, violations, violation, next, rfl, checked, fresh, found, rotated, goesOn⟩
    · rw [failed, repairFrom_fault ((rule.check_allow allowed _).trans checked)]
    · rw [run.repairFrom_eq, (run.allow allowed).repairFrom_eq]
    · rw [goesOn, ← ih fewer (Nat.lt_succ_self _)]
      exact repairFrom_pass ((rule.check_allow allowed _).trans checked) fresh found rotated

theorem repair_allow (placed : Placed) :
    repair (rule.allow allowed) placed = repairFrom rule allowed [] [] placed :=
  repairFrom_allow rule allowed allowed [] [] placed

end Allow

namespace RepairRun

variable {rule : Rule} {left : Nat} {visited : List Visit} {passes : List RepairPass}
  {origin placed : Placed} {result : Repair}

/-- The passes made before stay the first ones. -/
theorem exists_passes (run : RepairRun rule left visited passes placed result) :
    ∃ later, result.passes = passes ++ later := by
  induction run with
  | clean => exact ⟨[], (List.append_nil _).symm⟩
  | cycled => exact ⟨[], (List.append_nil _).symm⟩
  | stopped => exact ⟨[], (List.append_nil _).symm⟩
  | pass _ _ _ _ _ ih =>
    obtain ⟨later, same⟩ := ih
    exact ⟨_ :: later, by rw [same, List.append_assoc, List.singleton_append]⟩

/-- A repair that comes clean or has passes left over goes the same way with more of them. -/
theorem spare (run : RepairRun rule left visited passes placed result)
    (unused : result.clean = true ∨ result.passes.length < passes.length + left) (more : Nat) :
    RepairRun rule (left + more) visited passes placed result := by
  induction run with
  | clean checked => exact .clean checked
  | cycled checked misplaced seen => exact .cycled checked misplaced seen
  | stopped checked misplaced fresh ending =>
    refine .stopped checked misplaced fresh (.inr (ending.resolve_left ?_))
    rintro rfl
    rcases unused with clean | fewer
    · cases clean
    · exact Nat.lt_irrefl _ fewer
  | pass checked fresh found rotated _ ih =>
    rw [Nat.add_right_comm]
    refine .pass checked fresh found rotated (ih (unused.imp_right fun fewer => ?_))
    rw [List.length_append, List.length_singleton]
    omega

/-- A repair that does not use up its passes comes clean, comes back to an arrangement, or is led by
its passes to a tag on which it is stuck. -/
theorem clean_or_cycled_or_stuck (run : RepairRun rule left visited passes placed result)
    (unused : result.passes.length < passes.length + left)
    (here : Rotations origin (passes.map RepairPass.move) placed) :
    result.clean = true ∨ result.cycled = true ∨
      ∃ stuck, Rotations origin (result.passes.map RepairPass.move) stuck ∧
        rule.Stuck stuck.tag := by
  induction run with
  | clean => exact .inl rfl
  | cycled => exact .inr (.inl rfl)
  | @stopped left _ passes placed violations checked misplaced fresh ending =>
    refine .inr (.inr ⟨placed, here, violations, checked, misplaced, ?_⟩)
    rcases ending with rfl | none
    · exact absurd unused (Nat.lt_irrefl _)
    · simpa using none
  | pass checked fresh found rotated _ ih =>
    refine ih ?_ ?_
    · rw [List.length_append, List.length_singleton]
      omega
    · rw [List.map_append]
      exact here.step rotated

end RepairRun

/-- A repair that comes to a check at fault comes to it with more passes as well. -/
theorem repairFrom_fault_spare {rule : Rule} {left : Nat} {visited : List Visit}
    {passes : List RepairPass} {placed : Placed} {fault : TemplateFault}
    (failed : repairFrom rule left visited passes placed = .error fault) (more : Nat) :
    repairFrom rule (left + more) visited passes placed = .error fault := by
  induction left generalizing visited passes placed with
  | zero =>
    rcases repairFrom_split rule 0 visited passes placed with ⟨other, checked, here⟩ |
      ⟨result, run⟩ | ⟨fewer, violations, violation, next, none, -⟩
    · rw [repairFrom_fault checked, ← here, failed]
    · rw [run.repairFrom_eq] at failed
      cases failed
    · cases none
  | succ left ih =>
    rcases repairFrom_split rule (left + 1) visited passes placed with ⟨other, checked, here⟩ |
      ⟨result, run⟩ |
      ⟨fewer, violations, violation, next, same, checked, fresh, found, rotated, goesOn⟩
    · rw [repairFrom_fault checked, ← here, failed]
    · rw [run.repairFrom_eq] at failed
      cases failed
    · obtain rfl := Nat.succ.inj same
      rw [Nat.add_right_comm, repairFrom_pass checked fresh found rotated]
      exact ih (goesOn.symm.trans failed)

namespace Trail

variable {rule : Rule} {origin here : Placed} {passes : List RepairPass} {behind : List Placed}

/-- There is one pass for each arrangement that was left. -/
theorem length_passes (trail : Trail rule origin passes behind here) :
    passes.length = behind.length := by
  induction trail with
  | start => rfl
  | pass _ _ _ _ ih => rw [List.length_append, List.length_append, ih]; rfl

/-- What is kept all along a trail. -/
theorem kept (trail : Trail rule origin passes behind here)
    (laid : Laid origin.text 0 origin.tag.attributes) :
    origin.Kept here ∧ ∀ earlier ∈ behind, origin.Kept earlier := by
  induction trail with
  | start => exact ⟨.refl laid, fun _ member => by cases member⟩
  | pass _ _ _ rotated ih =>
    obtain ⟨kept, earlier⟩ := ih
    obtain ⟨block, found, rfl⟩ := rotate?_eq_some.mp rotated
    refine ⟨kept.trans (.rotate (block?_fits found) kept.laid), ?_⟩
    exact List.forall_mem_append.mpr ⟨earlier, List.forall_mem_singleton.mpr kept⟩

end Trail

/-- A repair makes no more passes than there are rearrangements of what the attributes cover. -/
theorem Repair.Ends.length_passes_le {rule : Rule} {origin here : Placed} {result : Repair}
    {behind : List Placed} (ends : result.Ends rule origin behind here)
    (laid : Laid origin.text 0 origin.tag.attributes) :
    result.passes.length ≤ origin.spanText.permutations.length := by
  have rearranged : behind.map Placed.spanText ⊆ origin.spanText.permutations := by
    intro text member
    obtain ⟨earlier, inBehind, rfl⟩ := List.mem_map.mp member
    have kept := (ends.trail.kept laid).2 earlier inBehind
    exact List.mem_permutations.mpr (kept.spanText_perm laid)
  have bound := (List.subperm_of_subset ends.distinct rearranged).length_le
  rwa [List.length_map, ← ends.trail.length_passes] at bound

/-- From some number of passes on a repair of a laid out tag does not depend on how many are
allowed. Either a message cannot be built for two of the attributes, or the repair comes clean,
comes back to an arrangement, or is led by its passes to a tag on which it is stuck. What comes
clean with any number of passes comes clean in the same way. -/
theorem exists_repair_allow (rule : Rule) (placed : Placed)
    (laid : Laid placed.text 0 placed.tag.attributes) :
    ∃ enough outcome, (∀ passes, enough ≤ passes → repair (rule.allow passes) placed = outcome) ∧
      (∀ passes result, repair (rule.allow passes) placed = .ok result → result.clean = true →
        outcome = .ok result) ∧
      ((∃ node ∈ placed.tag.attributes, ∃ previous ∈ placed.tag.attributes, ∃ fault,
          Template.message rule.template ⟨node.keyText, previous.keyText⟩ = .error fault ∧
            outcome = .error fault) ∨
        ∃ result left, outcome = .ok result ∧ RepairRun rule (left + 1) [] [] placed result ∧
          (result.clean = true ∨ result.cycled = true ∨
            ∃ stuck, Rotations placed (result.passes.map RepairPass.move) stuck ∧
              rule.Stuck stuck.tag)) := by
  let bound := placed.spanText.permutations.length
  have cleanToo : ∀ passes result, repair (rule.allow passes) placed = .ok result →
      result.clean = true → repairFrom rule (bound + 1 + passes) [] [] placed = .ok result := by
    intro passes result repaired clean
    rw [repair_allow] at repaired
    rw [Nat.add_comm]
    exact ((RepairRun.of_repairFrom repaired).spare (.inl clean) _).repairFrom_eq
  have enough : ∀ passes, bound + 1 ≤ passes → ∃ more, passes = bound + 1 + more :=
    fun passes above => ⟨_, (Nat.add_sub_cancel' above).symm⟩
  rcases repairFrom_ends rule (bound + 1) [] [] placed with
    ⟨result, run⟩ | ⟨moves, reached, fault, rotations, checked, failed⟩
  · obtain ⟨behind, here, ends, -⟩ := run.ends .start .nil rfl
    have unused : result.passes.length < bound + 1 :=
      Nat.lt_succ_of_le (ends.length_passes_le laid)
    have always : ∀ more, repairFrom rule (bound + 1 + more) [] [] placed = .ok result :=
      fun more => (run.spare (.inr (by simpa using unused)) more).repairFrom_eq
    refine ⟨bound + 1, .ok result, fun passes above => ?_, fun passes other repaired clean => ?_,
      .inr ⟨result, bound, rfl, run, ?_⟩⟩
    · obtain ⟨more, rfl⟩ := enough passes above
      rw [repair_allow, always]
    · rw [← always passes, cleanToo passes other repaired clean]
    · exact run.clean_or_cycled_or_stuck (by simpa using unused) .refl
  · refine ⟨bound + 1, .error fault, fun passes above => ?_, fun passes other repaired clean => ?_,
      .inl ?_⟩
    · obtain ⟨more, rfl⟩ := enough passes above
      rw [repair_allow, repairFrom_fault_spare failed]
    · rw [← cleanToo passes other repaired clean, repairFrom_fault_spare failed]
    · obtain ⟨node, nodeMember, previous, previousMember, message⟩ :=
        Rule.exists_of_check_eq_error checked
      have kept := Placed.Kept.rotations rotations laid
      obtain ⟨first, firstMember, firstKey⟩ := kept.exists_keyText nodeMember
      obtain ⟨second, secondMember, secondKey⟩ := kept.exists_keyText previousMember
      exact ⟨first, firstMember, second, secondMember, fault, by rw [firstKey, secondKey, message],
        rfl⟩

end TagOrder
