import Mathlib.Data.List.Nodup
import TagOrder.Proofs.MergeOrder
import TagOrder.Proofs.Rule.Standard

/-!
# What a repair settles on

A repair goes along a trail: each arrangement is made from the one before by resolving its first
fixable violation. It records those that it has gone through, each text once, and `Repair.Ends`
says in which of them it ends: in the last one if that is clean, and else in the earliest of those
with the fewest violations. The first that it records is where it began, so a repair never leaves a
tag with more violations, and with as many only where it found it (`repair_fewest`).
-/

namespace TagOrder

/-- The first item of a list among those at which a measure is least. -/
def FirstLeast {α : Type} (measure : α -> Nat) (items : List α) (item : α) : Prop :=
  ∃ front back, items = front ++ item :: back ∧
    (∀ other ∈ front, measure item < measure other) ∧
      ∀ other ∈ back, measure item ≤ measure other

namespace FirstLeast

variable {α : Type} {measure : α -> Nat} {items rest : List α} {first item : α}

theorem mem (least : FirstLeast measure items item) : item ∈ items := by
  obtain ⟨front, back, rfl, -⟩ := least
  exact List.mem_append_right _ List.mem_cons_self

theorem le (least : FirstLeast measure items item) {other : α} (member : other ∈ items) :
    measure item ≤ measure other := by
  obtain ⟨front, back, rfl, ahead, behind⟩ := least
  rcases List.mem_append.mp member with inFront | inBack
  · exact Nat.le_of_lt (ahead other inFront)
  · rcases List.mem_cons.mp inBack with rfl | later
    · exact Nat.le_refl _
    · exact behind other later

/-- The least is as great as the first item only where it is the first item. -/
theorem eq_first (least : FirstLeast measure (first :: rest) item)
    (same : measure item = measure first) : item = first := by
  obtain ⟨front, back, whole, ahead, -⟩ := least
  cases front with
  | nil => exact (List.cons.inj whole).1.symm
  | cons head front =>
    obtain ⟨rfl, -⟩ := List.cons.inj whole
    have below := ahead first List.mem_cons_self
    rw [same] at below
    exact absurd below (Nat.lt_irrefl _)

/-- A greater item in front changes nothing. -/
theorem cons_of_lt (least : FirstLeast measure items item)
    (greater : measure item < measure first) :
    FirstLeast measure (first :: items) item := by
  obtain ⟨front, back, rfl, ahead, behind⟩ := least
  exact ⟨first :: front, back, rfl, List.forall_mem_cons.mpr ⟨greater, ahead⟩, behind⟩

/-- An item that is not below the first one changes nothing behind it. -/
theorem insert (least : FirstLeast measure (first :: rest) item) {other : α}
    (noLess : measure first ≤ measure other) :
    FirstLeast measure (first :: other :: rest) item := by
  obtain ⟨front, back, whole, ahead, behind⟩ := least
  cases front with
  | nil =>
    obtain ⟨rfl, rfl⟩ := List.cons.inj whole
    exact ⟨[], other :: rest, rfl, by simp, List.forall_mem_cons.mpr ⟨noLess, behind⟩⟩
  | cons head front =>
    obtain ⟨rfl, rfl⟩ := List.cons.inj whole
    obtain ⟨below, others⟩ := List.forall_mem_cons.mp ahead
    exact ⟨first :: other :: front, back, rfl, List.forall_mem_cons.mpr
      ⟨below, List.forall_mem_cons.mpr ⟨Nat.lt_of_lt_of_le below noLess, others⟩⟩, behind⟩

/-- The least of the images of items is the image of the least item. -/
theorem of_map {β : Type} {shown : α -> β} {measure : β -> Nat} {image : β}
    (least : FirstLeast measure (items.map shown) image) :
    ∃ item, shown item = image ∧ FirstLeast (fun item => measure (shown item)) items item := by
  obtain ⟨front, back, whole, ahead, behind⟩ := least
  obtain ⟨lead, tail, rfl, rfl, rest⟩ := List.map_eq_append_iff.mp whole
  obtain ⟨item, trail, rfl, rfl, rfl⟩ := List.map_eq_cons_iff.mp rest
  exact ⟨item, rfl, lead, trail, rfl, fun other member => ahead _ (List.mem_map_of_mem member),
    fun other member => behind _ (List.mem_map_of_mem member)⟩

end FirstLeast

/-- The visit with the fewest violations is the earliest of these. -/
theorem fewest_firstLeast (best : Visit) (rest : List Visit) :
    FirstLeast Visit.count (best :: rest) (fewest best rest) := by
  induction rest generalizing best with
  | nil => exact ⟨[], [], rfl, by simp, by simp⟩
  | cons visit rest ih =>
    rw [fewest]
    split
    · rename_i fewer
      have least := ih visit
      exact least.cons_of_lt (Nat.lt_of_le_of_lt (least.le List.mem_cons_self) fewer)
    · rename_i noFewer
      exact (ih best).insert (Nat.le_of_not_lt noFewer)

/-- How many attributes of a tag are misplaced, each of which is a violation of a check that comes
to its end. -/
def Rule.reported (rule : Rule) (tag : Tag) : Nat :=
  (rule.options.policy.inversions tag.attributes).length

/-- The arrangements that a repair goes through before it is `here`: each is made from the one
before by resolving the first of its violations that can be resolved. -/
inductive Trail (rule : Rule) (origin : Placed) :
    List RepairPass -> List Placed -> Placed -> Prop where
  | start : Trail rule origin [] [] origin
  | pass {passes behind here violations violation next}
      (trail : Trail rule origin passes behind here)
      (checked : rule.check here.tag = .ok violations)
      (found : violations.find? (·.fixable) = some violation)
      (rotated : rotate? here violation.node violation.previous = some next) :
      Trail rule origin (passes ++ [⟨violation, some next⟩]) (behind ++ [here]) next

namespace Trail

variable {rule : Rule} {origin here : Placed} {passes : List RepairPass} {behind : List Placed}

/-- A trail begins at its origin. -/
theorem exists_eq_cons (trail : Trail rule origin passes behind here) :
    ∃ rest, behind ++ [here] = origin :: rest := by
  induction trail with
  | start => exact ⟨[], rfl⟩
  | @pass _ _ _ _ _ next _ _ _ _ ih =>
    obtain ⟨rest, whole⟩ := ih
    exact ⟨rest ++ [next], by rw [whole, List.cons_append]⟩

/-- Nothing on a trail but its last arrangement can be clean. -/
theorem misplaced (trail : Trail rule origin passes behind here) {earlier : Placed}
    (member : earlier ∈ behind) :
    ∃ violations, rule.check earlier.tag = .ok violations ∧ violations ≠ [] := by
  induction trail with
  | start => cases member
  | pass _ checked found _ ih =>
    rcases List.mem_append.mp member with old | new
    · exact ih old
    · obtain rfl := List.mem_singleton.mp new
      exact ⟨_, checked, List.ne_nil_of_mem (List.mem_of_find?_eq_some found)⟩

end Trail

/-- The arrangements recorded by a repair that came `here`: all that it went through before, and
where it is unless that text has come back. -/
def Repair.recorded (result : Repair) (behind : List Placed) (here : Placed) : List Placed :=
  if result.cycled then behind else behind ++ [here]

/-- How a repair ends that has come along a trail. -/
structure Repair.Ends (rule : Rule) (origin : Placed) (result : Repair) (behind : List Placed)
    (here : Placed) : Prop where
  trail : Trail rule origin result.passes behind here
  distinct : (behind.map Placed.spanText).Nodup
  checked : ∃ violations, rule.check here.tag = .ok violations ∧
    (result.clean = true ↔ violations = [])
  clean : result.clean = true → result.placed = here
  cycled : result.clean = false →
    (result.cycled = true ↔ here.spanText ∈ behind.map Placed.spanText)
  settled : result.clean = false → FirstLeast (fun placed => rule.reported placed.tag)
    (result.recorded behind here) result.placed

/-- The visit that a rule makes of an arrangement. -/
def Rule.visit (rule : Rule) (placed : Placed) : Visit := placed.visit (rule.reported placed.tag)

@[simp] theorem Repair.clean_settled (placed : Placed) (visited : List Visit)
    (passes : List RepairPass) (cycled : Bool) :
    (Repair.settled placed visited passes cycled).clean = false := rfl

@[simp] theorem Repair.cycled_settled (placed : Placed) (visited : List Visit)
    (passes : List RepairPass) (cycled : Bool) :
    (Repair.settled placed visited passes cycled).cycled = cycled := rfl

namespace RepairRun

variable {rule : Rule} {origin placed : Placed} {behind : List Placed} {passes : List RepairPass}

/-- A repair settles on the earliest of the recorded arrangements with the fewest violations. -/
theorem settled_firstLeast (visits : behind ≠ []) (cycled : Bool) :
    FirstLeast (fun placed => rule.reported placed.tag) behind
      (Repair.settled placed (behind.map rule.visit) passes cycled).placed := by
  obtain ⟨first, rest, rfl⟩ := List.exists_cons_of_ne_nil visits
  have least := fewest_firstLeast (rule.visit first) (rest.map rule.visit)
  rw [← List.map_cons] at least
  obtain ⟨item, shown, least⟩ := least.of_map
  have same : (Repair.settled placed ((first :: rest).map rule.visit) passes cycled).placed =
      item := by
    rw [List.map_cons, Repair.settled]
    exact (congrArg Visit.placed shown).symm
  rw [same]
  exact least

theorem seen_iff : (behind.map rule.visit).any (·.arrangement == placed.spanText) = true ↔
    placed.spanText ∈ behind.map Placed.spanText := by
  simp [Rule.visit, Placed.visit]

theorem map_visit_append {violations : List Violation}
    (checked : rule.check placed.tag = .ok violations) :
    behind.map rule.visit ++ [placed.visit violations.length] =
      (behind ++ [placed]).map rule.visit := by
  rw [Rule.length_of_check_eq_ok checked, List.map_append]
  rfl

/-- A run from a point of a trail goes on along the trail and ends on it. -/
theorem ends {left : Nat} {visited : List Visit} {result : Repair}
    (run : RepairRun rule left visited passes placed result)
    (trail : Trail rule origin passes behind placed)
    (distinct : (behind.map Placed.spanText).Nodup) (recorded : visited = behind.map rule.visit) :
    ∃ behind here, result.Ends rule origin behind here ∧
      result.passes.length ≤ passes.length + left := by
  induction run generalizing behind with
  | @clean left _ passes placed checked =>
    exact ⟨behind, placed,
      { trail, distinct
        checked := ⟨[], checked, iff_of_true rfl rfl⟩
        clean := fun _ => rfl
        cycled := fun unclean => by cases unclean
        settled := fun unclean => by cases unclean }, Nat.le_add_right _ _⟩
  | @cycled left _ passes placed violations checked misplaced seen =>
    subst recorded
    have back := seen_iff.mp seen
    have visits : behind ≠ [] := by
      rintro rfl
      cases back
    exact ⟨behind, placed,
      { trail, distinct
        checked := ⟨violations, checked, by simpa using misplaced⟩
        clean := fun clean => by cases clean
        cycled := fun _ => iff_of_true rfl back
        settled := fun _ => settled_firstLeast visits true }, Nat.le_add_right _ _⟩
  | @stopped left _ passes placed violations checked misplaced fresh ending =>
    subst recorded
    have apart : placed.spanText ∉ behind.map Placed.spanText := by
      rw [← seen_iff, fresh]
      decide
    rw [map_visit_append checked]
    exact ⟨behind, placed,
      { trail, distinct
        checked := ⟨violations, checked, by simpa using misplaced⟩
        clean := fun clean => by cases clean
        cycled := fun _ => by simpa using apart
        settled := fun _ => settled_firstLeast (List.concat_ne_nil placed behind) false },
      Nat.le_add_right _ _⟩
  | @pass left _ passes placed violations violation next _ checked fresh found rotated _ ih =>
    subst recorded
    have apart : placed.spanText ∉ behind.map Placed.spanText := by
      rw [← seen_iff, fresh]
      decide
    have still : ((behind ++ [placed]).map Placed.spanText).Nodup := by
      rw [List.map_append, List.map_singleton]
      exact distinct.append (List.nodup_singleton _) (List.disjoint_singleton.mpr apart)
    obtain ⟨further, here, ends, bound⟩ :=
      ih (trail.pass checked found rotated) still (map_visit_append checked)
    refine ⟨further, here, ends, ?_⟩
    rw [List.length_append, List.length_singleton] at bound
    omega

end RepairRun

namespace Repair.Ends

variable {rule : Rule} {origin here : Placed} {result : Repair} {behind : List Placed}

/-- What a repair did not bring out clean it takes from the recorded arrangements, the first of
which is where it began. -/
theorem recorded_eq_cons (ends : result.Ends rule origin behind here)
    (unclean : result.clean = false) :
    ∃ rest, result.recorded behind here = origin :: rest := by
  obtain ⟨rest, whole⟩ := ends.trail.exists_eq_cons
  unfold Repair.recorded
  split
  · rename_i cycled
    have back := (ends.cycled unclean).mp cycled
    cases behind with
    | nil => cases back
    | cons first others => exact ⟨others, by rw [(List.cons.inj whole).1]⟩
  · exact ⟨rest, whole⟩

/-- What a repair yields can be checked, and is clean exactly when the repair says so. -/
theorem checked_result (ends : result.Ends rule origin behind here) :
    ∃ violations, rule.check result.placed.tag = .ok violations ∧
      (result.clean = true ↔ violations = []) := by
  obtain ⟨violations, checked, clean⟩ := ends.checked
  cases state : result.clean with
  | true =>
    rw [ends.clean state]
    exact ⟨violations, checked, state ▸ clean⟩
  | false =>
    rw [state] at clean
    have member : result.placed ∈ behind ++ [here] := by
      have found := (ends.settled state).mem
      unfold Repair.recorded at found
      split at found
      · exact List.mem_append_left _ found
      · exact found
    rcases List.mem_append.mp member with earlier | last
    · obtain ⟨others, checked, misplaced⟩ := ends.trail.misplaced earlier
      exact ⟨others, checked, iff_of_false (by decide) misplaced⟩
    · rw [List.mem_singleton.mp last]
      exact ⟨violations, checked, clean⟩

/-- Where a repair began can be checked. -/
theorem checked_origin (ends : result.Ends rule origin behind here) :
    ∃ violations, rule.check origin.tag = .ok violations := by
  obtain ⟨rest, whole⟩ := ends.trail.exists_eq_cons
  have member : origin ∈ behind ++ [here] := by
    rw [whole]
    exact List.mem_cons_self
  rcases List.mem_append.mp member with earlier | last
  · obtain ⟨violations, checked, -⟩ := ends.trail.misplaced earlier
    exact ⟨violations, checked⟩
  · obtain ⟨violations, checked, -⟩ := ends.checked
    rw [List.mem_singleton.mp last]
    exact ⟨violations, checked⟩

/-- A repair yields a tag no worse than the one with which it began, and one that is as bad only
where it is that one. -/
theorem no_worse (ends : result.Ends rule origin behind here) (unclean : result.clean = false) :
    rule.reported result.placed.tag ≤ rule.reported origin.tag ∧
      (rule.reported result.placed.tag = rule.reported origin.tag → result.placed = origin) := by
  have least := ends.settled unclean
  obtain ⟨rest, whole⟩ := ends.recorded_eq_cons unclean
  rw [whole] at least
  exact ⟨least.le List.mem_cons_self, least.eq_first⟩

end Repair.Ends

/-- What a repair brings out clean passes the check. -/
theorem check_of_repair {rule : Rule} {placed : Placed} {result : Repair}
    (repaired : repair rule placed = .ok result) (clean : result.clean = true) :
    rule.check result.placed.tag = .ok [] := by
  obtain ⟨behind, here, ends, -⟩ := (RepairRun.of_repairFrom repaired).ends .start .nil rfl
  obtain ⟨violations, checked, nothing⟩ := ends.checked_result
  rw [checked, nothing.mp clean]

/-- Whatever attributes move, the keys stay. -/
theorem MergeOrderKept.exists_keyText {before after : List Attribute}
    (kept : MergeOrderKept before after) {node : Attribute} (member : node ∈ after) :
    ∃ other ∈ before, other.keyText = node.keyText := by
  obtain ⟨places, carries, -⟩ := kept
  obtain ⟨place, rfl⟩ := List.get_of_mem member
  refine ⟨before.get (places.symm place), List.get_mem _ _, ?_⟩
  have carried := carries (places.symm place)
  rw [Equiv.apply_symm_apply] at carried
  rw [← Attribute.keyText_unplaced, ← carried, Attribute.keyText_unplaced]

/-- A repair makes no more passes than it may and never leaves a tag worse than it found it. It is
clean exactly when the tag that it yields passes the check. That tag has no more violations than
the one it began with, and as many only where it is the same tag in the same text; when it is not
clean it is the earliest of the recorded arrangements with the fewest violations. A tag that passes
the check is left as it is. Only a template of a registry that cannot be filled with the keys of
two attributes keeps a repair from its end. -/
theorem repair_fewest (rule : Rule) (placed : Placed) :
    (∃ result behind here before after, repair rule placed = .ok result ∧
      result.Ends rule placed behind here ∧
      result.passes.length ≤ rule.options.maxPasses ∧
      rule.check placed.tag = .ok before ∧
      rule.check result.placed.tag = .ok after ∧
      (result.clean = true ↔ after = []) ∧
      after.length ≤ before.length ∧
      (after.length = before.length → result.placed = placed) ∧
      (before = [] → result = { placed, clean := true, passes := [] })) ∨
    (rule.template ≠ Template.standard ∧
      ∃ node ∈ placed.tag.attributes, ∃ previous ∈ placed.tag.attributes, ∃ fault,
        Template.message rule.template ⟨node.keyText, previous.keyText⟩ = .error fault ∧
          repair rule placed = .error fault) := by
  rcases repairFrom_ends rule rule.options.maxPasses [] [] placed with
    ⟨result, run⟩ | ⟨moves, reached, fault, rotations, failed, faulty⟩
  · left
    obtain ⟨behind, here, ends, bound⟩ := run.ends .start .nil rfl
    rw [List.length_nil, Nat.zero_add] at bound
    obtain ⟨after, checkedAfter, clean⟩ := ends.checked_result
    have finished : repair rule placed = .ok result := run.repairFrom_eq
    have unchanged : rule.check placed.tag = .ok [] →
        result = { placed, clean := true, passes := [] } := fun passed =>
      Except.ok.inj (finished.symm.trans (repairFrom_clean passed))
    obtain ⟨before, checkedBefore⟩ := ends.checked_origin
    have fewer : after.length ≤ before.length ∧
        (after.length = before.length → result.placed = placed) := by
      cases state : result.clean with
      | true =>
        obtain rfl := clean.mp state
        refine ⟨Nat.zero_le _, fun same => ?_⟩
        obtain rfl := List.eq_nil_of_length_eq_zero same.symm
        rw [unchanged checkedBefore]
      | false =>
        rw [Rule.length_of_check_eq_ok checkedBefore, Rule.length_of_check_eq_ok checkedAfter]
        exact ends.no_worse state
    refine ⟨result, behind, here, before, after, finished, ends, bound, checkedBefore,
      checkedAfter, clean, fewer.1, fewer.2, ?_⟩
    rintro rfl
    exact unchanged checkedBefore
  · right
    obtain ⟨node, nodeMember, previous, previousMember, message⟩ :=
      Rule.exists_of_check_eq_error failed
    refine ⟨fun standard => ?_, ?_⟩
    · obtain ⟨violations, checked⟩ := Rule.check_standard standard reached.tag
      rw [failed] at checked
      cases checked
    · have kept := MergeOrderKept.rotations rotations
      obtain ⟨first, firstMember, firstKey⟩ := kept.exists_keyText nodeMember
      obtain ⟨second, secondMember, secondKey⟩ := kept.exists_keyText previousMember
      refine ⟨first, firstMember, second, secondMember, fault, ?_, faulty⟩
      rw [firstKey, secondKey, message]

end TagOrder
