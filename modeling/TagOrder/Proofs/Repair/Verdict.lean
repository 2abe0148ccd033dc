import TagOrder.Proofs.Repair.Budget
import TagOrder.Proofs.Repair.Descent
import TagOrder.Proofs.Repair.Sorts

/-!
# What the verdict of a check tells about a repair

Whether a violation can be fixed is told of the tag as it stands, and each pass makes another tag.
So a tag all of whose violations can be fixed need not come clean: passes may bring a spread bind to
where it holds the others back, and two attributes that one qualifier names go round and round.
Where the policy tells the attributes apart nothing goes round, and a repair with enough passes
comes clean or is led to a tag none of whose violations can be fixed; without spread binds it comes
clean (`repair_of_fixable`).
-/

namespace TagOrder

/-- What the attributes of a tag are, apart from where they stand. -/
def Placed.contents (placed : Placed) : List Attribute :=
  placed.tag.attributes.map Attribute.unplaced

/-- A rotation exchanges the two parts of its block. -/
theorem Placed.contents_rotate {placed : Placed} {block : Block}
    (fits : block.Fits placed.tag.attributes) :
    (block.rotate placed).contents = block.exchange placed.contents := by
  rw [contents, Block.rotate_unplaced fits]
  simp only [Block.exchange, Block.movers, Block.passed, contents, List.map_append, List.map_take,
    List.map_drop]

/-- Each pass over an arrangement of a tag lowers a measure of its attributes. -/
def Policy.Lowers {γ : Type} [LT γ] (policy : Policy) (origin : Placed)
    (measure : List Attribute -> γ) : Prop :=
  ∀ placed block, origin.Kept placed → policy.block? placed.tag.attributes = some block →
    block.Fits placed.tag.attributes → measure (block.rotate placed).contents <
      measure placed.contents

/-- Some passes lead a repair to a tag on which it is stuck. -/
def Rule.StuckAfter (rule : Rule) (origin : Placed) (passes : List RepairPass) : Prop :=
  ∃ stuck, Rotations origin (passes.map RepairPass.move) stuck ∧ rule.Stuck stuck.tag

section Lowers

variable {γ : Type} [Preorder γ] {rule : Rule} {origin here : Placed}
  {measure : List Attribute -> γ}

/-- The measure goes down all along a trail. -/
theorem Trail.lower {passes : List RepairPass} {behind : List Placed}
    (trail : Trail rule origin passes behind here)
    (laid : Laid origin.text 0 origin.tag.attributes)
    (lowers : rule.options.policy.Lowers origin measure) :
    ∀ earlier ∈ behind, measure here.contents < measure earlier.contents := by
  induction trail with
  | start => exact fun _ member => by cases member
  | pass trail checked found rotated ih =>
    have kept := (trail.kept laid).1
    obtain ⟨block, chosen, fits, rfl⟩ := Rule.block?_of_find? kept.laid.nodup checked found rotated
    have below := lowers _ block kept chosen fits
    exact List.forall_mem_append.mpr ⟨fun earlier member => below.trans (ih earlier member),
      List.forall_mem_singleton.mpr below⟩

/-- Where arrangements differ in their texts and passes lower a measure, none comes back. -/
theorem Repair.Ends.not_cycled {result : Repair} {behind : List Placed}
    (ends : result.Ends rule origin behind here) (unclean : result.clean = false)
    (laid : Laid origin.text 0 origin.tag.attributes) (distinct : origin.Distinguishes)
    (lowers : rule.options.policy.Lowers origin measure) : result.cycled = false := by
  refine Bool.eq_false_iff.mpr fun cycled => ?_
  obtain ⟨earlier, member, same⟩ := List.mem_map.mp ((ends.cycled unclean).mp cycled)
  obtain ⟨kept, before⟩ := ends.trail.kept laid
  have earlierKept := before earlier member
  rw [earlierKept.spanText_eq, kept.spanText_eq] at same
  have contents : earlier.contents = here.contents := by
    refine distinct _ earlierKept.contents _ kept.contents ?_
    simpa only [Placed.contents, List.map_map, Function.comp_def, Attribute.text_unplaced]
      using same
  have below := ends.trail.lower laid lowers earlier member
  rw [contents] at below
  exact lt_irrefl _ below

end Lowers

/-- Where the policy tells the attributes apart, passes lower the unrest. -/
theorem Policy.Discerns.lowers {policy : Policy} {origin : Placed}
    (discerns : policy.Discerns origin.tag.attributes) :
    policy.Lowers origin
      (policy.table.unrest (policy.mayFollow (policy.plainItems origin.contents))) := by
  intro placed block kept chosen fits
  have here := discerns.unplaced.perm kept.contents
  rw [← policy.block?_unplaced] at chosen
  obtain ⟨inversion, turn⟩ := exists_turn here.decides chosen
  have lower := turn.unrest_lt here.decides
  rw [here.mayFollow_eq, policy.mayFollow_plainItems_perm kept.contents] at lower
  rw [Placed.contents_rotate fits]
  exact lower

/-- Without spread binds passes lower the disorder of the lineup. -/
theorem Policy.PinsApart.lowers {policy : Policy} {origin : Placed}
    (apart : policy.PinsApart origin.tag.attributes)
    (spreadless : Spreadless origin.tag.attributes) :
    policy.Lowers origin fun contents =>
      disorder (policy.mayFollowIn origin) (standing policy.table contents) := by
  intro placed block kept chosen fits
  have plain := kept.spreadless spreadless
  have noSpreads : ∀ node ∈ origin.tag.attributes, node.isSpread = true → ∀ onTop,
      policy.onTop = some onTop → ∀ qualifier ∈ onTop, qualifier.names node = false := by
    intro node member spread
    rw [spreadless node member] at spread
    cases spread
  cases reported : policy.inversions placed.tag.attributes with
  | nil =>
    rw [Policy.block?, reported] at chosen
    cases chosen
  | cons inversion others =>
    obtain ⟨other, otherChosen, otherFits, ⟨front, left, right, back, before, after, wrong⟩, -⟩ :=
      exists_lineup_exchange kept.laid plain reported
    obtain rfl := Option.some.inj (otherChosen.symm.trans chosen)
    rw [kept.mayFollow_eq policy spreadless] at wrong
    have total : (lineup policy placed).Pairwise fun left right =>
        policy.mayFollowIn origin left right = true ∨
          policy.mayFollowIn origin right left = true := by
      refine ((kept.lineup_perm policy spreadless).pairwise_iff fun {_ _} => Or.symm).mpr ?_
      exact List.pairwise_map.mpr (mayFollow_total (apart.pairwise_ranked noSpreads))
    rw [before] at total
    have converse : policy.mayFollowIn origin right left = true := by
      have behind := (List.pairwise_cons.mp (List.pairwise_append.mp total).2.1).1
      exact (behind right List.mem_cons_self).resolve_left (Bool.eq_false_iff.mp wrong)
    have still := (Placed.Kept.rotate fits kept.laid).spreadless plain
    dsimp only
    rw [Placed.contents, Placed.contents, ← map_bare_ranked _ still, ← map_bare_ranked _ plain]
    change disorder _ (lineup policy (other.rotate placed)) < disorder _ (lineup policy placed)
    rw [before, after, disorder_exchange wrong converse front back]
    exact Nat.lt_succ_self _

/-- A repair is not stuck on a tag without spread binds. -/
theorem Rule.not_stuck {rule : Rule} {placed : Placed}
    (laid : Laid placed.text 0 placed.tag.attributes)
    (spreadless : Spreadless placed.tag.attributes) : ¬ rule.Stuck placed.tag := by
  rintro ⟨violations, checked, misplaced, unfixable⟩
  cases reported : rule.options.policy.inversions placed.tag.attributes with
  | nil =>
    refine misplaced (Except.ok.inj (checked.symm.trans ?_))
    exact Rule.check_eq_nil_iff.mpr reported
  | cons inversion others =>
    obtain ⟨block, chosen, -⟩ := exists_exchange spreadless reported
    obtain ⟨violation, found, -⟩ := Rule.find?_of_block? laid.nodup checked chosen
    have fixable := List.find?_some found
    rw [unfixable violation (List.mem_of_find?_eq_some found)] at fixable
    cases fixable

/-- A repair that begins with violations that can be fixed makes a pass if it may. -/
theorem RepairRun.passes_ne_nil {rule : Rule} {left : Nat} {placed : Placed} {result : Repair}
    (run : RepairRun rule (left + 1) [] [] placed result) {violations : List Violation}
    (checked : rule.check placed.tag = .ok violations) (misplaced : violations ≠ [])
    (fixable : ∀ violation ∈ violations, violation.fixable = true) : result.passes ≠ [] := by
  cases run with
  | clean here => exact absurd (Except.ok.inj (checked.symm.trans here)) misplaced
  | cycled _ _ seen => cases seen
  | stopped here _ _ ending =>
    obtain rfl := Except.ok.inj (checked.symm.trans here)
    obtain ⟨violation, others, rfl⟩ := List.exists_cons_of_ne_nil misplaced
    have first := fixable violation List.mem_cons_self
    rcases ending with none | none
    · cases none
    · rw [List.find?_cons_of_pos first] at none
      cases none
  | pass _ _ _ _ rest =>
    obtain ⟨later, passes⟩ := rest.exists_passes
    rw [passes]
    exact List.cons_ne_nil _ _

/-- A check of a laid out tag that reports violations all of which can be fixed. From some number of
passes on the repair of the tag does not depend on how many are allowed, and it is that of every
number of passes with which the tag comes clean. Unless a message cannot be built for two of the
attributes, it makes a pass, and then comes clean, comes back to an arrangement, or is led to a tag
none of whose violations can be fixed. Where arrangements differ in their texts, none comes back if
the policy tells the attributes apart, and without spread binds the tag comes clean if no qualifier
names two of the other attributes. -/
theorem repair_of_fixable (rule : Rule) (placed : Placed)
    (laid : Laid placed.text 0 placed.tag.attributes) {violations : List Violation}
    (checked : rule.check placed.tag = .ok violations) (misplaced : violations ≠ [])
    (fixable : ∀ violation ∈ violations, violation.fixable = true) :
    let policy := rule.options.policy
    ∃ enough outcome, (∀ passes, enough ≤ passes → repair (rule.allow passes) placed = outcome) ∧
      (∀ passes result, repair (rule.allow passes) placed = .ok result → result.clean = true →
        outcome = .ok result) ∧
      ((∃ node ∈ placed.tag.attributes, ∃ previous ∈ placed.tag.attributes, ∃ fault,
          Template.message rule.template ⟨node.keyText, previous.keyText⟩ = .error fault ∧
            outcome = .error fault) ∨
        ∃ result, outcome = .ok result ∧ result.passes ≠ [] ∧
          (result.clean = true ∨ result.cycled = true ∨ rule.StuckAfter placed result.passes) ∧
          (placed.Distinguishes → policy.Discerns placed.tag.attributes →
            result.clean = true ∨ rule.StuckAfter placed result.passes) ∧
          (placed.Distinguishes → policy.PinsApart placed.tag.attributes →
            Spreadless placed.tag.attributes → result.clean = true)) := by
  intro policy
  obtain ⟨enough, outcome, always, cleanToo, faulty | ⟨result, left, ended, run, ways⟩⟩ :=
    exists_repair_allow rule placed laid
  · exact ⟨enough, outcome, always, cleanToo, .inl faulty⟩
  obtain ⟨behind, here, ends, -⟩ := run.ends .start .nil rfl
  have cleanOrStuck : ∀ {γ : Type} [Preorder γ] {measure : List Attribute -> γ},
      placed.Distinguishes → policy.Lowers placed measure →
        result.clean = true ∨ rule.StuckAfter placed result.passes := by
    intro γ _ measure distinct lowers
    rcases ways with clean | cycled | stuck
    · exact .inl clean
    · refine .inl (Bool.eq_true_of_not_eq_false fun unclean => ?_)
      rw [ends.not_cycled unclean laid distinct lowers] at cycled
      cases cycled
    · exact .inr stuck
  refine ⟨enough, outcome, always, cleanToo, .inr ⟨result, ended,
    run.passes_ne_nil checked misplaced fixable, ways, fun distinct discerns => ?_,
    fun distinct apart spreadless => ?_⟩⟩
  · exact cleanOrStuck distinct discerns.lowers
  · refine (cleanOrStuck distinct (apart.lowers spreadless)).resolve_right ?_
    rintro ⟨stuck, rotations, isStuck⟩
    have kept := Placed.Kept.rotations rotations laid
    exact Rule.not_stuck kept.laid (kept.spreadless spreadless) isStuck

/-- A tag with a plain attribute that has to go over a listener together with a spread bind. -/
def coupledPair : Placed where
  text := "<p @click=\"f\" v-bind=\"o\" id=\"i\">".toList
  tag :=
    { name := "p"
      attributes :=
        [{ directive := true, name := "on", argument := some "click", range := ⟨3, 13⟩
           keyRange := ⟨3, 9⟩, text := "@click=\"f\"".toList, keyText := "@click".toList },
          { directive := true, name := "bind", range := ⟨14, 24⟩, keyRange := ⟨14, 20⟩
            text := "v-bind=\"o\"".toList, keyText := "v-bind".toList },
          { name := "id", range := ⟨25, 31⟩, keyRange := ⟨25, 27⟩
            text := "id=\"i\"".toList, keyText := "id".toList }] }

/-- Whether a check reports that all of some violations can be fixed, in a form that computes. -/
theorem Rule.exists_of_verdict {rule : Rule} {tag : Tag} {verdict : List Bool}
    (shown : (rule.check tag).toOption.map (fun violations => violations.map (·.fixable)) =
      some verdict) (some : verdict ≠ []) (all : ∀ flag ∈ verdict, flag = true) :
    ∃ violations, rule.check tag = .ok violations ∧ violations ≠ [] ∧
      ∀ violation ∈ violations, violation.fixable = true := by
  cases checked : rule.check tag with
  | error fault =>
    rw [checked] at shown
    cases shown
  | ok violations =>
    rw [checked] at shown
    obtain rfl := Option.some.inj shown
    refine ⟨violations, rfl, ?_, List.forall_mem_map.mp all⟩
    rintro rfl
    exact some rfl

/-- The tag comes clean in one pass, and so with any number of passes from some number on. -/
theorem repair_of_fixable_coupledPair :
    (∃ violations, Rule.check {} coupledPair.tag = .ok violations ∧ violations ≠ [] ∧
      ∀ violation ∈ violations, violation.fixable = true) ∧
    coupledPair.Distinguishes ∧ (Rule.options {}).policy.Discerns coupledPair.tag.attributes ∧
    ∃ enough result, (∀ passes, enough ≤ passes →
      repair (Rule.allow {} passes) coupledPair = .ok result) ∧ result.clean = true := by
  let rule : Rule := {}
  let block : Block := ⟨0, 1, 2⟩
  have laid : Laid coupledPair.text 0 coupledPair.tag.attributes := by decide +kernel
  have distinct : coupledPair.Distinguishes := by decide +kernel
  have discerns : rule.options.policy.Discerns coupledPair.tag.attributes :=
    { static := fun alphabetical => by cases alphabetical
      pinned := List.pairwise_of_forall fun _ _ _ _ _ pins => by cases pins
      spreads := fun _ _ _ _ pins => by cases pins }
  have fits : block.Fits coupledPair.tag.attributes := ⟨by decide, by decide, by decide⟩
  have chosen : rule.options.policy.block? coupledPair.tag.attributes = some block := by
    decide +kernel
  obtain ⟨violations, checked, misplaced, fixable⟩ : ∃ violations,
      rule.check coupledPair.tag = .ok violations ∧ violations ≠ [] ∧
        ∀ violation ∈ violations, violation.fixable = true :=
    Rule.exists_of_verdict (by decide +kernel) (List.cons_ne_nil true []) (by simp)
  obtain ⟨violation, found, rotated⟩ := Rule.find?_of_block? laid.nodup checked chosen
  have clean : rule.check (block.rotate coupledPair).tag = .ok [] := by
    have ordered : rule.options.policy.inversions (block.rotate coupledPair).contents = [] := by
      rw [Placed.contents_rotate fits]
      decide +kernel
    rw [Placed.contents, Policy.inversions_unplaced] at ordered
    exact Rule.check_eq_nil_iff.mpr (List.map_eq_nil_iff.mp ordered)
  have once := (repair_allow rule 1 coupledPair).trans
    (RepairRun.pass checked rfl found rotated (.clean clean)).repairFrom_eq
  obtain ⟨enough, outcome, always, cleanToo, -⟩ :=
    repair_of_fixable rule coupledPair laid checked misplaced fixable
  refine ⟨⟨violations, checked, misplaced, fixable⟩, distinct, discerns, enough, _,
    fun passes above => (always passes above).trans (cleanToo 1 _ once rfl), rfl⟩

/-- A tag whose one violation can be fixed, by moving a plain attribute and the spread bind beside
it over a listener. -/
def draggedSample : Placed where
  text := "<p class=\"c\" @click=\"f\" v-bind=\"o\" id=\"i\">".toList
  tag :=
    { name := "p"
      attributes :=
        [{ name := "class", range := ⟨3, 12⟩, keyRange := ⟨3, 8⟩
           text := "class=\"c\"".toList, keyText := "class".toList },
          { directive := true, name := "on", argument := some "click", range := ⟨13, 23⟩
            keyRange := ⟨13, 19⟩, text := "@click=\"f\"".toList, keyText := "@click".toList },
          { directive := true, name := "bind", range := ⟨24, 34⟩, keyRange := ⟨24, 30⟩
            text := "v-bind=\"o\"".toList, keyText := "v-bind".toList },
          { name := "id", range := ⟨35, 41⟩, keyRange := ⟨35, 37⟩
            text := "id=\"i\"".toList, keyText := "id".toList }] }

/-- Every repair of a tag on which it is stuck ends without coming clean. -/
theorem Rule.Stuck.exists_run {rule : Rule} {placed : Placed} (stuck : rule.Stuck placed.tag)
    (left : Nat) (visited : List Visit) (passes : List RepairPass) :
    ∃ result, RepairRun rule left visited passes placed result ∧ result.clean = false := by
  obtain ⟨violations, checked, misplaced, unfixable⟩ := stuck
  cases seen : visited.any (·.arrangement == placed.spanText) with
  | true => exact ⟨_, .cycled checked misplaced seen, rfl⟩
  | false =>
    refine ⟨_, .stopped checked misplaced seen (.inr ?_), rfl⟩
    simpa using unfixable

/-- A repair is stuck on a tag with inversions and without a block for any of them. -/
theorem Rule.stuck_of_contents {rule : Rule} {placed : Placed}
    (standard : rule.template = Template.standard) (distinct : placed.tag.attributes.Nodup)
    (reported : rule.options.policy.inversions placed.contents ≠ [])
    (none : rule.options.policy.block? placed.contents = none) : rule.Stuck placed.tag := by
  obtain ⟨violations, checked⟩ := Rule.check_standard standard placed.tag
  rw [Placed.contents, Policy.block?_unplaced] at none
  have unfixable := (Rule.find?_eq_none_iff distinct checked).mpr none
  refine ⟨violations, checked, ?_, by simpa using unfixable⟩
  rintro rfl
  rw [Placed.contents, Policy.inversions_unplaced, Rule.check_eq_nil_iff.mp checked] at reported
  exact reported rfl

/-- The one violation of the sample can be fixed, but however many passes are allowed, the sample
does not come clean: the pass brings the spread bind beside the first attribute, which the one that
was moved with it would have to pass. -/
theorem repair_of_fixable_draggedSample :
    Laid draggedSample.text 0 draggedSample.tag.attributes ∧
    (∃ violations, Rule.check {} draggedSample.tag = .ok violations ∧ violations ≠ [] ∧
      ∀ violation ∈ violations, violation.fixable = true) ∧
    ∀ passes, ∃ result, repair (Rule.allow {} passes) draggedSample = .ok result ∧
      result.clean = false := by
  let rule : Rule := {}
  let block : Block := ⟨1, 2, 3⟩
  have laid : Laid draggedSample.text 0 draggedSample.tag.attributes := by decide +kernel
  have fits : block.Fits draggedSample.tag.attributes := ⟨by decide, by decide, by decide⟩
  have stuck : rule.Stuck (block.rotate draggedSample).tag := by
    have kept := Placed.Kept.rotate fits laid
    refine Rule.stuck_of_contents rfl kept.laid.nodup ?_ ?_
    · rw [Placed.contents_rotate fits]
      decide +kernel
    · rw [Placed.contents_rotate fits]
      decide +kernel
  obtain ⟨violations, checked, misplaced, fixable⟩ : ∃ violations,
      rule.check draggedSample.tag = .ok violations ∧ violations ≠ [] ∧
        ∀ violation ∈ violations, violation.fixable = true :=
    Rule.exists_of_verdict (by decide +kernel) (List.cons_ne_nil true []) (by simp)
  have chosen : rule.options.policy.block? draggedSample.tag.attributes = some block := by
    decide +kernel
  obtain ⟨violation, found, rotated⟩ := Rule.find?_of_block? laid.nodup checked chosen
  refine ⟨laid, ⟨violations, checked, misplaced, fixable⟩, fun passes => ?_⟩
  rw [repair_allow]
  cases passes with
  | zero => exact ⟨_, (RepairRun.stopped checked misplaced rfl (.inl rfl)).repairFrom_eq, rfl⟩
  | succ left =>
    obtain ⟨result, run, unclean⟩ := stuck.exists_run left
      ([] ++ [draggedSample.visit violations.length])
      ([] ++ [⟨violation, some (block.rotate draggedSample)⟩])
    exact ⟨result, (RepairRun.pass checked rfl found rotated run).repairFrom_eq, unclean⟩

end TagOrder
