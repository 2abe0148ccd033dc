import Mathlib.Data.List.Permutation
import TagOrder.Proofs.Preference
import TagOrder.Proofs.Repair.Kept
import TagOrder.Proofs.Spreadless

/-!
# Repairs that sort

On a tag without spread binds every pass of a repair exchanges two neighbours of the ranked list
that are out of order, so one pair less is out of order after it (`Straightened.pass`). Arrangements
on the way differ in how many pairs are out of order; where different arrangements differ in their
text, none comes back. So a repair comes clean exactly when it has a pass for every pair, and then
the ranked attributes are stably sorted (`repair_sorts`).
-/

namespace TagOrder

/-- The ranked attributes of a tag in source order, apart from where they stand. -/
def lineup (policy : Policy) (placed : Placed) : List Ranked :=
  (ranked policy.table placed.tag.attributes).map Ranked.bare

/-- Who may follow whom in a tag. -/
abbrev Policy.mayFollowIn (policy : Policy) (placed : Placed) : Ranked -> Ranked -> Bool :=
  policy.mayFollow (ranked policy.table placed.tag.attributes)

/-- Different arrangements of the attributes of a tag give different texts. -/
def Placed.Distinguishes (placed : Placed) : Prop :=
  ∀ first : List Attribute, first.Perm (placed.tag.attributes.map Attribute.unplaced) →
    ∀ second : List Attribute, second.Perm (placed.tag.attributes.map Attribute.unplaced) →
    interleave (first.map (·.text)) (between placed.text placed.tag.attributes) =
      interleave (second.map (·.text)) (between placed.text placed.tag.attributes) →
    first = second

instance Placed.Distinguishes.decidable (placed : Placed) : Decidable placed.Distinguishes :=
  decidable_of_iff
    (∀ first ∈ (placed.tag.attributes.map Attribute.unplaced).permutations',
      ∀ second ∈ (placed.tag.attributes.map Attribute.unplaced).permutations',
        interleave (first.map (·.text)) (between placed.text placed.tag.attributes) =
          interleave (second.map (·.text)) (between placed.text placed.tag.attributes) →
        first = second)
    (by simp only [List.mem_permutations', Placed.Distinguishes])

/-- Items on which a policy decides are decided among each other. -/
theorem Policy.Decides.among {policy : Policy} {items : List Ranked}
    (decides : policy.Decides items) :
    DecidesAmong (policy.mayFollow items) (items.map Ranked.bare) where
  total := List.pairwise_map.mpr decides.total
  trans := by
    intro first second third firstMember secondMember thirdMember before after
    obtain ⟨one, oneMember, rfl⟩ := List.mem_map.mp firstMember
    obtain ⟨two, twoMember, rfl⟩ := List.mem_map.mp secondMember
    obtain ⟨three, threeMember, rfl⟩ := List.mem_map.mp thirdMember
    rw [Policy.mayFollow_bare] at before after ⊢
    exact decides.trans oneMember twoMember threeMember before after

/-- Attributes without a rank, apart from where they stand. -/
theorem map_unplaced_unranked (table : RankTable) {attributes : List Attribute}
    (spreadless : Spreadless attributes) :
    (unranked table attributes).map Attribute.unplaced =
      (attributes.map Attribute.unplaced).filter
        fun node => (table.rank (Category.of node)).isNone := by
  rw [unranked_of_spreadless table spreadless, List.filter_map]
  rfl

section Kept

variable {origin placed : Placed}

theorem Placed.Kept.spreadless (kept : origin.Kept placed)
    (spreadless : Spreadless origin.tag.attributes) : Spreadless placed.tag.attributes := by
  intro node member
  have inOrigin := kept.contents.subset (List.mem_map_of_mem member)
  obtain ⟨other, otherMember, same⟩ := List.mem_map.mp inOrigin
  rw [← Attribute.isSpread_unplaced, ← same, Attribute.isSpread_unplaced]
  exact spreadless other otherMember

/-- The lineup keeps its items. -/
theorem Placed.Kept.lineup_perm (policy : Policy) (kept : origin.Kept placed)
    (spreadless : Spreadless origin.tag.attributes) :
    (lineup policy placed).Perm (lineup policy origin) := by
  rw [lineup, lineup, map_bare_ranked _ spreadless, map_bare_ranked _ (kept.spreadless spreadless)]
  exact kept.contents.filterMap _

/-- Who may follow whom stays as it is. -/
theorem Placed.Kept.mayFollow_eq (policy : Policy) (kept : origin.Kept placed)
    (spreadless : Spreadless origin.tag.attributes) :
    policy.mayFollowIn placed = policy.mayFollowIn origin := by
  unfold Policy.mayFollowIn
  rw [← policy.mayFollow_map_bare, ← policy.mayFollow_map_bare (ranked _ origin.tag.attributes)]
  exact policy.mayFollow_perm (kept.lineup_perm policy spreadless)

end Kept

/-- What a pass over a tag without spread binds does to the lineup: it exchanges two neighbours that
are out of order. The attributes without a rank keep their order. -/
theorem exists_lineup_exchange {policy : Policy} {placed : Placed}
    (laid : Laid placed.text 0 placed.tag.attributes)
    (spreadless : Spreadless placed.tag.attributes) {inversion : Inversion}
    {others : List Inversion}
    (reported : policy.inversions placed.tag.attributes = inversion :: others) :
    ∃ block, policy.block? placed.tag.attributes = some block ∧
      block.Fits placed.tag.attributes ∧
      (∃ front left right back,
        lineup policy placed = front ++ left :: right :: back ∧
        lineup policy (block.rotate placed) = front ++ right :: left :: back ∧
        policy.mayFollowIn placed left right = false) ∧
      (unranked policy.table (block.rotate placed).tag.attributes).map Attribute.unplaced =
        (unranked policy.table placed.tag.attributes).map Attribute.unplaced := by
  obtain ⟨block, chosen, fits, front, left, middle, right, back, whole, rotated, atLeft, rankless,
    atRight, wrong⟩ := exists_exchange spreadless reported
  have stillPlain := (Placed.Kept.rotate fits laid).spreadless spreadless
  have leftStands := rankAt_unplaced policy.table front.length left
  have rightStands := rankAt_unplaced policy.table (front.length + 1 + middle.length) right
  rw [atLeft, Option.map_some] at leftStands
  rw [atRight, Option.map_some] at rightStands
  have middleStands : standing policy.table (middle.map Attribute.unplaced) = [] := by
    rw [standing, List.filterMap_map, List.filterMap_eq_nil_iff]
    intro node member
    exact Option.map_eq_none_iff.mpr (rankless node member)
  refine ⟨block, chosen, fits, ⟨standing policy.table (front.map Attribute.unplaced),
    inversion.previous.bare, inversion.node.bare,
    standing policy.table (back.map Attribute.unplaced), ?_, ?_, wrong⟩, ?_⟩
  · rw [lineup, map_bare_ranked _ spreadless, whole]
    unfold standing at middleStands ⊢
    simp [List.filterMap_append, leftStands, rightStands, middleStands]
  · rw [lineup, map_bare_ranked _ stillPlain, rotated]
    unfold standing at middleStands ⊢
    simp [List.filterMap_append, leftStands, rightStands, middleStands]
  · rw [map_unplaced_unranked _ stillPlain, rotated, map_unplaced_unranked _ spreadless, whole]
    obtain ⟨_, leftRank, -⟩ := Option.map_eq_some_iff.mp atLeft
    obtain ⟨_, rightRank, -⟩ := Option.map_eq_some_iff.mp atRight
    dsimp only at leftRank rightRank
    simp [of_unplaced, leftRank, rightRank]

/-- A tag on its way to order, after so many passes: each put one more pair in order, none moved
an item past one with which it is tied, or an attribute without a rank past another one. -/
structure Straightened (policy : Policy) (origin placed : Placed) (count : Nat) : Prop where
  kept : origin.Kept placed
  fewer : disorder (policy.mayFollowIn origin) (lineup policy placed) + count =
    disorder (policy.mayFollowIn origin) (lineup policy origin)
  ties : ∀ item ∈ lineup policy origin,
    (lineup policy placed).filter (tied (policy.mayFollowIn origin) item) =
      (lineup policy origin).filter (tied (policy.mayFollowIn origin) item)
  others : (unranked policy.table placed.tag.attributes).map Attribute.unplaced =
    (unranked policy.table origin.tag.attributes).map Attribute.unplaced

namespace Straightened

variable {policy : Policy} {origin placed : Placed} {count : Nat}

theorem refl (laid : Laid origin.text 0 origin.tag.attributes) :
    Straightened policy origin origin 0 :=
  ⟨.refl laid, rfl, fun _ _ => rfl, rfl⟩

/-- One more pass. -/
theorem pass (straight : Straightened policy origin placed count)
    (spreadless : Spreadless origin.tag.attributes)
    (decides : policy.Decides (ranked policy.table origin.tag.attributes))
    {inversion : Inversion} {others : List Inversion}
    (reported : policy.inversions placed.tag.attributes = inversion :: others) :
    ∃ block, policy.block? placed.tag.attributes = some block ∧
      Straightened policy origin (block.rotate placed) (count + 1) := by
  obtain ⟨kept, fewer, ties, unrankedSame⟩ := straight
  obtain ⟨block, chosen, fits, ⟨front, left, right, back, before, after, wrong⟩, stays⟩ :=
    exists_lineup_exchange kept.laid (kept.spreadless spreadless) reported
  have among := decides.among.perm (kept.lineup_perm policy spreadless)
  rw [kept.mayFollow_eq policy spreadless] at wrong
  have converse : policy.mayFollowIn origin right left = true := by
    have total := among.total
    rw [before] at total
    have behind := (List.pairwise_cons.mp (List.pairwise_append.mp total).2.1).1
    exact (behind right List.mem_cons_self).resolve_left (Bool.eq_false_iff.mp wrong)
  refine ⟨block, chosen, kept.trans (.rotate fits kept.laid), ?_, fun item member => ?_,
    stays.trans unrankedSame⟩
  · rw [after, ← fewer, before, disorder_exchange wrong converse front back]
    omega
  · have leftMember : left ∈ lineup policy placed := by rw [before]; simp
    have rightMember : right ∈ lineup policy placed := by rw [before]; simp
    have here := (kept.lineup_perm policy spreadless).symm.subset member
    have apart := not_tied_of_wrong among here leftMember rightMember wrong converse
    rw [after, ← ties item member, before]
    exact (filter_tied_exchange apart front back).symm

/-- A scan of a tag that reports nothing has gone over a sorted lineup. -/
theorem disorder_eq_zero (straight : Straightened policy origin placed count)
    (spreadless : Spreadless origin.tag.attributes)
    (decides : policy.Decides (ranked policy.table origin.tag.attributes))
    (clean : policy.inversions placed.tag.attributes = []) :
    disorder (policy.mayFollowIn origin) (lineup policy placed) = 0 := by
  have among : DecidesAmong (policy.mayFollowIn origin) (lineup policy placed) :=
    decides.among.perm (straight.kept.lineup_perm policy spreadless)
  rw [← straight.kept.mayFollow_eq policy spreadless] at among ⊢
  rw [disorder_eq_zero_iff, lineup, List.pairwise_map]
  refine pairwise_of_scan_eq_nil (fun one two three => ?_) clean
  exact among.trans (List.mem_map_of_mem one) (List.mem_map_of_mem two) (List.mem_map_of_mem three)

/-- Where arrangements differ in their texts, a tag with more pairs in order has another text. -/
theorem spanText_ne {other : Placed} {fewer : Nat}
    (straight : Straightened policy origin placed count)
    (earlier : Straightened policy origin other fewer)
    (spreadless : Spreadless origin.tag.attributes)
    (distinct : origin.Distinguishes) (less : fewer < count) :
    other.spanText ≠ placed.spanText := by
  intro same
  rw [straight.kept.spanText_eq, earlier.kept.spanText_eq] at same
  have contents : other.tag.attributes.map Attribute.unplaced =
      placed.tag.attributes.map Attribute.unplaced := by
    refine distinct _ earlier.kept.contents _ straight.kept.contents ?_
    simpa only [List.map_map, Function.comp_def, Attribute.text_unplaced] using same
  have lineups : lineup policy other = lineup policy placed := by
    rw [lineup, lineup, map_bare_ranked _ (earlier.kept.spreadless spreadless),
      map_bare_ranked _ (straight.kept.spreadless spreadless), contents]
  have here := straight.fewer
  have there := earlier.fewer
  rw [lineups] at there
  omega

end Straightened

/-- A repair on its way to order: each pass so far put one more pair in order, and each visit is of
an arrangement with fewer pairs in order than there are now. -/
structure Underway (policy : Policy) (origin : Placed) (visited : List Visit)
    (passes : List RepairPass) (placed : Placed) : Prop where
  here : Straightened policy origin placed passes.length
  visits : ∀ visit ∈ visited, ∃ other count, Straightened policy origin other count ∧
    count < passes.length ∧ visit.arrangement = other.spanText

namespace Underway

variable {rule : Rule} {origin placed : Placed} {visited : List Visit} {passes : List RepairPass}

/-- No arrangement comes back. -/
theorem fresh (underway : Underway rule.options.policy origin visited passes placed)
    (spreadless : Spreadless origin.tag.attributes) (distinct : origin.Distinguishes) :
    visited.any (·.arrangement == placed.spanText) = false := by
  rw [List.any_eq_false]
  intro visit member again
  obtain ⟨other, count, earlier, less, arrangement⟩ := underway.visits visit member
  refine underway.here.spanText_ne earlier spreadless distinct less ?_
  rw [← arrangement]
  exact beq_iff_eq.mp again

/-- One more pass. -/
theorem pass (underway : Underway rule.options.policy origin visited passes placed) {next : Placed}
    (further : Straightened rule.options.policy origin next (passes.length + 1))
    (violation : Violation) (count : Nat) :
    Underway rule.options.policy origin (visited ++ [placed.visit count])
      (passes ++ [⟨violation, some next⟩]) next where
  here := by
    rw [List.length_append]
    exact further
  visits := by
    rw [List.length_append]
    refine List.forall_mem_append.mpr ⟨fun visit earlier => ?_, List.forall_mem_singleton.mpr ?_⟩
    · obtain ⟨other, count, straight, less, arrangement⟩ := underway.visits visit earlier
      exact ⟨other, count, straight, Nat.lt_succ_of_lt less, arrangement⟩
    · exact ⟨placed, _, underway.here, Nat.lt_succ_self _, rfl⟩

/-- What a repair on its way does next: it is at fault, it is clean and in order, or it goes on with
one pair less out of order if it has a pass left. -/
theorem step (underway : Underway rule.options.policy origin visited passes placed)
    (spreadless : Spreadless origin.tag.attributes)
    (decides : rule.options.policy.Decides
      (ranked rule.options.policy.table origin.tag.attributes))
    (distinct : origin.Distinguishes) :
    let out := disorder (rule.options.policy.mayFollowIn origin)
    (∃ fault, rule.check placed.tag = .error fault) ∨
      (rule.check placed.tag = .ok [] ∧ out (lineup rule.options.policy placed) = 0) ∨
      ∃ next visit pass,
        Underway rule.options.policy origin (visited ++ [visit]) (passes ++ [pass]) next ∧
        out (lineup rule.options.policy placed) = out (lineup rule.options.policy next) + 1 ∧
        (∃ result, repairFrom rule 0 visited passes placed = .ok result ∧
          result.clean = false) ∧
        ∀ left, repairFrom rule (left + 1) visited passes placed =
          repairFrom rule left (visited ++ [visit]) (passes ++ [pass]) next := by
  intro out
  cases checked : rule.check placed.tag with
  | error fault => exact .inl ⟨fault, rfl⟩
  | ok violations =>
    right
    cases reported : rule.options.policy.inversions placed.tag.attributes with
    | nil =>
      have clean := Rule.check_eq_nil_iff.mpr reported
      exact .inl ⟨checked.symm.trans clean, underway.here.disorder_eq_zero spreadless decides
        reported⟩
    | cons inversion others =>
      have misplaced : violations ≠ [] := by
        rintro rfl
        rw [Rule.check_eq_nil_iff.mp checked] at reported
        cases reported
      have fresh := underway.fresh spreadless distinct
      obtain ⟨block, chosen, further⟩ := underway.here.pass spreadless decides reported
      obtain ⟨violation, found, rotated⟩ :=
        Rule.find?_of_block? underway.here.kept.laid.nodup checked chosen
      refine .inr ⟨_, _, _, underway.pass further violation violations.length, ?_, ?_, ?_⟩
      · have here := underway.here.fewer
        have there := further.fewer
        dsimp only [out]
        omega
      · exact ⟨_, repairFrom_stopped checked misplaced fresh (.inl rfl), rfl⟩
      · exact fun left => repairFrom_pass checked fresh found rotated

/-- A repair on its way comes to a check that is at fault, or it comes clean exactly when it has a
pass left for each pair that is out of order, and then it is in order. -/
theorem finishes {left : Nat} (underway : Underway rule.options.policy origin visited passes placed)
    (spreadless : Spreadless origin.tag.attributes)
    (decides : rule.options.policy.Decides
      (ranked rule.options.policy.table origin.tag.attributes))
    (distinct : origin.Distinguishes) :
    let out := disorder (rule.options.policy.mayFollowIn origin)
    (∃ result, repairFrom rule left visited passes placed = .ok result ∧
      (result.clean = true ↔ out (lineup rule.options.policy placed) ≤ left) ∧
      (result.clean = true →
        Straightened rule.options.policy origin result.placed result.passes.length ∧
          out (lineup rule.options.policy result.placed) = 0)) ∨
      ∃ reached fault, origin.Kept reached ∧ rule.check reached.tag = .error fault ∧
        repairFrom rule left visited passes placed = .error fault := by
  intro out
  -- One pass less is left at each step, and one pair less is out of order.
  induction left generalizing visited passes placed with
  | zero =>
    rcases underway.step spreadless decides distinct with ⟨fault, failed⟩ | ⟨checked, sorted⟩ |
      ⟨next, visit, pass, further, fewer, ⟨result, stopped, unclean⟩, -⟩
    · exact .inr ⟨placed, fault, underway.here.kept, failed, repairFrom_fault failed⟩
    · refine .inl ⟨_, repairFrom_clean checked, ?_, fun _ => ⟨underway.here, sorted⟩⟩
      exact iff_of_true rfl (Nat.le_of_eq sorted)
    · refine .inl ⟨result, stopped, iff_of_false ?_ ?_, fun clean => ?_⟩
      · exact Bool.eq_false_iff.mp unclean
      · dsimp only [out]
        omega
      · rw [unclean] at clean
        cases clean
  | succ left ih =>
    rcases underway.step spreadless decides distinct with ⟨fault, failed⟩ | ⟨checked, sorted⟩ |
      ⟨next, visit, pass, further, fewer, -, goesOn⟩
    · exact .inr ⟨placed, fault, underway.here.kept, failed, repairFrom_fault failed⟩
    · refine .inl ⟨_, repairFrom_clean checked, ?_, fun _ => ⟨underway.here, sorted⟩⟩
      exact iff_of_true rfl (Nat.le_trans (Nat.le_of_eq sorted) (Nat.zero_le _))
    · rw [goesOn left]
      rcases ih further with ⟨result, finished, comesClean, inOrder⟩ | faulty
      · refine .inl ⟨result, finished, comesClean.trans ?_, inOrder⟩
        dsimp only [out]
        omega
      · exact .inr faulty

end Underway

/-- The disorder of a lineup is that of the ranked attributes at their places. -/
theorem disorder_lineup (policy : Policy) (items : List Ranked) (placed : Placed) :
    disorder (policy.mayFollow items) (lineup policy placed) =
      disorder (policy.mayFollow items) (ranked policy.table placed.tag.attributes) :=
  disorder_map Ranked.bare (policy.mayFollow items) _

/-- A repair of a laid out tag without spread binds, on whose ranked attributes the policy decides
and whose arrangements differ in their texts, comes clean exactly when it may make a pass for each
pair that is out of order. It has then made just these passes, the ranked attributes are stably
sorted, and those without a rank are in the order in which they were. Only a message that cannot be
built for two of the attributes keeps it from its end. -/
theorem repair_sorts (rule : Rule) (placed : Placed)
    (laid : Laid placed.text 0 placed.tag.attributes)
    (spreadless : Spreadless placed.tag.attributes)
    (decides : rule.options.policy.Decides
      (ranked rule.options.policy.table placed.tag.attributes))
    (distinct : placed.Distinguishes) :
    let policy := rule.options.policy
    let items := ranked policy.table placed.tag.attributes
    let mayFollow := policy.mayFollow items
    (∃ result, repair rule placed = .ok result ∧
      (result.clean = true ↔ disorder mayFollow items ≤ rule.options.maxPasses) ∧
      (result.clean = true →
        (∀ sorted, StablySorted mayFollow (lineup policy placed) sorted ↔
          sorted = lineup policy result.placed) ∧
        result.passes.length = disorder mayFollow items ∧
        Rotations placed (result.passes.map RepairPass.move) result.placed ∧
        (unranked policy.table result.placed.tag.attributes).map Attribute.unplaced =
          (unranked policy.table placed.tag.attributes).map Attribute.unplaced)) ∨
      ∃ node ∈ placed.tag.attributes, ∃ previous ∈ placed.tag.attributes, ∃ fault,
        Template.message rule.template ⟨node.keyText, previous.keyText⟩ = .error fault ∧
          repair rule placed = .error fault := by
  intro policy items mayFollow
  have underway : Underway policy placed [] [] placed :=
    ⟨.refl laid, fun _ member => by cases member⟩
  rcases underway.finishes spreadless decides distinct with
    ⟨result, finished, comesClean, inOrder⟩ | ⟨reached, fault, kept, failed, faulty⟩
  · left
    rw [disorder_lineup] at comesClean
    refine ⟨result, finished, comesClean, fun clean => ?_⟩
    obtain ⟨straight, sorted⟩ := inOrder clean
    have stably : StablySorted mayFollow (lineup policy placed) (lineup policy result.placed) :=
      ⟨straight.kept.lineup_perm policy spreadless, disorder_eq_zero_iff.mp sorted, straight.ties⟩
    refine ⟨fun other => ⟨fun also => also.unique stably, ?_⟩, ?_, ?_, straight.others⟩
    · rintro rfl
      exact stably
    · have count := straight.fewer
      rw [sorted, disorder_lineup] at count
      rw [← count, Nat.zero_add]
    · exact (repair_rotations finished).2 clean
  · right
    obtain ⟨node, nodeMember, previous, previousMember, message⟩ :=
      Rule.exists_of_check_eq_error failed
    obtain ⟨first, firstMember, firstKey⟩ := kept.exists_keyText nodeMember
    obtain ⟨second, secondMember, secondKey⟩ := kept.exists_keyText previousMember
    refine ⟨first, firstMember, second, secondMember, fault, ?_, faulty⟩
    rw [firstKey, secondKey, message]

/-- A rule that orders two categories by the alphabet and may make a single pass. -/
def onePassRule : Rule :=
  { options := { order := [.one .global, .one .events], alphabetical := true, maxPasses := 1 } }

/-- A tag with a listener and a plain attribute out of order, and a bind without a rank between
them. -/
def crossedSample : Placed where
  text := "<a @click=\"f\" :to=\"x\" id=\"y\">".toList
  tag :=
    { name := "a"
      attributes :=
        [{ directive := true, name := "on", argument := some "click", range := ⟨3, 13⟩
           keyRange := ⟨3, 9⟩, text := "@click=\"f\"".toList, keyText := "@click".toList },
          { directive := true, name := "bind", argument := some "to", range := ⟨14, 21⟩
            keyRange := ⟨14, 17⟩, text := ":to=\"x\"".toList, keyText := ":to".toList },
          { name := "id", range := ⟨22, 28⟩, keyRange := ⟨22, 24⟩
            text := "id=\"y\"".toList, keyText := "id".toList }] }

/-- One pass is enough for the one pair of the tag that is out of order. -/
theorem repair_sorts_crossedSample :
    ∃ result, repair onePassRule crossedSample = .ok result ∧ result.clean = true ∧
      result.passes.length = 1 ∧
      StablySorted (onePassRule.options.policy.mayFollow
          (ranked onePassRule.options.policy.table crossedSample.tag.attributes))
        (lineup onePassRule.options.policy crossedSample)
        (lineup onePassRule.options.policy result.placed) := by
  have one : disorder (onePassRule.options.policy.mayFollow
        (ranked onePassRule.options.policy.table crossedSample.tag.attributes))
      (ranked onePassRule.options.policy.table crossedSample.tag.attributes) = 1 := by
    decide +kernel
  have decides : onePassRule.options.policy.Decides
      (ranked onePassRule.options.policy.table crossedSample.tag.attributes) :=
    ⟨by decide +kernel, List.pairwise_of_forall fun _ _ _ _ _ pins => by cases pins⟩
  have built : crossedSample.tag.attributes.all (fun node => crossedSample.tag.attributes.all
      fun previous => (Template.message onePassRule.template
        ⟨node.keyText, previous.keyText⟩).toOption.isSome) = true := by decide +kernel
  rcases repair_sorts onePassRule crossedSample (by decide +kernel) (by decide +kernel) decides
    (by decide +kernel) with
    ⟨result, finished, comesClean, sorts⟩ | ⟨node, member, previous, other, fault, failed, -⟩
  · have clean := comesClean.mpr (Nat.le_of_eq one)
    obtain ⟨stably, count, -, -⟩ := sorts clean
    exact ⟨result, finished, clean, count.trans one, (stably _).mpr rfl⟩
  · have message := List.all_eq_true.mp (List.all_eq_true.mp built node member) previous other
    rw [failed] at message
    cases message

end TagOrder
