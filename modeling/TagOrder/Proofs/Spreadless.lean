import TagOrder.Proofs.Repair.Pass
import TagOrder.Proofs.Sorting

/-!
# Tags without spread binds

Without spread binds nothing is linked and every attribute is ranked by its own category, so a pass
moves a single attribute: the second of two neighbours in the ranked list goes in front of the
first, over attributes that have no rank (`exists_exchange`). Such a pass exchanges the two in the
ranked list and leaves the order of the other attributes alone.
-/

namespace TagOrder

/-- No attribute is a spread bind. -/
def Spreadless (attributes : List Attribute) : Prop :=
  ∀ node ∈ attributes, node.isSpread = false

instance Spreadless.decidable (attributes : List Attribute) : Decidable (Spreadless attributes) :=
  inferInstanceAs (Decidable (∀ node ∈ attributes, node.isSpread = false))

/-- An attribute at its place with the rank of its category, if that has one. -/
def RankTable.rankAt (table : RankTable) (entry : Nat × Attribute) : Option Ranked :=
  (table.rank (Category.of entry.2)).map fun rank => ⟨entry.1, entry.2, rank⟩

/-- The ranked attributes among some, without their places. -/
def standing (table : RankTable) (nodes : List Attribute) : List Ranked :=
  nodes.filterMap fun node => table.rankAt (0, node)

/-- The attributes of a tag that take no part in ordering, in source order. -/
def unranked (table : RankTable) (attributes : List Attribute) : List Attribute :=
  ((enumerate 0 attributes).filter fun entry =>
    !(ranked table attributes).any fun item => item.place == entry.1).map Prod.snd

theorem map_snd_enumerate (place : Nat) (attributes : List Attribute) :
    (enumerate place attributes).map Prod.snd = attributes := by
  induction attributes generalizing place with
  | nil => rfl
  | cons node rest ih => rw [enumerate_cons, List.map_cons, ih]

/-- An entry of an enumeration counts those in front of it. -/
theorem fst_of_enumerate_eq {place : Nat} {attributes : List Attribute}
    {front back : List (Nat × Attribute)} {entry : Nat × Attribute}
    (whole : enumerate place attributes = front ++ entry :: back) :
    entry.1 = place + front.length := by
  induction front generalizing place attributes with
  | nil =>
    cases attributes with
    | nil => cases whole
    | cons node rest =>
      rw [enumerate_cons] at whole
      rw [← (List.cons.inj whole).1]
      rfl
  | cons first front ih =>
    cases attributes with
    | nil => cases whole
    | cons node rest =>
      rw [enumerate_cons] at whole
      rw [ih (List.cons.inj whole).2, List.length_cons]
      omega

/-- Neighbours among what a function picks from a list, and what stands around them. -/
theorem exists_of_filterMap_eq {α β : Type} {pick : α -> Option β} {items : List α}
    {front back : List β} {left right : β}
    (picked : items.filterMap pick = front ++ left :: right :: back) :
    ∃ before first between second after,
      items = before ++ first :: (between ++ second :: after) ∧
        before.filterMap pick = front ∧ pick first = some left ∧ between.filterMap pick = [] ∧
        pick second = some right ∧ after.filterMap pick = back := by
  obtain ⟨lead, rest, rfl, leads, rests⟩ := List.filterMap_eq_append_iff.mp picked
  obtain ⟨skipped, first, behind, rfl, none, atFirst, behinds⟩ :=
    List.filterMap_eq_cons_iff.mp rests
  obtain ⟨between, second, after, rfl, empty, atSecond, afters⟩ :=
    List.filterMap_eq_cons_iff.mp behinds
  refine ⟨lead ++ skipped, first, between, second, after, ?_, ?_, atFirst, ?_, atSecond, afters⟩
  · rw [List.append_assoc]
  · rw [List.filterMap_append, List.filterMap_eq_nil_iff.mpr none, List.append_nil, leads]
  · exact List.filterMap_eq_nil_iff.mpr empty

section Ranks

variable {table : RankTable} {attributes : List Attribute}

theorem uncoupledFrom_of_spreadless (spreadless : Spreadless attributes)
    (left : Option Attribute) (place : Nat) :
    uncoupledFrom left place attributes = enumerate place attributes := by
  induction attributes generalizing left place with
  | nil => rfl
  | cons node rest ih =>
    have plain := spreadless node List.mem_cons_self
    have tail := ih (fun other member => spreadless other (List.mem_cons_of_mem _ member))
    rw [uncoupledFrom, coupledBetween, plain, tail, enumerate_cons]
    rfl

theorem rankedAmong_of_spreadless (table : RankTable) {entries : List (Nat × Attribute)}
    (spreadless : ∀ entry ∈ entries, entry.2.isSpread = false) :
    rankedAmong table entries = entries.filterMap table.rankAt := by
  induction entries with
  | nil => rfl
  | cons entry rest ih =>
    have plain := spreadless entry List.mem_cons_self
    have tail := ih fun other member => spreadless other (List.mem_cons_of_mem _ member)
    rw [rankedAmong, plain, tail, List.filterMap_cons, RankTable.rankAt]
    cases table.rank (Category.of entry.2) <;> rfl

/-- Without spread binds every attribute has the rank of its category. -/
theorem ranked_of_spreadless (table : RankTable) (spreadless : Spreadless attributes) :
    ranked table attributes = (enumerate 0 attributes).filterMap table.rankAt := by
  rw [ranked, uncoupledFrom_of_spreadless spreadless]
  refine rankedAmong_of_spreadless table fun entry member => spreadless entry.2 ?_
  rw [← map_snd_enumerate 0 attributes]
  exact List.mem_map_of_mem member

theorem rankAt_unplaced (table : RankTable) (place : Nat) (node : Attribute) :
    table.rankAt (0, node.unplaced) = (table.rankAt (place, node)).map Ranked.bare := by
  rw [RankTable.rankAt, RankTable.rankAt, of_unplaced]
  cases table.rank (Category.of node) <;> rfl

/-- The ranked attributes of a tag, without their places. -/
theorem map_bare_ranked (table : RankTable) (spreadless : Spreadless attributes) :
    (ranked table attributes).map Ranked.bare =
      standing table (attributes.map Attribute.unplaced) := by
  rw [ranked_of_spreadless table spreadless, List.map_filterMap, standing, List.filterMap_map]
  conv => rhs; rw [← map_snd_enumerate 0 attributes, List.filterMap_map]
  congr 1
  funext entry
  exact (rankAt_unplaced table entry.1 entry.2).symm

/-- The attributes without a rank are those whose category has none. -/
theorem unranked_of_spreadless (table : RankTable) (spreadless : Spreadless attributes) :
    unranked table attributes =
      attributes.filter fun node => (table.rank (Category.of node)).isNone := by
  have same : ∀ entry ∈ enumerate 0 attributes,
      (!(ranked table attributes).any fun item => item.place == entry.1) =
        (table.rank (Category.of entry.2)).isNone := by
    rintro ⟨place, node⟩ member
    rw [Bool.eq_iff_iff, Bool.not_eq_true', List.any_eq_false, Option.isNone_iff_eq_none]
    constructor
    · intro absent
      cases given : table.rank (Category.of node) with
      | none => rfl
      | some rank =>
        have item : (⟨place, node, rank⟩ : Ranked) ∈ ranked table attributes := by
          rw [ranked_of_spreadless table spreadless]
          refine List.mem_filterMap.mpr ⟨(place, node), member, ?_⟩
          rw [RankTable.rankAt, given]
          rfl
        exact absurd (beq_self_eq_true place) (absent _ item)
    · intro rankless item inRanked here
      rw [beq_iff_eq] at here
      have stands := getElem?_of_mem_ranked inRanked
      rw [here, mem_enumerate_zero.mp member] at stands
      rw [ranked_of_spreadless table spreadless] at inRanked
      obtain ⟨entry, -, picked⟩ := List.mem_filterMap.mp inRanked
      obtain ⟨rank, given, rfl⟩ := Option.map_eq_some_iff.mp picked
      rw [Option.some.inj stands] at rankless
      exact absurd (given.symm.trans rankless) (by simp)
  rw [unranked, List.filter_congr same]
  conv => rhs; rw [← map_snd_enumerate 0 attributes, List.filter_map]
  rfl

theorem linked_of_spreadless {left right : Attribute} (leftPlain : left.isSpread = false)
    (rightPlain : right.isSpread = false) : linked left right = false := by
  rw [linked, leftPlain, rightPlain]
  rfl

/-- Without spread binds every attribute is a cluster of its own. -/
theorem cluster_of_spreadless (spreadless : Spreadless attributes) (place : Nat) :
    clusterStart attributes place = place ∧ clusterEnd attributes place = place := by
  have apart : ∀ place, ¬ LinkedAt attributes place := by
    rintro place ⟨left, right, atLeft, atRight, joined⟩
    rw [linked_of_spreadless (spreadless left (List.mem_of_getElem? atLeft))
      (spreadless right (List.mem_of_getElem? atRight))] at joined
    cases joined
  constructor
  · cases place with
    | zero => rfl
    | succ place => exact clusterStart_succ_of_not_linkedAt (apart place)
  · refine Nat.le_antisymm (Nat.not_lt.mp fun further => ?_) (le_clusterEnd _ _)
    exact apart place (linkedAt_of_lt_clusterEnd (Nat.le_refl _) further)

/-- Without spread binds any attribute can go in front of any other before it. -/
theorem blockAt?_of_spreadless (spreadless : Spreadless attributes) {place first : Nat}
    (ahead : first < place) : blockAt? attributes place first = some ⟨first, place, place⟩ := by
  obtain ⟨start, stop⟩ := cluster_of_spreadless spreadless place
  unfold blockAt?
  rw [start, stop]
  dsimp only
  rw [if_neg (by omega), if_neg]
  intro joined
  obtain ⟨mover, moves, someJoined⟩ := List.any_eq_true.mp joined
  obtain ⟨passed, passes, linkedThere⟩ := List.any_eq_true.mp someJoined
  rw [linked_of_spreadless
    (spreadless mover (List.mem_of_mem_take (List.mem_of_mem_drop moves)))
    (spreadless passed (List.mem_of_mem_take (List.mem_of_mem_drop passes)))] at linkedThere
  cases linkedThere

end Ranks

/-- The parts of a list at the block that moves a single attribute. -/
theorem parts_of_single {attributes front middle back : List Attribute} {left right : Attribute}
    (whole : attributes = front ++ left :: (middle ++ right :: back)) {first place : Nat}
    (firstPlace : first = front.length) (lastPlace : place = front.length + 1 + middle.length) :
    attributes.take first = front ∧ Block.movers ⟨first, place, place⟩ attributes = [right] ∧
      Block.passed ⟨first, place, place⟩ attributes = left :: middle ∧
      attributes.drop (place + 1) = back := by
  have atPlace : attributes = (front ++ left :: middle) ++ right :: back := by simp [whole]
  have behind : attributes = (front ++ left :: middle ++ [right]) ++ back := by simp [whole]
  have upTo : (front ++ left :: middle).length = place := by
    rw [List.length_append, List.length_cons]
    omega
  have through : (front ++ left :: middle ++ [right]).length = place + 1 := by
    rw [List.length_append, upTo]
    rfl
  refine ⟨?_, ?_, ?_, ?_⟩
  · rw [whole]
    exact List.take_left' firstPlace.symm
  · rw [Block.movers, behind, List.take_left' through]
    exact List.drop_left' upTo
  · rw [Block.passed, atPlace, List.take_left' upTo]
    exact List.drop_left' firstPlace.symm
  · rw [behind]
    exact List.drop_left' through

/-- What a pass over a tag without spread binds does: it puts two neighbours of the ranked list that
are out of order in order, over attributes without a rank. -/
theorem exists_exchange {policy : Policy} {placed : Placed}
    (spreadless : Spreadless placed.tag.attributes) {inversion : Inversion}
    {others : List Inversion}
    (reported : policy.inversions placed.tag.attributes = inversion :: others) :
    ∃ block, policy.block? placed.tag.attributes = some block ∧
      block.Fits placed.tag.attributes ∧
      ∃ front left middle right back,
        placed.tag.attributes = front ++ left :: (middle ++ right :: back) ∧
        (block.rotate placed).tag.attributes.map Attribute.unplaced =
          (front ++ right :: left :: (middle ++ back)).map Attribute.unplaced ∧
        policy.table.rankAt (front.length, left) = some inversion.previous ∧
        (∀ node ∈ middle, policy.table.rank (Category.of node) = none) ∧
        policy.table.rankAt (front.length + 1 + middle.length, right) = some inversion.node ∧
        policy.mayFollow (ranked policy.table placed.tag.attributes) inversion.previous
          inversion.node = false := by
  obtain ⟨lead, rest, neighbours, wrong⟩ := neighbours_of_scan_eq_cons reported
  rw [ranked_of_spreadless policy.table spreadless] at neighbours
  obtain ⟨before, earlier, between, later, after, whole, -, atEarlier, skips, atLater, -⟩ :=
    exists_of_filterMap_eq neighbours
  have earlierPlace := fst_of_enumerate_eq whole
  have regrouped : enumerate 0 placed.tag.attributes =
      (before ++ earlier :: between) ++ later :: after := by
    rw [whole, List.append_assoc, List.cons_append]
  have laterPlace := fst_of_enumerate_eq regrouped
  have nodes := congrArg (List.map Prod.snd) whole
  rw [map_snd_enumerate] at nodes
  simp only [List.map_append, List.map_cons] at nodes
  have rankless : ∀ node ∈ between.map Prod.snd,
      policy.table.rank (Category.of node) = none := by
    intro node member
    obtain ⟨entry, inBetween, rfl⟩ := List.mem_map.mp member
    exact Option.map_eq_none_iff.mp (List.filterMap_eq_nil_iff.mp skips entry inBetween)
  obtain ⟨first, left⟩ := earlier
  obtain ⟨place, right⟩ := later
  dsimp only at earlierPlace laterPlace nodes
  have firstPlace : first = (before.map Prod.snd).length := by
    rw [List.length_map]
    omega
  have lastPlace : place = (before.map Prod.snd).length + 1 + (between.map Prod.snd).length := by
    rw [List.length_map, List.length_map, laterPlace, List.length_append, List.length_cons]
    omega
  have fits : Block.Fits ⟨first, place, place⟩ placed.tag.attributes := by
    refine ⟨by dsimp only; omega, Nat.le_refl _, ?_⟩
    rw [nodes, List.length_append, List.length_cons, List.length_append, List.length_cons]
    dsimp only
    omega
  refine ⟨⟨first, place, place⟩, ?_, fits, _, left, _, right, _, nodes, ?_, ?_, rankless, ?_, wrong⟩
  · obtain ⟨_, -, previousIs⟩ := Option.map_eq_some_iff.mp atEarlier
    obtain ⟨_, -, nodeIs⟩ := Option.map_eq_some_iff.mp atLater
    rw [Policy.block?, reported, List.findSome?_cons, ← previousIs, ← nodeIs,
      blockAt?_of_spreadless spreadless (by dsimp only; omega)]
  · obtain ⟨fronts, movers, passed, backs⟩ := parts_of_single nodes firstPlace lastPlace
    rw [Block.rotate_unplaced fits, fronts, movers, passed, backs]
    simp
  · rw [← firstPlace]
    exact atEarlier
  · rw [← lastPlace]
    exact atLater

end TagOrder
