import TagOrder.Proofs.Preference
import TagOrder.Proofs.Rotation.Places
import TagOrder.Proofs.Spreadless

/-!
# Tags with spread binds

A spread bind is ranked only where no neighbour sets a value, and then by the first attribute behind
it that sets a named property (`rankFacing_of_mem_ranked`); whatever else has a rank has that of its
category. Ranking looks ahead in what is left when the coupled spread binds are taken out. None of
those sets a named property, so what is ranked can be told place by place in the whole list
(`ranked_eq_filterMap`, `mem_ranked_iff`).

Linked attributes set values, so an attribute that sets none is a cluster of its own, and so is a
cluster without a spread bind (`cluster_of_plain_members`). Where no qualifier names a spread bind,
who may follow whom stays the same when spread binds come to be ranked or cease to be
(`Policy.Discerns.mayFollow_eq`).
-/

namespace TagOrder

/-- The rank that an attribute has in front of others: the rank of its category, and for a spread
bind that of the first attribute behind it that sets a named property. -/
def RankTable.rankFacing (table : RankTable) (node : Attribute) (behind : List Attribute) :
    Option Nat :=
  if node.isSpread then
    (behind.find? fun next => next.setsValue && !next.isSpread).bind fun next =>
      table.rank (Category.of next)
  else table.rank (Category.of node)

/-- An attribute with the rank that it has where it stands among all others. -/
def RankTable.rankWithin (table : RankTable) (attributes : List Attribute)
    (entry : Nat × Attribute) : Option Ranked :=
  if isCoupled attributes entry.1 then none
  else (table.rankFacing entry.2 (attributes.drop (entry.1 + 1))).map fun rank =>
    ⟨entry.1, entry.2, rank⟩

/-- An attribute that stands right in front of a place or right behind it. -/
def Beside (attributes : List Attribute) (place : Nat) (neighbour : Attribute) : Prop :=
  (∃ earlier, earlier + 1 = place ∧ attributes[earlier]? = some neighbour) ∨
    attributes[place + 1]? = some neighbour

theorem setsValue_of_isSpread {node : Attribute} (spread : node.isSpread = true) :
    node.setsValue = true := by
  unfold Attribute.isSpread at spread
  unfold Attribute.setsValue
  rw [(Bool.and_eq_true_iff.mp spread).1, Bool.or_true]

theorem rankFacing_of_not_isSpread (table : RankTable) {node : Attribute}
    (plain : node.isSpread = false) (behind : List Attribute) :
    table.rankFacing node behind = table.rank (Category.of node) := by
  rw [RankTable.rankFacing, plain, if_neg (by decide)]

section Ranks

variable {table : RankTable} {attributes : List Attribute} {place : Nat} {node : Attribute}

/-- Coupled spread binds set no named property, so those that do are found without them. -/
theorem rankAhead_uncoupledFrom (table : RankTable) (left : Option Attribute) (place : Nat)
    (attributes : List Attribute) :
    rankAhead table (uncoupledFrom left place attributes) =
      (attributes.find? fun next => next.setsValue && !next.isSpread).bind fun next =>
        table.rank (Category.of next) := by
  induction attributes generalizing left place with
  | nil => rfl
  | cons node rest ih =>
    rw [uncoupledFrom, List.find?_cons]
    split
    · rename_i coupled
      have spread : node.isSpread = true := (Bool.and_eq_true_iff.mp coupled).1
      rw [spread, Bool.not_true, Bool.and_false, ih]
    · rw [rankAhead]
      cases node.setsValue && !node.isSpread with
      | true => rfl
      | false => exact ih (some node) (place + 1)

theorem isCoupled_append_cons (front : List Attribute) (node : Attribute)
    (rest : List Attribute) :
    isCoupled (front ++ node :: rest) front.length =
      coupledBetween front.getLast? node rest.head? := by
  have here : (front ++ node :: rest)[front.length]? = some node := by simp
  have next : (front ++ node :: rest)[front.length + 1]? = rest.head? := by
    rw [List.getElem?_append_right (by omega), Nat.add_sub_cancel_left,
      List.getElem?_cons_succ, List.head?_eq_getElem?]
  have before : (if front.length = 0 then none
      else (front ++ node :: rest)[front.length - 1]?) = front.getLast? := by
    split
    · rename_i none
      rw [List.eq_nil_of_length_eq_zero none]
      rfl
    · rw [List.getElem?_append_left (by omega), List.getLast?_eq_getElem?]
  simp only [isCoupled, here, before, next]

/-- A spread bind is coupled unless no neighbour sets a value. -/
theorem isCoupled_eq_false_iff (stands : attributes[place]? = some node)
    (spread : node.isSpread = true) :
    isCoupled attributes place = false ↔
      ∀ neighbour, Beside attributes place neighbour → neighbour.setsValue = false := by
  unfold isCoupled Beside
  rw [stands]
  dsimp only
  rw [coupledBetween, spread, Bool.true_and, Bool.or_eq_false_iff, Option.any_eq_false,
    Option.any_eq_false]
  simp only [or_imp, forall_and]
  refine and_congr_left fun _ => ?_
  cases place with
  | zero => simp
  | succ earlier => simp

theorem isCoupled_of_not_isSpread (stands : attributes[place]? = some node)
    (plain : node.isSpread = false) : isCoupled attributes place = false := by
  rw [isCoupled, stands]
  exact Bool.and_eq_false_imp.mpr fun spread => absurd spread (by simp [plain])

/-- The ranks that are found among the uncoupled attributes are those in the whole list. -/
theorem rankedAmong_uncoupledFrom (table : RankTable) (front attributes : List Attribute) :
    rankedAmong table (uncoupledFrom front.getLast? front.length attributes) =
      (enumerate front.length attributes).filterMap (table.rankWithin (front ++ attributes)) := by
  induction attributes generalizing front with
  | nil => rfl
  | cons node rest ih =>
    have tail := ih (front ++ [node])
    simp only [List.getLast?_append, List.getLast?_singleton, Option.some_or, List.length_append,
      List.length_singleton, List.append_assoc, List.singleton_append] at tail
    have here := isCoupled_append_cons front node rest
    have behind : (front ++ node :: rest).drop (front.length + 1) = rest := by simp
    rw [uncoupledFrom, enumerate_cons, List.filterMap_cons, RankTable.rankWithin, here, behind]
    dsimp only
    split
    · exact tail
    · rw [rankedAmong, rankAhead_uncoupledFrom, ← RankTable.rankFacing, tail]
      cases table.rankFacing node rest <;> rfl

/-- Ranking looks ahead as if no spread bind had been left out. -/
theorem ranked_eq_filterMap (table : RankTable) (attributes : List Attribute) :
    ranked table attributes =
      (enumerate 0 attributes).filterMap (table.rankWithin attributes) :=
  rankedAmong_uncoupledFrom table [] attributes

/-- An attribute is ranked where it stands if it is not coupled and has a rank in front of what
stands behind it. -/
theorem mem_ranked_iff {item : Ranked} :
    item ∈ ranked table attributes ↔
      attributes[item.place]? = some item.node ∧ isCoupled attributes item.place = false ∧
        table.rankFacing item.node (attributes.drop (item.place + 1)) = some item.rank := by
  rw [ranked_eq_filterMap, List.mem_filterMap]
  constructor
  · rintro ⟨⟨place, node⟩, listed, within⟩
    unfold RankTable.rankWithin at within
    split at within
    · cases within
    · rename_i uncoupled
      obtain ⟨rank, given, rfl⟩ := Option.map_eq_some_iff.mp within
      exact ⟨mem_enumerate_zero.mp listed, Bool.eq_false_iff.mpr uncoupled, given⟩
  · rintro ⟨stands, uncoupled, given⟩
    refine ⟨(item.place, item.node), mem_enumerate_zero.mpr stands, ?_⟩
    rw [RankTable.rankWithin, uncoupled, given]
    rfl

/-- A ranked attribute stands at a place that is not coupled. -/
theorem isCoupled_of_mem_ranked {item : Ranked} (member : item ∈ ranked table attributes) :
    isCoupled attributes item.place = false :=
  (mem_ranked_iff.mp member).2.1

theorem rankFacing_of_mem_ranked {item : Ranked} (member : item ∈ ranked table attributes) :
    table.rankFacing item.node (attributes.drop (item.place + 1)) = some item.rank :=
  (mem_ranked_iff.mp member).2.2

theorem not_setsValue_behind_spread {item : Ranked} (member : item ∈ ranked table attributes)
    (spread : item.node.isSpread = true) {next : Attribute}
    (stands : attributes[item.place + 1]? = some next) : next.setsValue = false :=
  (isCoupled_eq_false_iff (getElem?_of_mem_ranked member) spread).mp
    (isCoupled_of_mem_ranked member) next (.inr stands)

theorem rank_of_mem_ranked {item : Ranked} (member : item ∈ ranked table attributes)
    (plain : item.node.isSpread = false) : table.rank (Category.of item.node) = some item.rank := by
  rw [← rankFacing_of_mem_ranked member, rankFacing_of_not_isSpread table plain]

/-- An attribute that is no spread bind is ranked where its category is. -/
theorem mem_ranked {rank : Nat} (stands : attributes[place]? = some node)
    (plain : node.isSpread = false) (given : table.rank (Category.of node) = some rank) :
    ⟨place, node, rank⟩ ∈ ranked table attributes :=
  mem_ranked_iff.mpr ⟨stands, isCoupled_of_not_isSpread stands plain,
    (rankFacing_of_not_isSpread table plain _).trans given⟩

end Ranks

section Clusters

variable {attributes : List Attribute} {left right : Attribute} {place first : Nat}
  {block : Block}

theorem linked_of_isSpread (spread : left.isSpread = true) (sets : right.setsValue = true) :
    linked left right = true := by
  rw [linked, spread, sets]
  rfl

/-- Linked attributes set values, and one of them is a spread bind. -/
theorem of_linked (joined : linked left right = true) :
    left.setsValue = true ∧ right.setsValue = true ∧
      (left.isSpread = true ∨ right.isSpread = true) := by
  rw [linked, Bool.or_eq_true, Bool.and_eq_true, Bool.and_eq_true] at joined
  rcases joined with ⟨spread, sets⟩ | ⟨spread, sets⟩
  · exact ⟨setsValue_of_isSpread spread, sets, .inl spread⟩
  · exact ⟨sets, setsValue_of_isSpread spread, .inr spread⟩

/-- A spread bind is coupled when it is linked to one of its neighbours. -/
theorem isCoupled_iff :
    isCoupled attributes place = true ↔
      (∃ node, attributes[place]? = some node ∧ node.isSpread = true) ∧
        (LinkedAt attributes place ∨ ∃ earlier, earlier + 1 = place ∧
          LinkedAt attributes earlier) := by
  unfold isCoupled
  cases stands : attributes[place]? with
  | none => simp
  | some node =>
    simp only [coupledBetween, Bool.and_eq_true, Bool.or_eq_true, Option.any_eq_true,
      Option.some.injEq, exists_eq_left']
    refine and_congr_right fun spread => ?_
    have linkedRight : (∃ right, attributes[place + 1]? = some right ∧ right.setsValue = true) ↔
        LinkedAt attributes place := by
      constructor
      · rintro ⟨right, atNext, sets⟩
        exact ⟨node, right, stands, atNext, linked_of_isSpread spread sets⟩
      · rintro ⟨left, right, -, atNext, joined⟩
        exact ⟨right, atNext, (of_linked joined).2.1⟩
    have linkedLeft : (∃ left, (if place = 0 then none else attributes[place - 1]?) = some left ∧
        left.setsValue = true) ↔
          ∃ earlier, earlier + 1 = place ∧ LinkedAt attributes earlier := by
      cases place with
      | zero => simp
      | succ earlier =>
        simp only [Nat.add_one_ne_zero, if_false, Nat.add_sub_cancel, Nat.add_right_cancel_iff,
          exists_eq_left]
        constructor
        · rintro ⟨left, atLeft, sets⟩
          refine ⟨left, node, atLeft, stands, ?_⟩
          rw [linked_comm]
          exact linked_of_isSpread spread sets
        · rintro ⟨left, right, atLeft, -, joined⟩
          exact ⟨left, atLeft, (of_linked joined).1⟩
    rw [linkedRight, linkedLeft, or_comm]

/-- An attribute that is linked to no neighbour is a cluster of its own. -/
theorem cluster_of_apart (before : ∀ earlier, earlier + 1 = place → ¬ LinkedAt attributes earlier)
    (behind : ¬ LinkedAt attributes place) :
    clusterStart attributes place = place ∧ clusterEnd attributes place = place := by
  constructor
  · cases place with
    | zero => rfl
    | succ place => exact clusterStart_succ_of_not_linkedAt (before place rfl)
  · refine Nat.le_antisymm (Nat.not_lt.mp fun further => ?_) (le_clusterEnd _ _)
    exact behind (linkedAt_of_lt_clusterEnd (Nat.le_refl _) further)

/-- An attribute that sets no value is a cluster of its own. -/
theorem cluster_of_not_setsValue {node : Attribute} (stands : attributes[place]? = some node)
    (plain : node.setsValue = false) :
    clusterStart attributes place = place ∧ clusterEnd attributes place = place := by
  refine cluster_of_apart ?_ ?_
  · rintro earlier rfl ⟨left, right, -, atRight, joined⟩
    obtain rfl := Option.some.inj (atRight.symm.trans stands)
    rw [(of_linked joined).2.1] at plain
    cases plain
  · rintro ⟨left, right, atLeft, -, joined⟩
    obtain rfl := Option.some.inj (atLeft.symm.trans stands)
    rw [(of_linked joined).1] at plain
    cases plain

/-- All members of the cluster of an attribute that sets a value set values. -/
theorem setsValue_of_cluster {node member : Attribute} {inside : Nat}
    (stands : attributes[place]? = some node) (sets : node.setsValue = true)
    (above : clusterStart attributes place ≤ inside) (below : inside ≤ clusterEnd attributes place)
    (inCluster : attributes[inside]? = some member) : member.setsValue = true := by
  rcases Nat.lt_trichotomy inside place with early | rfl | late
  · obtain ⟨left, right, atLeft, -, joined⟩ := linkedAt_of_clusterStart_le above early
    obtain rfl := Option.some.inj (atLeft.symm.trans inCluster)
    exact (of_linked joined).1
  · obtain rfl := Option.some.inj (stands.symm.trans inCluster)
    exact sets
  · obtain ⟨before, rfl⟩ := Nat.exists_eq_succ_of_ne_zero (Nat.ne_zero_of_lt late)
    obtain ⟨left, right, -, atRight, joined⟩ :=
      linkedAt_of_lt_clusterEnd (Nat.le_of_lt_succ late) below
    obtain rfl := Option.some.inj (atRight.symm.trans inCluster)
    exact (of_linked joined).2.1

/-- A cluster without a spread bind has one member. -/
theorem cluster_of_plain_members
    (plain : ∀ inside member, clusterStart attributes place ≤ inside →
      inside ≤ clusterEnd attributes place → attributes[inside]? = some member →
        member.isSpread = false) :
    clusterStart attributes place = place ∧ clusterEnd attributes place = place := by
  have start := clusterStart_le attributes place
  have stop := le_clusterEnd attributes place
  have apart : ∀ inside, clusterStart attributes place ≤ inside →
      inside + 1 ≤ clusterEnd attributes place → ¬ LinkedAt attributes inside := by
    rintro inside above below ⟨left, right, atLeft, atRight, joined⟩
    rcases (of_linked joined).2.2 with spread | spread
    · rw [plain inside left above (by omega) atLeft] at spread
      cases spread
    · rw [plain (inside + 1) right (by omega) below atRight] at spread
      cases spread
  refine cluster_of_apart (fun earlier same joined => ?_) fun joined => ?_
  · subst same
    have earlierStart := clusterStart_le attributes earlier
    rw [clusterStart_succ_of_linkedAt joined] at apart
    exact apart earlier earlierStart stop joined
  · have further : place ≠ clusterEnd attributes place := by
      intro same
      rw [same] at joined
      exact not_linkedAt_clusterEnd attributes place joined
    exact apart place start (by omega) joined

/-- When there is a block at two places, and which one. -/
theorem blockAt?_eq_some : blockAt? attributes place first = some block ↔
    block = ⟨first, clusterStart attributes place, clusterEnd attributes place⟩ ∧
      first < clusterStart attributes place ∧
      ∀ mover ∈ block.movers attributes, ∀ passed ∈ block.passed attributes,
        linked mover passed = false := by
  unfold blockAt?
  dsimp only
  constructor
  · intro found
    split at found
    · cases found
    · rename_i early
      split at found
      · cases found
      · rename_i clear
        obtain rfl := Option.some.inj found
        refine ⟨rfl, Nat.not_le.mp early, fun mover moves passed passes => ?_⟩
        refine Bool.eq_false_iff.mpr fun joined => clear (List.any_eq_true.mpr ⟨mover, moves, ?_⟩)
        exact List.any_eq_true.mpr ⟨passed, passes, joined⟩
  · rintro ⟨rfl, early, clear⟩
    rw [if_neg (Nat.not_le.mpr early), if_neg]
    intro joined
    obtain ⟨mover, moves, some⟩ := List.any_eq_true.mp joined
    obtain ⟨passed, passes, linkedThere⟩ := List.any_eq_true.mp some
    rw [clear mover moves passed passes] at linkedThere
    cases linkedThere

/-- The block at two places begins at the first of them and ends with the cluster of the second. -/
theorem bounds_of_blockAt? (chosen : blockAt? attributes place first = some block) :
    block.first = first ∧ block.moving = clusterStart attributes place ∧
      block.last = clusterEnd attributes place ∧ block.first < block.moving ∧
      block.moving ≤ place ∧ place ≤ block.last := by
  obtain ⟨rfl, early, -⟩ := blockAt?_eq_some.mp chosen
  exact ⟨rfl, rfl, rfl, early, clusterStart_le _ _, le_clusterEnd _ _⟩

/-- The block at two places fits. -/
theorem blockAt?_fits (chosen : blockAt? attributes place first = some block)
    (inside : place < attributes.length) : block.Fits attributes := by
  obtain ⟨-, -, last, passes, moves, ends⟩ := bounds_of_blockAt? chosen
  exact ⟨passes, Nat.le_trans moves ends, last ▸ clusterEnd_lt_length inside⟩

namespace Block

theorem exists_of_mem_passed {node : Attribute} (member : node ∈ block.passed attributes) :
    ∃ place, block.first ≤ place ∧ place < block.moving ∧ attributes[place]? = some node := by
  obtain ⟨index, stands⟩ := List.getElem?_of_mem member
  rw [passed, List.getElem?_drop, List.getElem?_take] at stands
  split at stands
  · exact ⟨_, Nat.le_add_right _ _, by assumption, stands⟩
  · cases stands

theorem exists_of_mem_movers {node : Attribute} (member : node ∈ block.movers attributes) :
    ∃ place, block.moving ≤ place ∧ place ≤ block.last ∧ attributes[place]? = some node := by
  obtain ⟨index, stands⟩ := List.getElem?_of_mem member
  rw [movers, List.getElem?_drop, List.getElem?_take] at stands
  split at stands
  · exact ⟨_, Nat.le_add_right _ _, by omega, stands⟩
  · cases stands

end Block

end Clusters

/-- No qualifier names two of the other attributes of a tag. -/
def Policy.PinsApart (policy : Policy) (attributes : List Attribute) : Prop :=
  attributes.Pairwise fun left right =>
    policy.table.rank (Category.of left) = policy.table.otherRank →
    policy.table.rank (Category.of right) = policy.table.otherRank →
      ∀ onTop, policy.onTop = some onTop → ∀ qualifier ∈ onTop,
        ¬ (qualifier.names left = true ∧ qualifier.names right = true)

/-- A policy that tells the attributes of a tag apart: no computed key among them where the alphabet
counts, no qualifier that names two of the other attributes, and none that names a spread bind. -/
structure Policy.Discerns (policy : Policy) (attributes : List Attribute) : Prop where
  static : policy.alphabetical = true → ∀ node ∈ attributes, node.hasStaticName = true
  pinned : policy.PinsApart attributes
  spreads : ∀ node ∈ attributes, node.isSpread = true →
    ∀ onTop, policy.onTop = some onTop → ∀ qualifier ∈ onTop, qualifier.names node = false

/-- The attributes that are no spread binds, with the ranks of their categories. -/
def Policy.plainItems (policy : Policy) (attributes : List Attribute) : List Ranked :=
  standing policy.table (attributes.filter fun node => !node.isSpread)

/-- Nor does one name two of the ranked ones, if none names a spread bind. -/
theorem Policy.PinsApart.pairwise_ranked {policy : Policy} {attributes : List Attribute}
    (apart : policy.PinsApart attributes)
    (spreads : ∀ node ∈ attributes, node.isSpread = true →
      ∀ onTop, policy.onTop = some onTop → ∀ qualifier ∈ onTop, qualifier.names node = false) :
    (ranked policy.table attributes).Pairwise fun left right =>
      some left.rank = policy.table.otherRank → some right.rank = policy.table.otherRank →
        ∀ onTop, policy.onTop = some onTop → ∀ qualifier ∈ onTop,
          ¬ (qualifier.names left.node = true ∧ qualifier.names right.node = true) := by
  have nodes : ((ranked policy.table attributes).map Ranked.node).Sublist attributes := by
    have images := (ranked_sublist policy.table attributes).map Prod.snd
    rwa [map_snd_enumerate, List.map_map] at images
  refine (List.pairwise_map.mp (apart.sublist nodes)).imp_of_mem
    fun {left right} leftMember rightMember apart leftOther rightOther onTop pins qualifier active
      both => ?_
  have plain : ∀ item ∈ ranked policy.table attributes, qualifier.names item.node = true →
      policy.table.rank (Category.of item.node) = some item.rank := by
    intro item member named
    refine rank_of_mem_ranked member (Bool.eq_false_iff.mpr fun spread => ?_)
    rw [spreads item.node (List.mem_of_getElem? (getElem?_of_mem_ranked member)) spread onTop pins
      qualifier active] at named
    cases named
  exact apart ((plain left leftMember both.1).trans leftOther)
    ((plain right rightMember both.2).trans rightOther) onTop pins qualifier active both

namespace Policy.Discerns

variable {policy : Policy} {attributes : List Attribute}

/-- The order of the attributes does not matter. -/
theorem perm (discerns : policy.Discerns attributes) {others : List Attribute}
    (same : others.Perm attributes) : policy.Discerns others where
  static := fun alphabetical node member =>
    discerns.static alphabetical node (same.subset member)
  pinned := by
    refine (same.pairwise_iff fun {left right} apart => ?_).mpr discerns.pinned
    exact fun rightOther leftOther onTop pins qualifier member both =>
      apart leftOther rightOther onTop pins qualifier member both.symm
  spreads := fun node member => discerns.spreads node (same.subset member)

/-- Nor does it matter where they stand. -/
theorem unplaced (discerns : policy.Discerns attributes) :
    policy.Discerns (attributes.map Attribute.unplaced) where
  static := fun alphabetical => List.forall_mem_map.mpr (discerns.static alphabetical)
  pinned := List.pairwise_map.mpr discerns.pinned
  spreads := List.forall_mem_map.mpr discerns.spreads

theorem of_unplaced (discerns : policy.Discerns (attributes.map Attribute.unplaced)) :
    policy.Discerns attributes where
  static := fun alphabetical => List.forall_mem_map.mp (discerns.static alphabetical)
  pinned := List.pairwise_map.mp discerns.pinned
  spreads := List.forall_mem_map.mp discerns.spreads

/-- The policy decides on the ranked attributes. -/
theorem decides (discerns : policy.Discerns attributes) :
    policy.Decides (ranked policy.table attributes) where
  static := fun alphabetical item member =>
    discerns.static alphabetical item.node (List.mem_of_getElem? (getElem?_of_mem_ranked member))
  pinned := discerns.pinned.pairwise_ranked discerns.spreads

/-- Which qualifiers are active is seen at the attributes that are no spread binds, so who may
follow whom does not change when spread binds come to be ranked or cease to be. -/
theorem mayFollow_eq (discerns : policy.Discerns attributes) :
    policy.mayFollow (ranked policy.table attributes) =
      policy.mayFollow (policy.plainItems attributes) := by
  have active : ∀ onTop, policy.onTop = some onTop →
      onTop.active policy.table.otherRank (ranked policy.table attributes) =
        onTop.active policy.table.otherRank (policy.plainItems attributes) := by
    intro onTop pins
    refine List.filter_congr fun qualifier member => ?_
    rw [Bool.eq_iff_iff, List.any_eq_true, List.any_eq_true]
    constructor
    · rintro ⟨item, inRanked, other⟩
      have stands := List.mem_of_getElem? (getElem?_of_mem_ranked inRanked)
      have plain : item.node.isSpread = false := by
        refine Bool.eq_false_iff.mpr fun spread => ?_
        rw [discerns.spreads item.node stands spread onTop pins qualifier member,
          Bool.and_false] at other
        cases other
      refine ⟨⟨0, item.node, item.rank⟩, ?_, other⟩
      refine List.mem_filterMap.mpr ⟨item.node, List.mem_filter.mpr ⟨stands, by simp [plain]⟩, ?_⟩
      rw [RankTable.rankAt, rank_of_mem_ranked inRanked plain]
      rfl
    · rintro ⟨item, inPlain, other⟩
      obtain ⟨node, member, stands⟩ := List.mem_filterMap.mp inPlain
      obtain ⟨inAttributes, plain⟩ := List.mem_filter.mp member
      obtain ⟨rank, given, rfl⟩ := Option.map_eq_some_iff.mp stands
      obtain ⟨place, atPlace⟩ := List.getElem?_of_mem inAttributes
      exact ⟨⟨place, node, rank⟩, mem_ranked atPlace (by simpa using plain) given, other⟩
  funext previous current
  unfold Policy.mayFollow OnTop.adjust
  cases pins : policy.onTop with
  | none => rfl
  | some onTop => simp only [active onTop pins]

end Policy.Discerns

/-- Who may follow whom among the attributes of a tag depends on which these are. -/
theorem Policy.mayFollow_plainItems_perm (policy : Policy) {attributes others : List Attribute}
    (same : others.Perm attributes) :
    policy.mayFollow (policy.plainItems others) = policy.mayFollow (policy.plainItems attributes) :=
  policy.mayFollow_perm ((same.filter _).filterMap _)

end TagOrder
