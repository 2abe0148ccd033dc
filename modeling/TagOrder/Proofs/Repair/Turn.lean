import TagOrder.Proofs.Misplaced
import TagOrder.Proofs.Repair.Pass
import TagOrder.Proofs.Spread

/-!
# What a pass turns round

A pass moves the cluster of an attribute in front of the item that the scan accepted last before it.
`Policy.Turn` keeps what the scan tells about the two: everything in front of the item accepted may
precede it, and what stands between the two is misplaced as well but cannot be moved. Hence an
attribute that moves over one of its own kind moves alone and comes in order with it
(`Policy.Turn.straightens`); a cluster with a spread bind passes only attributes that set no value.
-/

namespace TagOrder

/-- What a pass over a tag does: the first inversion at which a block is found has its cluster moved
in front of the item accepted before. What stands in front of that item may precede it, and what
stands between the two is reported against it as well, but has no block. -/
structure Policy.Turn (policy : Policy) (attributes : List Attribute) (block : Block)
    (inversion : Inversion) : Prop where
  previous : inversion.previous ∈ ranked policy.table attributes
  node : inversion.node ∈ ranked policy.table attributes
  chosen : blockAt? attributes inversion.node.place inversion.previous.place = some block
  wrong : policy.mayFollow (ranked policy.table attributes) inversion.previous inversion.node =
    false
  early : ∀ item ∈ ranked policy.table attributes, item.place < inversion.previous.place →
    policy.mayFollow (ranked policy.table attributes) item inversion.previous = true
  blocked : ∀ item ∈ ranked policy.table attributes, inversion.previous.place < item.place →
    item.place < inversion.node.place →
      policy.mayFollow (ranked policy.table attributes) inversion.previous item = false ∧
        blockAt? attributes item.place inversion.previous.place = none

/-- Every pass is such a turn. -/
theorem Policy.exists_turn {policy : Policy} {attributes : List Attribute} {block : Block}
    (decides : policy.Decides (ranked policy.table attributes))
    (chosen : policy.block? attributes = some block) :
    ∃ inversion, policy.Turn attributes block inversion := by
  have among : DecidesAmong (policy.mayFollow (ranked policy.table attributes))
      (ranked policy.table attributes) := ⟨decides.total, decides.trans⟩
  obtain ⟨lead, middle, inversion, trail, whole, found⟩ := exists_of_findSome?_scan among chosen
  have ascending := pairwise_place_ranked policy.table attributes
  rw [whole] at ascending
  obtain ⟨-, behind, leads⟩ := List.pairwise_append.mp ascending
  obtain ⟨later, behind⟩ := List.pairwise_cons.mp behind
  obtain ⟨-, trails, middles⟩ := List.pairwise_append.mp behind
  have places : ∀ item ∈ ranked policy.table attributes,
      item ∈ lead ∨ item = inversion.previous ∨ item ∈ middle ∨ item = inversion.node ∨
        item ∈ trail := by
    intro item member
    rw [whole] at member
    simpa only [List.mem_append, List.mem_cons] using member
  refine ⟨inversion, ?_, ?_, found.finds, found.wrong, fun item member before => ?_,
    fun item member above below => ?_⟩
  · rw [whole]
    simp
  · rw [whole]
    simp
  · rcases places item member with inLead | rfl | inMiddle | rfl | inTrail
    · exact found.precede item inLead
    · exact absurd before (Nat.lt_irrefl _)
    · have after := later item (by simp [inMiddle])
      omega
    · have after := later inversion.node (by simp)
      omega
    · have after := later item (by simp [inTrail])
      omega
  · rcases places item member with inLead | rfl | inMiddle | rfl | inTrail
    · have ahead := leads item inLead inversion.previous List.mem_cons_self
      omega
    · exact absurd above (Nat.lt_irrefl _)
    · exact found.blocked item inMiddle
    · exact absurd below (Nat.lt_irrefl _)
    · have after := (List.pairwise_cons.mp trails).1 item inTrail
      omega

/-- Whether two attributes stand in order by their categories; those without a rank come last. -/
def RankTable.agrees (table : RankTable) (mayFollow : Ranked -> Ranked -> Bool)
    (left right : Attribute) : Bool :=
  match table.rankAt (0, left), table.rankAt (0, right) with
  | some left, some right => mayFollow left right
  | none, some _ => false
  | _, none => true

theorem rankAt_zero_of_mem_ranked {table : RankTable} {attributes : List Attribute} {item : Ranked}
    (member : item ∈ ranked table attributes) (plain : item.node.isSpread = false) :
    table.rankAt (0, item.node) = some ⟨0, item.node, item.rank⟩ := by
  rw [RankTable.rankAt, rank_of_mem_ranked member plain]
  rfl

namespace Policy.Turn

variable {policy : Policy} {attributes : List Attribute} {block : Block} {inversion : Inversion}

theorem bounds (turn : policy.Turn attributes block inversion) :
    block.first = inversion.previous.place ∧
      block.moving = clusterStart attributes inversion.node.place ∧
      block.last = clusterEnd attributes inversion.node.place ∧ block.first < block.moving ∧
      block.moving ≤ inversion.node.place ∧ inversion.node.place ≤ block.last :=
  bounds_of_blockAt? turn.chosen

theorem fits (turn : policy.Turn attributes block inversion) : block.Fits attributes :=
  blockAt?_fits turn.chosen
    (List.getElem?_eq_some_iff.mp (getElem?_of_mem_ranked turn.node)).1

theorem apart (turn : policy.Turn attributes block inversion) {mover item : Attribute}
    (moves : mover ∈ block.movers attributes) (passes : item ∈ block.passed attributes) :
    linked mover item = false :=
  (blockAt?_eq_some.mp turn.chosen).2.2 mover moves item passes

theorem node_mem_movers (turn : policy.Turn attributes block inversion) :
    inversion.node.node ∈ block.movers attributes := by
  obtain ⟨-, -, -, -, moves, ends⟩ := turn.bounds
  exact Block.mem_movers moves ends (getElem?_of_mem_ranked turn.node)

theorem previous_mem_passed (turn : policy.Turn attributes block inversion) :
    inversion.previous.node ∈ block.passed attributes := by
  obtain ⟨first, -, -, passes, -⟩ := turn.bounds
  refine Block.mem_passed (Nat.le_of_eq first) (first ▸ passes) ?_
  exact getElem?_of_mem_ranked turn.previous

/-- Of an attribute that moves over others and the one accepted before it, or of any other two
ranked attributes, one may follow the other. -/
theorem mayFollow_of_wrong (decides : policy.Decides (ranked policy.table attributes))
    {left right : Ranked} (leftMember : left ∈ ranked policy.table attributes)
    (rightMember : right ∈ ranked policy.table attributes) (ordered : left.place < right.place)
    (wrong : policy.mayFollow (ranked policy.table attributes) left right = false) :
    policy.mayFollow (ranked policy.table attributes) right left = true := by
  have symmetric : Std.Symm fun left right =>
      policy.mayFollow (ranked policy.table attributes) left right = true ∨
        policy.mayFollow (ranked policy.table attributes) right left = true :=
    ⟨fun _ _ decided => decided.symm⟩
  have different : left ≠ right := by
    rintro rfl
    exact Nat.lt_irrefl _ ordered
  have decided := decides.total.forall leftMember rightMember different
  exact decided.resolve_left (Bool.eq_false_iff.mp wrong)

/-- What stands between the two attributes of a turn, can be moved on its own and is no spread bind
has no rank. -/
theorem rank_eq_none (turn : policy.Turn attributes block inversion) {node : Attribute}
    {place : Nat} (stands : attributes[place]? = some node) (above : block.first < place)
    (below : place < block.moving) (plain : node.isSpread = false)
    (alone : clusterStart attributes place = place ∧ clusterEnd attributes place = place)
    (free : ∀ item ∈ block.passed attributes, linked node item = false) :
    policy.table.rank (Category.of node) = none := by
  obtain ⟨first, -, -, -, moves, -⟩ := turn.bounds
  have movable : blockAt? attributes place inversion.previous.place =
      some ⟨block.first, place, place⟩ := by
    rw [blockAt?_eq_some, alone.1, alone.2, ← first]
    refine ⟨rfl, above, fun mover moving item passes => ?_⟩
    obtain ⟨there, from_, upTo, atThere⟩ := Block.exists_of_mem_movers moving
    obtain rfl : there = place := Nat.le_antisymm upTo from_
    obtain rfl := Option.some.inj (atThere.symm.trans stands)
    obtain ⟨here, starts, stops, atHere⟩ := Block.exists_of_mem_passed passes
    exact free item (Block.mem_passed starts (Nat.lt_trans stops below) atHere)
  cases given : policy.table.rank (Category.of node) with
  | none => rfl
  | some rank =>
    have blocked := turn.blocked _ (mem_ranked stands plain given) (first ▸ above)
      (Nat.lt_of_lt_of_le below moves)
    rw [movable] at blocked
    cases blocked.2

/-- Where an attribute that moves is of the kind of one that it passes, it moves alone. -/
theorem movers_alone (turn : policy.Turn attributes block inversion) {item mover : Attribute}
    (passes : item ∈ block.passed attributes) (moves : mover ∈ block.movers attributes)
    (kind : item.setsValue = mover.setsValue) :
    block.moving = inversion.node.place ∧ block.last = inversion.node.place := by
  obtain ⟨-, start, stop, -⟩ := turn.bounds
  have stands := getElem?_of_mem_ranked turn.node
  rw [start, stop]
  cases sets : inversion.node.node.setsValue with
  | false => exact cluster_of_not_setsValue stands sets
  | true =>
    obtain ⟨inside, above, below, atMover⟩ := Block.exists_of_mem_movers moves
    have moverSets : mover.setsValue = true :=
      setsValue_of_cluster stands sets (start ▸ above) (stop ▸ below) atMover
    refine cluster_of_plain_members fun place other above below atPlace => ?_
    -- A spread bind that moves would be linked to the attribute that is passed.
    have apart := turn.apart (Block.mem_movers (start ▸ above) (stop ▸ below) atPlace) passes
    refine Bool.eq_false_iff.mpr fun spread => ?_
    rw [linked_of_isSpread spread (kind.trans moverSets)] at apart
    cases apart

/-- What moves over an attribute of its kind comes in order with it. Neither is a spread bind. -/
theorem straightens (turn : policy.Turn attributes block inversion)
    (decides : policy.Decides (ranked policy.table attributes)) {item mover : Attribute}
    (passes : item ∈ block.passed attributes) (moves : mover ∈ block.movers attributes)
    (kind : item.setsValue = mover.setsValue) :
    let mayFollow := policy.mayFollow (ranked policy.table attributes)
    item.isSpread = false ∧ mover.isSpread = false ∧
      policy.table.agrees mayFollow item mover = false ∧
        policy.table.agrees mayFollow mover item = true := by
  intro mayFollow
  have apart := turn.apart moves passes
  have plain : ∀ node : Attribute, node.setsValue = mover.setsValue →
      linked mover node = false → node.isSpread = false := by
    intro node same unlinked
    refine Bool.eq_false_iff.mpr fun spread => ?_
    rw [linked_comm, linked_of_isSpread spread (same ▸ setsValue_of_isSpread spread)] at unlinked
    cases unlinked
  have itemPlain := plain item kind apart
  have moverPlain : mover.isSpread = false := by
    refine Bool.eq_false_iff.mpr fun spread => ?_
    rw [linked_of_isSpread spread (kind.trans (setsValue_of_isSpread spread))] at apart
    cases apart
  obtain ⟨moving, last⟩ := turn.movers_alone passes moves kind
  obtain ⟨inside, above, below, atMover⟩ := Block.exists_of_mem_movers moves
  obtain rfl : inside = inversion.node.place := by omega
  obtain rfl := Option.some.inj (atMover.symm.trans (getElem?_of_mem_ranked turn.node))
  have nodeRank := rankAt_zero_of_mem_ranked turn.node moverPlain
  obtain ⟨place, from_, upTo, atPlace⟩ := Block.exists_of_mem_passed passes
  obtain ⟨first, -⟩ := turn.bounds
  refine ⟨itemPlain, moverPlain, ?_⟩
  rcases Nat.eq_or_lt_of_le from_ with here | behind
  · rw [← here, first, getElem?_of_mem_ranked turn.previous] at atPlace
    obtain rfl := Option.some.inj atPlace
    have converse := mayFollow_of_wrong decides turn.previous turn.node (by omega) turn.wrong
    unfold RankTable.agrees
    rw [nodeRank, rankAt_zero_of_mem_ranked turn.previous itemPlain]
    exact ⟨turn.wrong, converse⟩
  · have free : ∀ other ∈ block.passed attributes, linked item other = false := by
      refine fun other otherPasses => Bool.eq_false_iff.mpr fun joined => ?_
      obtain ⟨sets, -, spread⟩ := of_linked joined
      have otherSpread := spread.resolve_left (by simp [itemPlain])
      have unlinked := turn.apart moves otherPasses
      rw [linked_comm, linked_of_isSpread otherSpread (kind ▸ sets)] at unlinked
      cases unlinked
    have alone : clusterStart attributes place = place ∧ clusterEnd attributes place = place := by
      refine cluster_of_apart ?_ ?_
      · rintro earlier rfl ⟨left, right, atLeft, atRight, joined⟩
        obtain rfl := Option.some.inj (atRight.symm.trans atPlace)
        rw [linked_comm, free left (Block.mem_passed (by omega) (by omega) atLeft)] at joined
        cases joined
      · rintro ⟨left, right, atLeft, atRight, joined⟩
        obtain rfl := Option.some.inj (atLeft.symm.trans atPlace)
        rcases Nat.eq_or_lt_of_le upTo with next | within
        · have atNode : place + 1 = inversion.node.place := next.trans moving
          rw [atNode, atMover] at atRight
          obtain rfl := Option.some.inj atRight
          simpa [itemPlain, moverPlain] using (of_linked joined).2.2
        · rw [free right (Block.mem_passed (by omega) within atRight)] at joined
          cases joined
    have rankless : policy.table.rankAt (0, item) = none := by
      rw [RankTable.rankAt, turn.rank_eq_none atPlace behind upTo itemPlain alone free]
      rfl
    unfold RankTable.agrees
    rw [nodeRank, rankless]
    exact ⟨rfl, rfl⟩

/-- The movers up to the attribute that a turn is about, and behind it. -/
theorem movers_eq (turn : policy.Turn attributes block inversion) :
    ∃ front back, block.movers attributes = front ++ inversion.node.node :: back ∧
      attributes.take block.first ++ block.passed attributes ++ front =
        attributes.take inversion.node.place ∧
      back ++ attributes.drop (block.last + 1) = attributes.drop (inversion.node.place + 1) := by
  obtain ⟨-, -, -, passes, moves, ends⟩ := turn.bounds
  have inside := turn.fits.inside
  obtain ⟨bound, here⟩ := List.getElem?_eq_some_iff.mp (getElem?_of_mem_ranked turn.node)
  have joined : ∀ {start stop : Nat}, start ≤ stop →
      attributes.take start ++ (attributes.take stop).drop start = attributes.take stop := by
    intro start stop ordered
    have shorter : attributes.take start = (attributes.take stop).take start := by
      rw [List.take_take, Nat.min_eq_left ordered]
    rw [shorter, List.take_append_drop]
  refine ⟨(attributes.take inversion.node.place).drop block.moving,
    (attributes.take (block.last + 1)).drop (inversion.node.place + 1), ?_, ?_, ?_⟩
  · have split : attributes.take (block.last + 1) = attributes.take inversion.node.place ++
        inversion.node.node ::
          (attributes.take (block.last + 1)).drop (inversion.node.place + 1) := by
      have longer : inversion.node.place < (attributes.take (block.last + 1)).length := by
        rw [List.length_take]
        omega
      have step := List.drop_eq_getElem_cons longer
      rw [List.getElem_take, here] at step
      rw [← step, joined (by omega)]
    rw [Block.movers]
    conv => lhs; rw [split]
    rw [List.drop_append_of_le_length]
    rw [List.length_take]
    omega
  · rw [Block.passed, joined (Nat.le_of_lt passes), joined moves]
  · rw [← List.drop_append_of_le_length (by rw [List.length_take]; omega), List.take_append_drop]

/-- An attribute that sets no value moves alone. -/
theorem eq_node_of_mem_movers (turn : policy.Turn attributes block inversion)
    (plain : inversion.node.node.setsValue = false) {mover : Attribute}
    (moves : mover ∈ block.movers attributes) : mover = inversion.node.node := by
  obtain ⟨-, start, stop, -⟩ := turn.bounds
  have stands := getElem?_of_mem_ranked turn.node
  have alone := cluster_of_not_setsValue stands plain
  obtain ⟨place, above, below, atPlace⟩ := Block.exists_of_mem_movers moves
  obtain rfl : place = inversion.node.place := by omega
  exact Option.some.inj (atPlace.symm.trans stands)

end Policy.Turn

end TagOrder
