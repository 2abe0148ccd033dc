import TagOrder.Proofs.Rotation.Block
import TagOrder.Scan

/-!
# Where ranked attributes come from

Ranked attributes are attributes of the tag in source order, each with the place at which it stands
(`ranked_sublist`). Ranking and scanning look at nothing but what `Attribute.unplaced` leaves, so
they give the same places for attributes that stand elsewhere (`Policy.inversions_unplaced`).
-/

namespace TagOrder

/-- A ranked attribute with its node apart from where it stands. -/
def Ranked.unplaced (item : Ranked) : Ranked := { item with node := item.node.unplaced }

/-- A ranked attribute apart from where it stands and from its place. -/
def Ranked.bare (item : Ranked) : Ranked := { item.unplaced with place := 0 }

/-- An inversion with its nodes apart from where they stand. -/
def Inversion.unplaced (inversion : Inversion) : Inversion :=
  ⟨inversion.node.unplaced, inversion.previous.unplaced⟩

/-- Attributes with their places, counted from a given one on. -/
def enumerate (place : Nat) (attributes : List Attribute) : List (Nat × Attribute) :=
  (attributes.zipIdx place).map Prod.swap

theorem enumerate_cons (place : Nat) (node : Attribute) (rest : List Attribute) :
    enumerate place (node :: rest) = (place, node) :: enumerate (place + 1) rest := rfl

theorem mem_enumerate_zero {attributes : List Attribute} {place : Nat} {node : Attribute} :
    (place, node) ∈ enumerate 0 attributes ↔ attributes[place]? = some node := by
  simp only [enumerate, List.mem_map, Prod.exists, List.mk_mem_zipIdx_iff_getElem?,
    Prod.swap_prod_mk, Prod.mk.injEq]
  constructor
  · rintro ⟨found, index, stands, rfl, rfl⟩
    exact stands
  · exact fun stands => ⟨node, place, stands, rfl, rfl⟩

theorem uncoupledFrom_sublist (left : Option Attribute) (place : Nat)
    (attributes : List Attribute) :
    (uncoupledFrom left place attributes).Sublist (enumerate place attributes) := by
  induction attributes generalizing left place with
  | nil => exact .slnil
  | cons node rest ih =>
    rw [uncoupledFrom, enumerate_cons]
    split
    · exact (ih (some node) (place + 1)).cons _
    · exact (ih (some node) (place + 1)).cons_cons _

theorem rankedAmong_sublist (table : RankTable) (attributes : List (Nat × Attribute)) :
    ((rankedAmong table attributes).map fun item => (item.place, item.node)).Sublist
      attributes := by
  induction attributes with
  | nil => exact .slnil
  | cons entry rest ih =>
    obtain ⟨place, node⟩ := entry
    rw [rankedAmong]
    split
    · exact ih.cons_cons _
    · exact ih.cons _

/-- Ranked attributes are attributes of the tag with their places, in source order. -/
theorem ranked_sublist (table : RankTable) (attributes : List Attribute) :
    ((ranked table attributes).map fun item => (item.place, item.node)).Sublist
      (enumerate 0 attributes) :=
  (rankedAmong_sublist table _).trans (uncoupledFrom_sublist none 0 attributes)

/-- A ranked attribute stands at its place. -/
theorem getElem?_of_mem_ranked {table : RankTable} {attributes : List Attribute} {item : Ranked}
    (member : item ∈ ranked table attributes) : attributes[item.place]? = some item.node := by
  apply mem_enumerate_zero.mp
  apply (ranked_sublist table attributes).subset
  exact List.mem_map_of_mem (f := fun item : Ranked => (item.place, item.node)) member

/-- The places of ranked attributes ascend. -/
theorem pairwise_place_ranked (table : RankTable) (attributes : List Attribute) :
    (ranked table attributes).Pairwise fun left right => left.place < right.place := by
  have ascending : (enumerate 0 attributes).Pairwise fun left right => left.1 < right.1 := by
    have places : (enumerate 0 attributes).map Prod.fst = List.range' 0 attributes.length := by
      rw [enumerate, List.map_map, List.zipIdx_eq_zip_range']
      exact List.map_snd_zip (by simp)
    have ordered : ((enumerate 0 attributes).map Prod.fst).Pairwise (· < ·) := by
      rw [places]
      exact List.pairwise_lt_range'
    exact List.pairwise_map.mp ordered
  have images := ascending.sublist (ranked_sublist table attributes)
  simpa only [List.pairwise_map] using images

theorem coupledBetween_unplaced (left right : Option Attribute) (node : Attribute) :
    coupledBetween (left.map Attribute.unplaced) node.unplaced (right.map Attribute.unplaced) =
      coupledBetween left node right := by
  cases left <;> cases right <;> rfl

theorem uncoupledFrom_unplaced (left : Option Attribute) (place : Nat)
    (attributes : List Attribute) :
    uncoupledFrom (left.map Attribute.unplaced) place (attributes.map Attribute.unplaced) =
      (uncoupledFrom left place attributes).map fun entry => (entry.1, entry.2.unplaced) := by
  induction attributes generalizing left place with
  | nil => rfl
  | cons node rest ih =>
    have head : (rest.map Attribute.unplaced).head? = rest.head?.map Attribute.unplaced := by simp
    have tail := ih (some node) (place + 1)
    simp only [Option.map_some] at tail
    simp only [List.map_cons, uncoupledFrom, head, coupledBetween_unplaced, tail]
    split <;> rfl

theorem of_unplaced (node : Attribute) : Category.of node.unplaced = Category.of node := rfl

theorem rankAhead_unplaced (table : RankTable) (attributes : List (Nat × Attribute)) :
    rankAhead table (attributes.map fun entry => (entry.1, entry.2.unplaced)) =
      rankAhead table attributes := by
  induction attributes with
  | nil => rfl
  | cons entry rest ih =>
    simp only [List.map_cons, rankAhead, ih, of_unplaced, Attribute.setsValue_unplaced,
      Attribute.isSpread_unplaced]

theorem rankedAmong_unplaced (table : RankTable) (attributes : List (Nat × Attribute)) :
    rankedAmong table (attributes.map fun entry => (entry.1, entry.2.unplaced)) =
      (rankedAmong table attributes).map Ranked.unplaced := by
  induction attributes with
  | nil => rfl
  | cons entry rest ih =>
    simp only [List.map_cons, rankedAmong, ih, of_unplaced, rankAhead_unplaced,
      Attribute.isSpread_unplaced]
    split <;> rfl

/-- Ranks and places of ranked attributes do not depend on where the attributes stand. -/
theorem ranked_unplaced (table : RankTable) (attributes : List Attribute) :
    ranked table (attributes.map Attribute.unplaced) =
      (ranked table attributes).map Ranked.unplaced := by
  unfold ranked
  rw [← rankedAmong_unplaced, ← uncoupledFrom_unplaced none, Option.map_none]

@[simp] theorem Policy.mayFollow_bare (policy : Policy) (items : List Ranked)
    (previous current : Ranked) :
    policy.mayFollow items previous.bare current.bare =
      policy.mayFollow items previous current := rfl

/-- Who may follow whom does not depend on where the attributes stand, nor on their places. -/
theorem Policy.mayFollow_map_bare (policy : Policy) (items : List Ranked) :
    policy.mayFollow (items.map Ranked.bare) = policy.mayFollow items := by
  have active : ∀ onTop : OnTop, onTop.active policy.table.otherRank (items.map Ranked.bare) =
      onTop.active policy.table.otherRank items := by
    intro onTop
    unfold OnTop.active
    simp only [List.any_map]
    rfl
  funext previous current
  unfold Policy.mayFollow OnTop.adjust
  simp only [active]

theorem Policy.mayFollow_unplaced (policy : Policy) (items : List Ranked)
    (previous current : Ranked) :
    policy.mayFollow (items.map Ranked.unplaced) previous.unplaced current.unplaced =
      policy.mayFollow items previous current := by
  rw [← policy.mayFollow_map_bare, List.map_map, ← policy.mayFollow_map_bare items]
  rfl

/-- Who may follow whom depends on which items there are, not on their order. -/
theorem Policy.mayFollow_perm (policy : Policy) {items others : List Ranked}
    (same : items.Perm others) : policy.mayFollow items = policy.mayFollow others := by
  have active : ∀ onTop : OnTop, onTop.active policy.table.otherRank items =
      onTop.active policy.table.otherRank others := by
    intro onTop
    unfold OnTop.active
    congr 1
    funext qualifier
    exact same.any_eq
  funext previous current
  unfold Policy.mayFollow OnTop.adjust
  simp only [active]

theorem scanFrom_map {mayFollow other : Ranked -> Ranked -> Bool} {image : Ranked -> Ranked}
    (same : ∀ left right, other (image left) (image right) = mayFollow left right)
    (previous : Ranked) (items : List Ranked) :
    scanFrom other (image previous) (items.map image) =
      (scanFrom mayFollow previous items).map
        fun inversion => ⟨image inversion.node, image inversion.previous⟩ := by
  induction items generalizing previous with
  | nil => rfl
  | cons current rest ih =>
    simp only [List.map_cons, scanFrom, same, ih]
    split <;> rfl

/-- The misplaced attributes do not depend on where the attributes stand. -/
theorem Policy.inversions_unplaced (policy : Policy) (attributes : List Attribute) :
    policy.inversions (attributes.map Attribute.unplaced) =
      (policy.inversions attributes).map Inversion.unplaced := by
  unfold Policy.inversions
  rw [ranked_unplaced]
  cases ranked policy.table attributes with
  | nil => rfl
  | cons first rest =>
    exact scanFrom_map (policy.mayFollow_unplaced (first :: rest)) first rest

theorem mem_of_mem_scanFrom {mayFollow : Ranked -> Ranked -> Bool} {previous : Ranked}
    {items : List Ranked} {inversion : Inversion}
    (member : inversion ∈ scanFrom mayFollow previous items) :
    inversion.node ∈ items ∧ inversion.previous ∈ previous :: items := by
  induction items generalizing previous with
  | nil => simp [scanFrom] at member
  | cons current rest ih =>
    rw [scanFrom] at member
    split at member
    · have found := ih member
      exact ⟨List.mem_cons_of_mem _ found.1, List.mem_cons_of_mem _ found.2⟩
    · rcases List.mem_cons.mp member with rfl | later
      · exact ⟨List.mem_cons_self, List.mem_cons_self⟩
      · have found := ih later
        refine ⟨List.mem_cons_of_mem _ found.1, ?_⟩
        rcases List.mem_cons.mp found.2 with same | inRest
        · exact same ▸ List.mem_cons_self
        · exact List.mem_cons_of_mem _ (List.mem_cons_of_mem _ inRest)

/-- Both sides of an inversion are ranked attributes of the tag. -/
theorem Policy.mem_ranked_of_mem_inversions {policy : Policy} {attributes : List Attribute}
    {inversion : Inversion} (member : inversion ∈ policy.inversions attributes) :
    inversion.node ∈ ranked policy.table attributes ∧
      inversion.previous ∈ ranked policy.table attributes := by
  unfold Policy.inversions at member
  cases items : ranked policy.table attributes with
  | nil => simp [items, scan] at member
  | cons first rest =>
    rw [items] at member
    have found := mem_of_mem_scanFrom member
    exact ⟨List.mem_cons_of_mem _ found.1, found.2⟩

end TagOrder
