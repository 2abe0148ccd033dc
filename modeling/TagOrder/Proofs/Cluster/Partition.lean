import TagOrder.Proofs.Spread

/-!
# The partition into clusters

Around every place of a list there is one interval in which every two neighbours are linked and that
lies in no larger one of this kind, and the bounds found for the place are those of this interval
(`isCluster_iff`). So two places lie in one cluster exactly when the same bounds are found for both
(`mem_cluster_iff`). Ranking looks at the neighbours of a spread bind and not at clusters, and yet
it leaves out exactly the spread binds whose cluster has another member (`clusters_partition`).
-/

namespace TagOrder

/-- Places of a list from a first to a last one of which every two neighbours are linked. -/
structure LinkedInterval (attributes : List Attribute) (first last : Nat) : Prop where
  ordered : first ≤ last
  inside : last < attributes.length
  joined : ∀ place, first ≤ place → place < last → LinkedAt attributes place

/-- An interval around a place of which every two neighbours are linked, and that lies in no other
one of this kind. -/
structure IsCluster (attributes : List Attribute) (place first last : Nat) : Prop extends
    LinkedInterval attributes first last where
  above : first ≤ place
  below : place ≤ last
  maximal : ∀ start stop, LinkedInterval attributes start stop → start ≤ first → last ≤ stop →
    start = first ∧ stop = last

variable {attributes : List Attribute} {node : Attribute} {place first last : Nat}

/-- The bounds found for a place are those of an interval in which neighbours are linked. -/
theorem linkedInterval_cluster (inside : place < attributes.length) :
    LinkedInterval attributes (clusterStart attributes place) (clusterEnd attributes place) where
  ordered := Nat.le_trans (clusterStart_le attributes place) (le_clusterEnd attributes place)
  inside := clusterEnd_lt_length inside
  joined member above below := by
    rcases Nat.lt_or_ge member place with early | late
    · exact linkedAt_of_clusterStart_le above early
    · exact linkedAt_of_lt_clusterEnd late below

/-- An interval in which neighbours are linked goes beyond the bounds of none of its places. -/
theorem LinkedInterval.within (interval : LinkedInterval attributes first last)
    (above : first ≤ place) (below : place ≤ last) :
    clusterStart attributes place ≤ first ∧ last ≤ clusterEnd attributes place := by
  have shared : ∀ member, first ≤ member → member ≤ last →
      SameCluster attributes place member := by
    intro member lower upper between early late
    exact interval.joined between (by omega) (by omega)
  exact ⟨((sameCluster_iff _ _ _).mp (shared first (Nat.le_refl _) interval.ordered)).1,
    ((sameCluster_iff _ _ _).mp (shared last interval.ordered (Nat.le_refl _))).2⟩

/-- A place has one cluster, and its bounds are those that are found for the place. -/
theorem isCluster_iff (inside : place < attributes.length) :
    IsCluster attributes place first last ↔
      first = clusterStart attributes place ∧ last = clusterEnd attributes place := by
  constructor
  · intro cluster
    obtain ⟨starts, stops⟩ := cluster.within cluster.above cluster.below
    obtain ⟨sameStart, sameStop⟩ :=
      cluster.maximal _ _ (linkedInterval_cluster inside) starts stops
    exact ⟨sameStart.symm, sameStop.symm⟩
  · rintro ⟨rfl, rfl⟩
    have lower := clusterStart_le attributes place
    have upper := le_clusterEnd attributes place
    refine { linkedInterval_cluster inside with
      above := lower
      below := upper
      maximal := ?_ }
    intro start stop interval starts stops
    obtain ⟨startsToo, stopsToo⟩ :=
      interval.within (Nat.le_trans starts lower) (Nat.le_trans upper stops)
    exact ⟨Nat.le_antisymm starts startsToo, Nat.le_antisymm stopsToo stops⟩

/-- The cluster of a place is the cluster of each of its members. -/
theorem IsCluster.of_mem {member : Nat} (cluster : IsCluster attributes place first last)
    (above : first ≤ member) (below : member ≤ last) : IsCluster attributes member first last :=
  { cluster with above, below }

/-- A place lies in the cluster of another when the same bounds are found for both. -/
theorem mem_cluster_iff (inside : place < attributes.length) (member : Nat) :
    clusterStart attributes place ≤ member ∧ member ≤ clusterEnd attributes place ↔
      clusterStart attributes member = clusterStart attributes place ∧
        clusterEnd attributes member = clusterEnd attributes place := by
  constructor
  · rintro ⟨above, below⟩
    have cluster := (isCluster_iff inside).mpr ⟨rfl, rfl⟩
    have bounds := (isCluster_iff (Nat.lt_of_le_of_lt below cluster.inside)).mp
      (cluster.of_mem above below)
    exact ⟨bounds.1.symm, bounds.2.symm⟩
  · rintro ⟨starts, stops⟩
    exact ⟨starts ▸ clusterStart_le attributes member, stops ▸ le_clusterEnd attributes member⟩

/-- A spread bind is coupled when its cluster has another member. -/
theorem isCoupled_iff_exists_member (stands : attributes[place]? = some node)
    (spread : node.isSpread = true) :
    isCoupled attributes place = true ↔
      ∃ member, member ≠ place ∧
        clusterStart attributes place ≤ member ∧ member ≤ clusterEnd attributes place := by
  simp only [← sameCluster_iff]
  rw [isCoupled_iff, and_iff_right ⟨node, stands, spread⟩]
  constructor
  · rintro (joined | ⟨earlier, rfl, joined⟩)
    · refine ⟨place + 1, by omega, fun between early late => ?_⟩
      obtain rfl : between = place := by omega
      exact joined
    · refine ⟨earlier, by omega, fun between early late => ?_⟩
      obtain rfl : between = earlier := by omega
      exact joined
  · rintro ⟨member, other, shared⟩
    rcases Nat.lt_or_gt_of_ne other with before | behind
    · exact .inr ⟨place - 1, by omega, shared (place - 1) (by omega) (by omega)⟩
    · exact .inl (shared place (by omega) (by omega))

/-- Clusters are a partition of the list, and the one notion of which attributes belong together.
The bounds found for a place are those of the only cluster around it; another place lies between
them exactly when the same bounds are found for it; and a spread bind is kept out of the ranking
exactly when its cluster has another member. -/
theorem clusters_partition (inside : place < attributes.length) :
    (∀ first last, IsCluster attributes place first last ↔
      first = clusterStart attributes place ∧ last = clusterEnd attributes place) ∧
    (∀ member,
      clusterStart attributes place ≤ member ∧ member ≤ clusterEnd attributes place ↔
        clusterStart attributes member = clusterStart attributes place ∧
          clusterEnd attributes member = clusterEnd attributes place) ∧
    ∀ node, attributes[place]? = some node → node.isSpread = true →
      (isCoupled attributes place = true ↔
        ∃ member, member ≠ place ∧
          clusterStart attributes place ≤ member ∧ member ≤ clusterEnd attributes place) :=
  ⟨fun _ _ => isCluster_iff inside, mem_cluster_iff inside,
    fun _ => isCoupled_iff_exists_member⟩

/-- A bind of a whole object. -/
def objectBind : Attribute :=
  { directive := true, name := "bind", keyText := "v-bind".toList }

/-- Attributes with a cluster of four: two spread binds with a bind between them, and a plain
attribute in front. The condition and the event handler are clusters of their own. -/
def twoSpreads : List Attribute :=
  [{ directive := true, name := "if", keyText := "v-if".toList },
    { name := "id", keyText := "id".toList },
    objectBind,
    { directive := true, name := "bind", argument := some "to", keyText := ":to".toList },
    objectBind,
    { directive := true, name := "on", argument := some "click", keyText := "@click".toList }]

theorem clusters_partition_twoSpreads :
    2 < twoSpreads.length ∧ IsCluster twoSpreads 2 1 4 ∧
      (clusterStart twoSpreads 3 = clusterStart twoSpreads 2 ∧
        clusterEnd twoSpreads 3 = clusterEnd twoSpreads 2) ∧
      isCoupled twoSpreads 2 = true := by
  have inside : 2 < twoSpreads.length := by decide
  obtain ⟨cluster, members, coupled⟩ := clusters_partition inside
  have starts : clusterStart twoSpreads 2 = 1 := by decide +kernel
  have stops : clusterEnd twoSpreads 2 = 4 := by decide +kernel
  refine ⟨inside, (cluster 1 4).mpr ⟨starts.symm, stops.symm⟩, (members 3).mp ?_,
    (coupled objectBind rfl rfl).mpr ⟨3, by decide, ?_⟩⟩ <;>
    rw [starts, stops] <;> decide

end TagOrder
