import TagOrder.Cluster

/-!
# Clusters as maximal runs

A place of a list is linked on when the attribute there is linked to its right neighbour. Two places
share a cluster when every place from the one up to the other is linked on. `clusterStart` and
`clusterEnd` find the least and the greatest place that shares a cluster with a given one
(`sameCluster_iff`), so a cluster is a notion of its own and not what two loops happen to return.
-/

namespace TagOrder

/-- The attribute at a place has a right neighbour to which it is linked. -/
def LinkedAt (attributes : List Attribute) (place : Nat) : Prop :=
  ∃ left right, attributes[place]? = some left ∧ attributes[place + 1]? = some right ∧
    linked left right = true

/-- Every place from one of the two up to the other is linked on. -/
def SameCluster (attributes : List Attribute) (one other : Nat) : Prop :=
  ∀ place, min one other ≤ place → place < max one other → LinkedAt attributes place

variable {attributes : List Attribute} {place member : Nat}

theorem LinkedAt.lt_length (here : LinkedAt attributes place) : place + 1 < attributes.length := by
  obtain ⟨left, right, atPlace, atNext, joined⟩ := here
  exact (List.getElem?_eq_some_iff.mp atNext).1

theorem linkedAt_drop (attributes : List Attribute) (skipped place : Nat) :
    LinkedAt (attributes.drop skipped) place ↔ LinkedAt attributes (skipped + place) := by
  simp only [LinkedAt, List.getElem?_drop, Nat.add_assoc]

theorem linkedAt_cons_succ (node : Attribute) (rest : List Attribute) (place : Nat) :
    LinkedAt (node :: rest) (place + 1) ↔ LinkedAt rest place := by
  simp only [LinkedAt, List.getElem?_cons_succ]

theorem linkedAt_cons_cons (left right : Attribute) (rest : List Attribute) :
    LinkedAt (left :: right :: rest) 0 ↔ linked left right = true := by
  simp [LinkedAt]

theorem clusterStart_succ_of_linkedAt (here : LinkedAt attributes place) :
    clusterStart attributes (place + 1) = clusterStart attributes place := by
  obtain ⟨left, right, atPlace, atNext, joined⟩ := here
  simp [clusterStart, atPlace, atNext, joined]

theorem clusterStart_succ_of_not_linkedAt (apart : ¬ LinkedAt attributes place) :
    clusterStart attributes (place + 1) = place + 1 := by
  rw [clusterStart]
  split
  · rename_i left right atPlace atNext
    rw [if_neg fun joined => apart ⟨left, right, atPlace, atNext, joined⟩]
  · rfl

/-- A cluster begins at or before each of its places. -/
theorem clusterStart_le (attributes : List Attribute) (place : Nat) :
    clusterStart attributes place ≤ place := by
  induction place with
  | zero => exact Nat.le_refl 0
  | succ place ih =>
    by_cases here : LinkedAt attributes place
    · rw [clusterStart_succ_of_linkedAt here]
      exact Nat.le_succ_of_le ih
    · exact Nat.le_of_eq (clusterStart_succ_of_not_linkedAt here)

/-- From the start of its cluster up to a place, every place is linked on. -/
theorem linkedAt_of_clusterStart_le (above : clusterStart attributes place ≤ member)
    (below : member < place) : LinkedAt attributes member := by
  induction place with
  | zero => omega
  | succ place ih =>
    by_cases here : LinkedAt attributes place
    · rw [clusterStart_succ_of_linkedAt here] at above
      rcases Nat.lt_succ_iff_lt_or_eq.mp below with below | rfl
      · exact ih above below
      · exact here
    · rw [clusterStart_succ_of_not_linkedAt here] at above
      omega

/-- Nothing in front of a cluster is linked to its first member. -/
theorem not_linkedAt_before_clusterStart (before : member + 1 = clusterStart attributes place) :
    ¬ LinkedAt attributes member := by
  induction place with
  | zero => simp [clusterStart] at before
  | succ place ih =>
    by_cases here : LinkedAt attributes place
    · rw [clusterStart_succ_of_linkedAt here] at before
      exact ih before
    · rw [clusterStart_succ_of_not_linkedAt here] at before
      obtain rfl : member = place := by omega
      exact here

theorem linkedAt_of_lt_linkedRun (below : member < linkedRun attributes) :
    LinkedAt attributes member := by
  induction attributes generalizing member with
  | nil => simp [linkedRun] at below
  | cons left rest ih =>
    cases rest with
    | nil => simp [linkedRun] at below
    | cons right others =>
      by_cases joined : linked left right = true
      · rw [linkedRun, if_pos joined] at below
        cases member with
        | zero => exact (linkedAt_cons_cons left right others).mpr joined
        | succ member =>
          exact (linkedAt_cons_succ left _ member).mpr (ih (Nat.lt_of_succ_lt_succ below))
      · rw [linkedRun, if_neg joined] at below
        exact absurd below (Nat.not_lt_zero member)

theorem not_linkedAt_linkedRun (attributes : List Attribute) :
    ¬ LinkedAt attributes (linkedRun attributes) := by
  induction attributes with
  | nil => exact fun here => absurd here.lt_length (by simp)
  | cons left rest ih =>
    cases rest with
    | nil => exact fun here => absurd here.lt_length (by simp)
    | cons right others =>
      by_cases joined : linked left right = true
      · rw [linkedRun, if_pos joined, linkedAt_cons_succ]
        exact ih
      · rw [linkedRun, if_neg joined, linkedAt_cons_cons]
        exact joined

/-- From a place up to the end of its cluster, every place is linked on. -/
theorem linkedAt_of_lt_clusterEnd (above : place ≤ member)
    (below : member < clusterEnd attributes place) : LinkedAt attributes member := by
  have here : LinkedAt (attributes.drop place) (member - place) :=
    linkedAt_of_lt_linkedRun (by unfold clusterEnd at below; omega)
  rw [linkedAt_drop, Nat.add_sub_cancel' above] at here
  exact here

/-- The last member of a cluster is linked to nothing behind it. -/
theorem not_linkedAt_clusterEnd (attributes : List Attribute) (place : Nat) :
    ¬ LinkedAt attributes (clusterEnd attributes place) := fun here =>
  not_linkedAt_linkedRun _ ((linkedAt_drop attributes place _).mpr here)

theorem le_clusterEnd (attributes : List Attribute) (place : Nat) :
    place ≤ clusterEnd attributes place :=
  Nat.le_add_right _ _

/-- A cluster ends inside the list. -/
theorem clusterEnd_lt_length (inside : place < attributes.length) :
    clusterEnd attributes place < attributes.length := by
  rcases Nat.eq_or_lt_of_le (le_clusterEnd attributes place) with same | later
  · omega
  · have here : LinkedAt attributes (clusterEnd attributes place - 1) :=
      linkedAt_of_lt_clusterEnd (Nat.le_sub_one_of_lt later) (by omega)
    have bound := here.lt_length
    omega

/-- The places that share a cluster with a place are those from its start to its end. -/
theorem sameCluster_iff (attributes : List Attribute) (place member : Nat) :
    SameCluster attributes place member ↔
      clusterStart attributes place ≤ member ∧ member ≤ clusterEnd attributes place := by
  have start := clusterStart_le attributes place
  have stop := le_clusterEnd attributes place
  constructor
  · intro shared
    constructor
    · -- A member in front of the start would link the start to what stands before it.
      rcases Nat.lt_or_ge member (clusterStart attributes place) with before | within
      · have inside : clusterStart attributes place - 1 + 1 = clusterStart attributes place := by
          omega
        have joined := shared (clusterStart attributes place - 1) (by omega) (by omega)
        exact absurd joined (not_linkedAt_before_clusterStart inside)
      · exact within
    · rcases Nat.lt_or_ge (clusterEnd attributes place) member with behind | within
      · have joined := shared (clusterEnd attributes place) (by omega) (by omega)
        exact absurd joined (not_linkedAt_clusterEnd attributes place)
      · exact within
  · rintro ⟨above, below⟩ between first last
    have starts : clusterStart attributes place ≤ between := by omega
    rcases Nat.lt_or_ge between place with early | late
    · exact linkedAt_of_clusterStart_le starts early
    · exact linkedAt_of_lt_clusterEnd late (by omega)

end TagOrder
