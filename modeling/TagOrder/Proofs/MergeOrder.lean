import TagOrder.Proofs.Repair.Run
import TagOrder.Proofs.Rotation.Places

/-!
# The order of merges

Two attributes are linked when their relative order decides which value wins. `MergeOrderKept` says
of two lists that the second holds the attributes of the first, with linked ones in the order in
which they came, at whatever distance. Rotations and repairs keep it (`mergeOrder_kept`), for a
rotation is found exactly when nothing that moves is linked to anything that it passes.
-/

namespace TagOrder

/-- The attributes of one list are those of another at other places, apart from where they stand in
a text, and linked ones come in the same order in both. -/
def MergeOrderKept (before after : List Attribute) : Prop :=
  ∃ places : Fin before.length ≃ Fin after.length,
    (∀ place, (after.get (places place)).unplaced = (before.get place).unplaced) ∧
      ∀ left right, left < right → linked (before.get left) (before.get right) = true →
        places left < places right

namespace MergeOrderKept

theorem refl (attributes : List Attribute) : MergeOrderKept attributes attributes :=
  ⟨Equiv.refl _, fun _ => rfl, fun _ _ ordered _ => ordered⟩

theorem trans {before middle after : List Attribute} (first : MergeOrderKept before middle)
    (second : MergeOrderKept middle after) : MergeOrderKept before after := by
  obtain ⟨firstPlaces, firstCarries, firstKeeps⟩ := first
  obtain ⟨secondPlaces, secondCarries, secondKeeps⟩ := second
  refine ⟨firstPlaces.trans secondPlaces, fun place => ?_, fun left right ordered joined => ?_⟩
  · exact (secondCarries (firstPlaces place)).trans (firstCarries place)
  · apply secondKeeps _ _ (firstKeeps left right ordered joined)
    -- Links are seen on what is carried along.
    rw [← linked_unplaced, firstCarries, firstCarries, linked_unplaced]
    exact joined

/-- A block that is found carries nothing past what it is linked to. -/
theorem rotate {placed : Placed} {node previous : Attribute} {block : Block}
    (found : block? placed.tag.attributes node previous = some block) :
    MergeOrderKept placed.tag.attributes (block.rotate placed).tag.attributes := by
  have fits := block?_fits found
  obtain ⟨first, place, -, -, -, -, clear⟩ := block?_eq_some.mp found
  refine ⟨Block.places fits, Block.get_places fits, fun left right ordered joined => ?_⟩
  apply Block.relocate_lt_relocate fits ordered
  rintro ⟨above, passes, moves, below⟩
  have passed := Block.mem_passed above passes (List.getElem?_eq_getElem left.isLt)
  have mover := Block.mem_movers moves below (List.getElem?_eq_getElem right.isLt)
  have apart := clear _ mover _ passed
  rw [linked_comm] at apart
  exact absurd (joined.symm.trans apart) (by decide)

theorem rotations {origin final : Placed} {moves : List Move}
    (run : Rotations origin moves final) :
    MergeOrderKept origin.tag.attributes final.tag.attributes := by
  refine run.invariant (fun placed => MergeOrderKept _ placed.tag.attributes)
    (fun kept rotated => ?_) (refl _)
  obtain ⟨block, found, rfl⟩ := rotate?_eq_some.mp rotated
  exact kept.trans (rotate found)

end MergeOrderKept

/-- The cluster of a place lies behind another place, and none of its members is linked to an
attribute from there up to the cluster. -/
def CanMove (attributes : List Attribute) (place first : Nat) : Prop :=
  (∀ member, SameCluster attributes place member → first < member) ∧
    ∀ member passed mover other, SameCluster attributes place member → first ≤ passed →
      (∀ fellow, SameCluster attributes place fellow → passed < fellow) →
      attributes[member]? = some mover → attributes[passed]? = some other →
      linked mover other = false

/-- A block is found exactly when the cluster can move. -/
theorem isSome_block?_iff {attributes : List Attribute} {node previous : Attribute}
    (nodeMember : node ∈ attributes) (previousMember : previous ∈ attributes) :
    (block? attributes node previous).isSome = true ↔
      CanMove attributes (attributes.idxOf node) (attributes.idxOf previous) := by
  have nodePlace := idxOf?_of_mem nodeMember
  have previousPlace := idxOf?_of_mem previousMember
  generalize attributes.idxOf node = place at nodePlace ⊢
  generalize attributes.idxOf previous = first at previousPlace ⊢
  have start := clusterStart_le attributes place
  have stop := le_clusterEnd attributes place
  constructor
  · intro isSome
    obtain ⟨block, found⟩ := Option.isSome_iff_exists.mp isSome
    have fits := block?_fits found
    obtain ⟨_, _, atFirst, atPlace, rfl, early, clear⟩ := block?_eq_some.mp found
    obtain rfl := Option.some.inj (previousPlace.symm.trans atFirst)
    obtain rfl := Option.some.inj (nodePlace.symm.trans atPlace)
    constructor
    · intro member shared
      have above := ((sameCluster_iff attributes _ member).mp shared).1
      omega
    · intro member passed mover other shared behind before moverStands otherStands
      have within := (sameCluster_iff attributes _ member).mp shared
      have ahead := before _ ((sameCluster_iff attributes _ _).mpr ⟨Nat.le_refl _, by omega⟩)
      exact clear mover (Block.mem_movers within.1 within.2 moverStands)
        other (Block.mem_passed behind ahead otherStands)
  · rintro ⟨behind, clear⟩
    have early := behind _ ((sameCluster_iff attributes place _).mpr ⟨Nat.le_refl _, by omega⟩)
    refine Option.isSome_iff_exists.mpr ⟨_, block?_eq_some.mpr
      ⟨first, place, previousPlace, nodePlace, rfl, early, fun mover moves passed passes => ?_⟩⟩
    obtain ⟨moverIndex, moverStands⟩ := List.mem_iff_getElem?.mp moves
    obtain ⟨passedIndex, passedStands⟩ := List.mem_iff_getElem?.mp passes
    rw [Block.movers, List.getElem?_drop, List.getElem?_take] at moverStands
    rw [Block.passed, List.getElem?_drop, List.getElem?_take] at passedStands
    dsimp only at moverStands passedStands
    split at moverStands
    · rename_i moverWithin
      split at passedStands
      · rename_i passedWithin
        refine clear _ _ mover passed ((sameCluster_iff attributes place _).mpr
          ⟨Nat.le_add_right _ _, by omega⟩) (Nat.le_add_right _ _) (fun fellow shared => ?_)
          moverStands passedStands
        have above := ((sameCluster_iff attributes place fellow).mp shared).1
        omega
      · cases passedStands
    · cases moverStands

/-- Merge order is kept by every repair and by every run of rotations; and a rotation is found
exactly when the cluster of `node` can move before `previous` past nothing to which it is linked. -/
theorem mergeOrder_kept :
    (∀ (rule : Rule) (placed : Placed) (result : Repair), repair rule placed = .ok result →
      MergeOrderKept placed.tag.attributes result.placed.tag.attributes) ∧
    (∀ (origin : Placed) (moves : List Move) (final : Placed), Rotations origin moves final →
      MergeOrderKept origin.tag.attributes final.tag.attributes) ∧
    ∀ (attributes : List Attribute) (node previous : Attribute), node ∈ attributes →
      previous ∈ attributes → ((block? attributes node previous).isSome = true ↔
        CanMove attributes (attributes.idxOf node) (attributes.idxOf previous)) := by
  refine ⟨fun rule placed result repaired => ?_, fun origin moves final run => ?_, ?_⟩
  · obtain ⟨⟨moves, run⟩, -⟩ := repair_rotations repaired
    exact .rotations run
  · exact .rotations run
  · exact fun attributes node previous nodeMember previousMember =>
      isSome_block?_iff nodeMember previousMember

/-- A tag in which a plain attribute follows a spread bind and another stands behind the two. -/
def mergedSample : Placed where
  text := "<div v-bind=\"obj\" class=\"c\" id=\"y\">".toList
  tag :=
    { name := "div"
      attributes :=
        [{ directive := true, name := "bind", range := ⟨5, 17⟩, keyRange := ⟨5, 11⟩
           text := "v-bind=\"obj\"".toList, keyText := "v-bind".toList },
          { name := "class", range := ⟨18, 27⟩, keyRange := ⟨18, 23⟩
            text := "class=\"c\"".toList, keyText := "class".toList },
          { name := "id", range := ⟨28, 34⟩, keyRange := ⟨28, 30⟩
            text := "id=\"y\"".toList, keyText := "id".toList }] }

/-- A repair, a rotation and every block of a tag whose first two attributes are linked. -/
theorem mergeOrder_kept_mergedSample :
    (∃ result, repair {} mergedSample = .ok result ∧ result.clean = true ∧
      MergeOrderKept mergedSample.tag.attributes result.placed.tag.attributes) ∧
    (∃ moves final, moves ≠ [] ∧ Rotations mergedSample moves final ∧
      MergeOrderKept mergedSample.tag.attributes final.tag.attributes) ∧
    ∀ node ∈ mergedSample.tag.attributes, ∀ previous ∈ mergedSample.tag.attributes,
      ((block? mergedSample.tag.attributes node previous).isSome = true ↔
        CanMove mergedSample.tag.attributes (mergedSample.tag.attributes.idxOf node)
          (mergedSample.tag.attributes.idxOf previous)) := by
  refine ⟨?_, ?_, ?_⟩
  · have clean : (repair {} mergedSample).toOption.any (·.clean) = true := by decide +kernel
    cases repaired : repair {} mergedSample with
    | error fault => rw [repaired] at clean; cases clean
    | ok result =>
      rw [repaired] at clean
      exact ⟨result, rfl, clean, mergeOrder_kept.1 {} mergedSample result repaired⟩
  · have found : (rotate? mergedSample mergedSample.tag.attributes[2]
        mergedSample.tag.attributes[1]).isSome = true := by decide +kernel
    obtain ⟨final, rotated⟩ := Option.isSome_iff_exists.mp found
    have run : Rotations mergedSample
        [⟨mergedSample.tag.attributes[2], mergedSample.tag.attributes[1]⟩] final :=
      .step .refl rotated
    exact ⟨_, final, by simp, run, mergeOrder_kept.2.1 _ _ _ run⟩
  · exact fun node member previous ahead => mergeOrder_kept.2.2 _ node previous member ahead

end TagOrder
