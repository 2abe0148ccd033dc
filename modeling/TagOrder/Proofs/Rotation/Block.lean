import TagOrder.Proofs.Cluster
import TagOrder.Rotation

/-!
# Blocks and their occupants

What a rotation does to the list of attributes, apart from where they stand. `Attribute.unplaced`
forgets range, key range, line and column; everything that linking, ranking and matching look at is
left. `Block.Fits` says that a block lies in a list with something to pass and something to move,
which every block that is found does (`block?_eq_some`), and `Block.rotate_unplaced` that a rotation
exchanges the two parts and leaves the rest alone.
-/

namespace TagOrder

/-- An attribute apart from where it stands. -/
def Attribute.unplaced (node : Attribute) : Attribute :=
  { node with range := ⟨0, 0⟩, keyRange := ⟨0, 0⟩, line := 1, column := 0 }

namespace Attribute

@[simp] theorem text_unplaced (node : Attribute) : node.unplaced.text = node.text := rfl

@[simp] theorem keyText_unplaced (node : Attribute) : node.unplaced.keyText = node.keyText := rfl

@[simp] theorem directive_unplaced (node : Attribute) :
    node.unplaced.directive = node.directive := rfl

@[simp] theorem name_unplaced (node : Attribute) : node.unplaced.name = node.name := rfl

@[simp] theorem isBind_unplaced (node : Attribute) : node.unplaced.isBind = node.isBind := rfl

@[simp] theorem isSpread_unplaced (node : Attribute) : node.unplaced.isSpread = node.isSpread := rfl

@[simp] theorem setsValue_unplaced (node : Attribute) :
    node.unplaced.setsValue = node.setsValue := rfl

@[simp] theorem hasStaticName_unplaced (node : Attribute) :
    node.unplaced.hasStaticName = node.hasStaticName := rfl

@[simp] theorem propertyName_unplaced (node : Attribute) :
    node.unplaced.propertyName = node.propertyName := rfl

@[simp] theorem displayName_unplaced (node : Attribute) :
    node.unplaced.displayName = node.displayName := rfl

@[simp] theorem unplaced_unplaced (node : Attribute) :
    node.unplaced.unplaced = node.unplaced := rfl

@[simp] theorem unplaced_movedTo (node : Attribute) (start : Int) :
    (node.movedTo start).unplaced = node.unplaced := rfl

end Attribute

@[simp] theorem linked_unplaced (left right : Attribute) :
    linked left.unplaced right.unplaced = linked left right := rfl

/-- Which of two linked attributes is named first does not matter. -/
theorem linked_comm (left right : Attribute) : linked left right = linked right left := by
  unfold linked
  exact Bool.or_comm _ _

/-- What is settled is what was to be settled, in the same order. -/
theorem settle_unplaced (text : Text) (cursor : Int) {occupants slots : List Attribute}
    (fit : occupants.length = slots.length) :
    (settle text cursor occupants slots).map Attribute.unplaced =
      occupants.map Attribute.unplaced := by
  induction occupants generalizing cursor slots with
  | nil => simp [settle]
  | cons occupant rest ih =>
    cases slots with
    | nil => simp at fit
    | cons slot slots =>
      simp only [settle, List.map_cons]
      rw [ih _ (by simpa using fit)]
      rfl

namespace Block

/-- A block lies in a list of attributes, with something to pass and something to move. -/
structure Fits (block : Block) (attributes : List Attribute) : Prop where
  passes : block.first < block.moving
  moves : block.moving ≤ block.last
  inside : block.last < attributes.length

variable {block : Block} {attributes : List Attribute}

/-- The slots are the passed attributes and then the moving ones. -/
theorem slots_eq (fits : block.Fits attributes) :
    block.slots attributes = block.passed attributes ++ block.movers attributes := by
  obtain ⟨passes, moves, inside⟩ := fits
  have shorter : attributes.take block.moving =
      (attributes.take (block.last + 1)).take block.moving := by
    rw [List.take_take, Nat.min_eq_left (by omega)]
  unfold slots passed movers
  rw [shorter, ← List.drop_append_of_le_length (by simp; omega), List.take_append_drop]

/-- A list with a block in it: what stands before, the two parts of the block, and the rest. -/
theorem eq_append (fits : block.Fits attributes) :
    attributes = attributes.take block.first ++
      (block.passed attributes ++ block.movers attributes) ++
        attributes.drop (block.last + 1) := by
  rw [← slots_eq fits]
  obtain ⟨passes, moves, inside⟩ := fits
  have shorter : attributes.take block.first =
      (attributes.take (block.last + 1)).take block.first := by
    rw [List.take_take, Nat.min_eq_left (by omega)]
  unfold slots
  rw [shorter, List.take_append_drop, List.take_append_drop]

theorem length_slots (fits : block.Fits attributes) :
    (block.slots attributes).length = block.last + 1 - block.first := by
  obtain ⟨passes, moves, inside⟩ := fits
  unfold slots
  rw [List.length_drop, List.length_take]
  omega

theorem length_occupants (fits : block.Fits attributes) :
    (block.occupants attributes).length = (block.slots attributes).length := by
  rw [slots_eq fits, occupants, List.length_append, List.length_append, Nat.add_comm]

/-- The occupants are the slots in another order. -/
theorem occupants_perm (fits : block.Fits attributes) :
    (block.occupants attributes).Perm (block.slots attributes) := by
  rw [slots_eq fits]
  exact List.perm_append_comm

/-- The passed attributes begin with the one at the first place. -/
theorem passed_eq_cons (fits : block.Fits attributes) {node : Attribute}
    (atFirst : attributes[block.first]? = some node) :
    block.passed attributes = node :: (attributes.take block.moving).drop (block.first + 1) := by
  obtain ⟨passes, moves, inside⟩ := fits
  obtain ⟨bound, rfl⟩ := List.getElem?_eq_some_iff.mp atFirst
  unfold passed
  rw [List.drop_eq_getElem_cons (by simp; omega), List.getElem_take]

/-- The rotated attributes: the settled occupants take the place of the slots. -/
theorem rotate_attributes {placed : Placed} (fits : block.Fits placed.tag.attributes)
    {slot : Attribute} {rest : List Attribute}
    (slots : block.slots placed.tag.attributes = slot :: rest) :
    (block.rotate placed).tag.attributes = placed.tag.attributes.take block.first ++
      settle (block.rotate placed).text slot.range.start
        (block.occupants placed.tag.attributes) (block.slots placed.tag.attributes) ++
      placed.tag.attributes.drop (block.last + 1) := by
  have passes := fits.passes
  have moves := fits.moves
  have behind : block.first + (block.slots placed.tag.attributes).length = block.last + 1 := by
    rw [length_slots fits]
    omega
  rw [slots] at behind
  simp only [rotate, slots, behind]

/-- A block that fits has a slot. -/
theorem exists_slot (fits : block.Fits attributes) :
    ∃ slot rest, block.slots attributes = slot :: rest := by
  have passes := fits.passes
  have moves := fits.moves
  have length := length_slots fits
  exact List.exists_cons_of_length_pos (by omega)

/-- A block that fits has something to edit. -/
theorem script_ne_nil (fits : block.Fits attributes) : block.script attributes ≠ [] := by
  obtain ⟨slot, rest, slots⟩ := exists_slot fits
  have length := length_occupants fits
  rw [slots] at length
  obtain ⟨occupant, others, occupants⟩ := List.exists_cons_of_length_eq_add_one length
  rw [script, slots, occupants]
  exact List.cons_ne_nil _ _

/-- A rotation puts the moving attributes before the passed ones and leaves all others alone. -/
theorem rotate_unplaced {placed : Placed} (fits : block.Fits placed.tag.attributes) :
    (block.rotate placed).tag.attributes.map Attribute.unplaced =
      (placed.tag.attributes.take block.first ++
        (block.movers placed.tag.attributes ++ block.passed placed.tag.attributes) ++
          placed.tag.attributes.drop (block.last + 1)).map Attribute.unplaced := by
  obtain ⟨slot, rest, slots⟩ := exists_slot fits
  rw [rotate_attributes fits slots, List.map_append, List.map_append,
    settle_unplaced _ _ (length_occupants fits)]
  simp only [occupants, List.map_append]

end Block

variable {attributes : List Attribute} {node previous : Attribute} {block : Block}

/-- A member of a list is found at the first place that holds it. -/
theorem idxOf?_of_mem (member : node ∈ attributes) :
    attributes.idxOf? node = some (attributes.idxOf node) := by
  induction attributes with
  | nil => simp at member
  | cons first rest ih =>
    rw [List.idxOf?_cons, List.idxOf_cons]
    cases same : first == node with
    | true => rfl
    | false =>
      have inRest : node ∈ rest := by
        rcases List.mem_cons.mp member with rfl | later
        · simp at same
        · exact later
      simp [ih inRest]

/-- When a block is found, and which one. -/
theorem block?_eq_some :
    block? attributes node previous = some block ↔
      ∃ first place, attributes.idxOf? previous = some first ∧
        attributes.idxOf? node = some place ∧
        block = ⟨first, clusterStart attributes place, clusterEnd attributes place⟩ ∧
        first < clusterStart attributes place ∧
        ∀ mover ∈ block.movers attributes, ∀ passed ∈ block.passed attributes,
          linked mover passed = false := by
  unfold block?
  cases atFirst : attributes.idxOf? previous with
  | none => simp
  | some first =>
    cases atPlace : attributes.idxOf? node with
    | none => simp
    | some place =>
      simp only [Option.some.injEq, exists_and_left, exists_eq_left', List.any_eq_true]
      constructor
      · intro found
        split at found
        · cases found
        · rename_i early
          split at found
          · cases found
          · rename_i clear
            obtain rfl := Option.some.inj found
            refine ⟨rfl, Nat.not_le.mp early, fun mover moves passed passes => ?_⟩
            exact Bool.eq_false_iff.mpr fun joined => clear ⟨mover, moves, passed, passes, joined⟩
      · rintro ⟨rfl, early, clear⟩
        rw [if_neg (Nat.not_le.mpr early), if_neg]
        rintro ⟨mover, moves, passed, passes, joined⟩
        rw [clear mover moves passed passes] at joined
        cases joined

/-- A block that is found fits. -/
theorem block?_fits (found : block? attributes node previous = some block) :
    block.Fits attributes := by
  obtain ⟨first, place, atFirst, atPlace, rfl, early, clear⟩ := block?_eq_some.mp found
  obtain ⟨inside, -⟩ := List.idxOf?_eq_some_iff.mp atPlace
  exact ⟨early, Nat.le_trans (clusterStart_le _ _) (le_clusterEnd _ _), clusterEnd_lt_length inside⟩

/-- A block that is found goes from `previous` to the end of the cluster of `node`. -/
theorem exists_of_block? (found : block? attributes node previous = some block) :
    attributes[block.first]? = some previous ∧
      ∃ place, attributes[place]? = some node ∧ block.moving = clusterStart attributes place ∧
        block.last = clusterEnd attributes place := by
  obtain ⟨first, place, atFirst, atPlace, rfl, -⟩ := block?_eq_some.mp found
  obtain ⟨bound, stands, -⟩ := List.idxOf?_eq_some_iff.mp atFirst
  obtain ⟨nodeBound, nodeStands, -⟩ := List.idxOf?_eq_some_iff.mp atPlace
  exact ⟨List.getElem?_eq_some_iff.mpr ⟨bound, stands⟩, place,
    List.getElem?_eq_some_iff.mpr ⟨nodeBound, nodeStands⟩, rfl, rfl⟩

/-- Both attributes of a block that is found are in the list. -/
theorem mem_of_block? (found : block? attributes node previous = some block) :
    node ∈ attributes ∧ previous ∈ attributes := by
  obtain ⟨atFirst, place, atPlace, -⟩ := exists_of_block? found
  exact ⟨List.mem_of_getElem? atPlace, List.mem_of_getElem? atFirst⟩

/-- The first slot of a block that is found is that of `previous`. -/
theorem slots_of_block? (found : block? attributes node previous = some block) :
    ∃ rest, block.slots attributes = previous :: rest := by
  have fits := block?_fits found
  rw [Block.slots_eq fits, Block.passed_eq_cons fits (exists_of_block? found).1]
  exact ⟨_, List.cons_append⟩

/-- The last slot of a block that is found is that of the last member of the cluster. -/
theorem getLast?_slots_of_block? (found : block? attributes node previous = some block) :
    (block.slots attributes).getLast? =
      attributes[clusterEnd attributes (attributes.idxOf node)]? := by
  obtain ⟨passes, moves, inside⟩ := block?_fits found
  obtain ⟨first, place, -, atPlace, blockEq, -⟩ := block?_eq_some.mp found
  obtain ⟨bound, stands, -⟩ := List.idxOf?_eq_some_iff.mp atPlace
  have same := (idxOf?_of_mem (stands ▸ List.getElem_mem bound)).symm.trans atPlace
  have last : clusterEnd attributes (attributes.idxOf node) = block.last := by
    rw [Option.some.inj same, blockEq]
  rw [last, Block.slots, List.getLast?_eq_getElem?, List.length_drop, List.length_take,
    List.getElem?_drop, List.getElem?_take, if_pos (by omega)]
  congr 1
  omega

/-- A rotation is that of a block that is found. -/
theorem rotate?_eq_some {placed next : Placed} :
    rotate? placed node previous = some next ↔
      ∃ block, block? placed.tag.attributes node previous = some block ∧
        block.rotate placed = next := by
  simp only [rotate?, Option.map_eq_some_iff]

/-- The block to rotate so that what stands at `place` goes before what stands at `first`, if there
is one. -/
def blockAt? (attributes : List Attribute) (place first : Nat) : Option Block :=
  let block : Block := ⟨first, clusterStart attributes place, clusterEnd attributes place⟩
  if block.moving ≤ first then none
  else if (block.movers attributes).any fun mover => (block.passed attributes).any (linked mover)
  then none
  else some block

/-- In a list without repetitions an attribute is found where it stands. -/
theorem idxOf?_of_getElem? (distinct : attributes.Nodup) {place : Nat}
    (stands : attributes[place]? = some node) : attributes.idxOf? node = some place := by
  obtain ⟨bound, rfl⟩ := List.getElem?_eq_some_iff.mp stands
  rw [List.idxOf?_eq_some_iff]
  refine ⟨bound, rfl, fun earlier before same => ?_⟩
  exact List.pairwise_iff_getElem.mp distinct earlier place (by omega) bound before same

/-- In a list without repetitions blocks are found by places. -/
theorem block?_eq_blockAt? (distinct : attributes.Nodup) {place first : Nat}
    (atPlace : attributes[place]? = some node) (atFirst : attributes[first]? = some previous) :
    block? attributes node previous = blockAt? attributes place first := by
  unfold block? blockAt?
  rw [idxOf?_of_getElem? distinct atPlace, idxOf?_of_getElem? distinct atFirst]

theorem clusterStart_unplaced (attributes : List Attribute) (place : Nat) :
    clusterStart (attributes.map Attribute.unplaced) place = clusterStart attributes place := by
  induction place with
  | zero => rfl
  | succ place ih =>
    simp only [clusterStart, List.getElem?_map, ih]
    cases attributes[place]? <;> cases attributes[place + 1]? <;> rfl

theorem linkedRun_unplaced (attributes : List Attribute) :
    linkedRun (attributes.map Attribute.unplaced) = linkedRun attributes := by
  induction attributes with
  | nil => rfl
  | cons node rest ih =>
    cases rest with
    | nil => rfl
    | cons next rest =>
      simp only [List.map_cons, linkedRun, linked_unplaced] at ih ⊢
      rw [ih]
      rfl

theorem clusterEnd_unplaced (attributes : List Attribute) (place : Nat) :
    clusterEnd (attributes.map Attribute.unplaced) place = clusterEnd attributes place := by
  rw [clusterEnd, ← List.map_drop, linkedRun_unplaced, clusterEnd]

/-- Blocks do not depend on where the attributes stand in a text. -/
theorem blockAt?_unplaced (attributes : List Attribute) (place first : Nat) :
    blockAt? (attributes.map Attribute.unplaced) place first = blockAt? attributes place first := by
  have movers : ∀ block : Block, block.movers (attributes.map Attribute.unplaced) =
      (block.movers attributes).map Attribute.unplaced := by
    intro block
    simp only [Block.movers, List.map_drop, List.map_take]
  have passed : ∀ block : Block, block.passed (attributes.map Attribute.unplaced) =
      (block.passed attributes).map Attribute.unplaced := by
    intro block
    simp only [Block.passed, List.map_drop, List.map_take]
  unfold blockAt?
  simp only [clusterStart_unplaced, clusterEnd_unplaced, movers, passed, List.any_map,
    Function.comp_def, linked_unplaced]

end TagOrder
