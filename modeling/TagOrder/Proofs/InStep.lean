import TagOrder.Proofs.Repair.Kept

/-!
# Tags in step with their text

A tag is in step with its text when its attributes are laid out in it and every key lies in the
range of its attribute and holds its key text. A rotation computes text and ranges apart from each
other and still ends in step (`Placed.InStep.rotate`); so does every repair. `inStep_kept` says this
together with what becomes of the text inside and outside the rotated block.
-/

namespace TagOrder

/-- The attributes of a tag are where they say they are, with their keys. -/
structure Placed.InStep (placed : Placed) : Prop where
  laid : Laid placed.text 0 placed.tag.attributes
  keyed : ∀ node ∈ placed.tag.attributes, node.Keyed placed.text

instance Placed.InStep.decidable (placed : Placed) : Decidable placed.InStep :=
  decidable_of_iff (Laid placed.text 0 placed.tag.attributes ∧
      ∀ node ∈ placed.tag.attributes, node.Keyed placed.text)
    ⟨fun both => ⟨both.1, both.2⟩, fun inStep => ⟨inStep.laid, inStep.keyed⟩⟩

/-- What settles is one of the occupants, at some offset. -/
theorem exists_of_mem_settle {text : Text} {cursor : Int} {occupants slots : List Attribute}
    {node : Attribute} (member : node ∈ settle text cursor occupants slots) :
    ∃ occupant ∈ occupants, ∃ offset, node = occupant.settledAt text offset := by
  induction occupants generalizing cursor slots with
  | nil => simp [settle] at member
  | cons occupant rest ih =>
    cases slots with
    | nil => simp [settle] at member
    | cons slot slots =>
      simp only [settle, List.mem_cons] at member
      rcases member with rfl | later
      · exact ⟨occupant, List.mem_cons_self, cursor, rfl⟩
      · obtain ⟨other, inRest, offset, same⟩ := ih later
        exact ⟨other, List.mem_cons_of_mem _ inRest, offset, same⟩

namespace Attribute.Keyed

variable {node : Attribute} {text other : Text}

/-- A key is read off the text of its attribute, so it moves along with it. -/
theorem settledAt {cursor : Int} (keyed : node.Keyed text) (positive : 0 ≤ node.range.start)
    (reads : node.text = node.range.of text) (start : 0 ≤ cursor)
    (holds : node.text = (node.settledAt other cursor).range.of other) :
    (node.settledAt other cursor).Keyed other := by
  obtain ⟨starts, ordered, stops, key⟩ := keyed
  have range := range_settledAt node other cursor
  have keyRange : (node.settledAt other cursor).keyRange =
      ⟨node.keyRange.start - node.range.start + cursor,
        node.keyRange.stop - node.range.start + cursor⟩ := by
    simp only [Attribute.settledAt, Attribute.movedTo, Span.shift, Span.mk.injEq]
    omega
  refine ⟨?_, ?_, ?_, ?_⟩
  · rw [range, keyRange]
    dsimp only
    omega
  · rw [keyRange]
    dsimp only
    omega
  · rw [range, keyRange]
    dsimp only
    omega
  · rw [range] at holds
    have before := Text.slice_slice text positive starts ordered stops
    have starting : cursor ≤ node.keyRange.start - node.range.start + cursor := by omega
    have ordering : node.keyRange.start - node.range.start + cursor ≤
        node.keyRange.stop - node.range.start + cursor := by omega
    have stopping : node.keyRange.stop - node.range.start + cursor ≤
        cursor + (node.range.stop - node.range.start) := by omega
    have after := Text.slice_slice other start starting ordering stopping
    rw [Int.add_sub_cancel, Int.add_sub_cancel] at after
    change node.keyText = _
    rw [key, keyRange, Span.of, Span.of, ← before, ← after]
    congr 1
    exact reads.symm.trans holds

/-- A key is kept where the text of its attribute stays. -/
theorem congr {covered : Nat -> Prop} (keyed : node.Keyed text) (positive : 0 ≤ node.range.start)
    (same : Text.SameExcept covered text other)
    (clear : ∀ offset, node.range.Covers offset → ¬ covered offset) : node.Keyed other := by
  obtain ⟨starts, ordered, stops, key⟩ := keyed
  refine ⟨starts, ordered, stops, ?_⟩
  rw [key, Span.of, Span.of, same.slice_eq (by omega) ordered]
  exact fun offset above below => clear offset ⟨by omega, by omega⟩

end Attribute.Keyed

/-- A rotation ends in step when it begins in step. -/
theorem Placed.InStep.rotate {block : Block} {placed : Placed} (inStep : placed.InStep)
    (fits : block.Fits placed.tag.attributes) : (block.rotate placed).InStep := by
  obtain ⟨laid, keyed⟩ := inStep
  obtain ⟨rotated, -, -⟩ := Block.rotate_laid fits laid
  refine ⟨rotated, fun node member => ?_⟩
  obtain ⟨slot, rest, slots⟩ := Block.exists_slot fits
  have outside := Block.rotate_sameExcept fits laid slots
  have whole := Block.eq_append fits
  rw [← Block.slots_eq fits, slots] at whole
  have place := rotated.of_mem member
  rw [Block.rotate_attributes fits slots] at member
  have pieces := laid
  rw [whole, Laid.append_iff, Laid.append_iff, reach_append,
    reach_of_ne_nil (List.cons_ne_nil slot rest) _ 0] at pieces
  obtain ⟨⟨frontLaid, slotsLaid⟩, backLaid⟩ := pieces
  rcases List.mem_append.mp member with front | back
  · rcases List.mem_append.mp front with early | settled
    · -- In front of the block the text is as it was.
      have here := frontLaid.of_mem early
      have head := slotsLaid.of_mem List.mem_cons_self
      refine (keyed node (List.mem_of_mem_take early)).congr (by omega) outside ?_
      rintro offset ⟨above, below⟩ ⟨inside, -⟩
      dsimp only at inside
      omega
    · obtain ⟨occupant, inBlock, offset, rfl⟩ := exists_of_mem_settle settled
      have inSlots := (Block.occupants_perm fits).subset inBlock
      have inTag : occupant ∈ placed.tag.attributes := by
        rw [whole, ← slots]
        exact List.mem_append_left _ (List.mem_append_right _ inSlots)
      have home := laid.of_mem inTag
      have start := place.1
      rw [range_settledAt] at start
      exact (keyed occupant inTag).settledAt home.1 home.2.2.2 start place.2.2.2
  · -- Behind the block as well.
    have here := backLaid.of_mem back
    have bounds := (slotsLaid.reach_bounds).1
    refine (keyed node (List.mem_of_mem_drop back)).congr place.1 outside ?_
    rintro offset ⟨above, below⟩ ⟨-, inside⟩
    dsimp only at inside
    omega

/-- Every run of rotations ends in step when it begins in step. -/
theorem Placed.InStep.rotations {origin final : Placed} {moves : List Move}
    (inStep : origin.InStep) (run : Rotations origin moves final) : final.InStep := by
  refine run.invariant _ (fun before rotated => ?_) inStep
  obtain ⟨block, found, rfl⟩ := rotate?_eq_some.mp rotated
  exact before.rotate (block?_fits found)

/-- How a rotation of `node` before `previous` divides the attributes of a tag: what stands in front
of `previous`, what is passed from there on, the cluster of `node`, and what stands behind it. -/
structure RotationParts (attributes : List Attribute) (node previous : Attribute)
    (front passed cluster back : List Attribute) : Prop where
  whole : attributes = front ++ (passed ++ cluster) ++ back
  leads : passed.head? = some previous
  clustered : ∀ place, SameCluster attributes (attributes.idxOf node) place ↔
    (front ++ passed).length ≤ place ∧ place < (front ++ (passed ++ cluster)).length

/-- A block that is found divides the attributes so. -/
theorem rotationParts_of_block? {attributes : List Attribute} {node previous : Attribute}
    {block : Block} (found : block? attributes node previous = some block) :
    RotationParts attributes node previous (attributes.take block.first)
      (block.passed attributes) (block.movers attributes) (attributes.drop (block.last + 1)) := by
  have fits := block?_fits found
  have whole := Block.eq_append fits
  obtain ⟨passes, moves, inside⟩ := fits
  obtain ⟨first, place, atFirst, atPlace, blockEq, -⟩ := block?_eq_some.mp found
  obtain ⟨bound, stands, -⟩ := List.idxOf?_eq_some_iff.mp atFirst
  obtain ⟨nodeBound, nodeStands, -⟩ := List.idxOf?_eq_some_iff.mp atPlace
  have nodePlace : attributes.idxOf node = place := by
    have found := idxOf?_of_mem (nodeStands ▸ List.getElem_mem nodeBound)
    exact Option.some.inj (found.symm.trans atPlace)
  have head : attributes[block.first]? = some previous := by
    rw [blockEq, List.getElem?_eq_getElem bound, stands]
  refine ⟨whole, ?_, fun member => ?_⟩
  · rw [Block.passed_eq_cons (block?_fits found) head]
    rfl
  · rw [nodePlace, sameCluster_iff]
    have moving : clusterStart attributes place = block.moving := by rw [blockEq]
    have last : clusterEnd attributes place = block.last := by rw [blockEq]
    simp only [List.length_append, List.length_take, Block.passed, Block.movers, List.length_drop,
      moving, last]
    omega

/-- What a rotation makes of a tag and its text: outside the block, from `previous` to the end of
the cluster, the text stays; inside it the strings between the slots stay, and the slots hold the
cluster and then what it passed. -/
structure RotationResult (placed next : Placed) (node previous : Attribute)
    (front passed cluster back settled : List Attribute) (last : Attribute) : Prop where
  parts : RotationParts placed.tag.attributes node previous front passed cluster back
  atEnd : cluster.getLast? = some last
  outside : Text.SameExcept (Span.Covers ⟨previous.range.start, last.range.stop⟩) placed.text
    next.text
  inside : next.text.slice previous.range.start last.range.stop =
    interleave ((cluster ++ passed).map (·.text)) (between placed.text (passed ++ cluster))
  attributes : next.tag.attributes = front ++ settled ++ back
  occupants : settled.map Attribute.unplaced = (cluster ++ passed).map Attribute.unplaced
  strings : between next.text settled = between placed.text (passed ++ cluster)

/-- The block of a rotation of a laid out tag, before and after. -/
theorem rotationResult_of_block? {placed : Placed} {node previous : Attribute} {block : Block}
    (laid : Laid placed.text 0 placed.tag.attributes)
    (found : block? placed.tag.attributes node previous = some block) :
    ∃ front passed cluster back settled last, RotationResult placed (block.rotate placed) node
      previous front passed cluster back settled last := by
  have fits := block?_fits found
  have parts := rotationParts_of_block? found
  obtain ⟨rest, slots⟩ := slots_of_block? found
  have inOrder := (Block.slots_eq fits).symm.trans slots
  obtain ⟨last, atEnd⟩ : ∃ last,
      (block.movers placed.tag.attributes).getLast? = some last := by
    refine ⟨_, List.getLast?_eq_some_getLast fun none => ?_⟩
    have length := congrArg List.length none
    obtain ⟨passes, moves, inside⟩ := fits
    rw [Block.movers, List.length_drop, List.length_take, List.length_nil] at length
    omega
  have stop : reach 0 (previous :: rest) = last.range.stop := by
    apply reach_of_getLast?
    rw [← inOrder, List.getLast?_append, atEnd]
    rfl
  obtain ⟨first, others, settled, -, -, strings, -⟩ := Block.settled_laid fits laid slots
  refine ⟨_, _, _, _, first :: others, last, parts, atEnd, ?_, ?_, ?_, ?_, ?_⟩
  · rw [← stop]
    exact Block.rotate_sameExcept fits laid slots
  · have room := Block.length_occupied fits laid slots
    obtain ⟨starts, ordered, stops⟩ := Block.slots_bounds fits laid slots
    have lead : ((placed.text.before previous.range.start).length : Int) = previous.range.start :=
      Text.length_before placed.text starts (by omega)
    rw [Block.rotate_text fits laid slots, inOrder, ← stop]
    exact Text.slice_append_middle _ _ _ lead.symm (by rw [room]; omega)
  · rw [Block.rotate_attributes fits slots, settled]
  · rw [← settled, settle_unplaced _ _ (Block.length_occupants fits)]
    rfl
  · rw [strings, inOrder]

/-- A rotation of a tag in step with its text ends in step, with the same length, span and text
outside the block, and so does every repair, with the same text outside the span. -/
theorem inStep_kept :
    (∀ (placed next : Placed) (node previous : Attribute), placed.InStep →
      rotate? placed node previous = some next →
        next.InStep ∧ next.text.length = placed.text.length ∧ next.tag.span = placed.tag.span ∧
          ∃ front passed cluster back settled last, RotationResult placed next node previous
            front passed cluster back settled last) ∧
    ∀ (rule : Rule) (placed : Placed) (result : Repair), placed.InStep →
      repair rule placed = .ok result →
        result.placed.InStep ∧ result.placed.text.length = placed.text.length ∧
          result.placed.tag.span = placed.tag.span ∧
          Text.SameExcept placed.tag.Covers placed.text result.placed.text := by
  refine ⟨fun placed next node previous inStep rotated => ?_,
    fun rule placed result inStep repaired => ?_⟩
  · obtain ⟨block, found, rfl⟩ := rotate?_eq_some.mp rotated
    have fits := block?_fits found
    have kept := Placed.Kept.rotate fits inStep.laid
    exact ⟨inStep.rotate fits, kept.text.length, kept.span,
      rotationResult_of_block? inStep.laid found⟩
  · obtain ⟨⟨moves, run⟩, -⟩ := repair_rotations repaired
    have kept := Placed.Kept.repair inStep.laid repaired
    exact ⟨inStep.rotations run, kept.text.length, kept.span, kept.text⟩

/-- A tag in step with its text, over two lines, whose second attribute should come first. -/
def brokenSample : Placed where
  text := "<a :to=\"x\"\n   id=\"y\" @click=\"f\">".toList
  tag :=
    { name := "a"
      attributes :=
        [{ directive := true, name := "bind", argument := some "to", range := ⟨3, 10⟩
           keyRange := ⟨3, 6⟩, text := ":to=\"x\"".toList, keyText := ":to".toList },
          { name := "id", range := ⟨14, 20⟩, keyRange := ⟨14, 16⟩
            text := "id=\"y\"".toList, keyText := "id".toList },
          { directive := true, name := "on", argument := some "click", range := ⟨21, 31⟩
            keyRange := ⟨21, 27⟩, text := "@click=\"f\"".toList, keyText := "@click".toList }] }

/-- The last attribute of a tag moved to its front, and the tag repaired. -/
theorem inStep_kept_brokenSample :
    brokenSample.InStep ∧
    (∃ next, rotate? brokenSample brokenSample.tag.attributes[2]
        brokenSample.tag.attributes[0] = some next ∧
      next.InStep ∧ next.text.length = brokenSample.text.length ∧
      next.tag.span = brokenSample.tag.span) ∧
    ∃ result, repair {} brokenSample = .ok result ∧ result.clean = true ∧
      result.placed.InStep ∧ result.placed.tag.span = brokenSample.tag.span := by
  have inStep : brokenSample.InStep := by decide +kernel
  refine ⟨inStep, ?_, ?_⟩
  · have found : (rotate? brokenSample brokenSample.tag.attributes[2]
        brokenSample.tag.attributes[0]).isSome = true := by decide +kernel
    obtain ⟨next, rotated⟩ := Option.isSome_iff_exists.mp found
    obtain ⟨stays, length, span, -⟩ := inStep_kept.1 _ _ _ _ inStep rotated
    exact ⟨next, rotated, stays, length, span⟩
  · have clean : (repair {} brokenSample).toOption.any (·.clean) = true := by decide +kernel
    cases repaired : repair {} brokenSample with
    | error fault => rw [repaired] at clean; cases clean
    | ok result =>
      rw [repaired] at clean
      obtain ⟨stays, -, span, -⟩ := inStep_kept.2 _ _ _ inStep repaired
      exact ⟨result, rfl, clean, stays, span⟩

end TagOrder
