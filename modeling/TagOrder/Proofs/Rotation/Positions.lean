import TagOrder.Proofs.InStep
import TagOrder.Proofs.Text.Position

/-!
# Lines and columns after a rotation

An attribute is marked with its place when its line and column are those of its start. A rotation
reads the places of the attributes in its block off the new text and leaves all others as they are
marked. That is right in front of the block. Behind it the lines are still right, since the block
holds as many newlines as before; but a value may hold a newline, and so may the string between two
attributes, and where the last newline of the block has moved, the columns of what follows on that
line have moved too (`rotate_positions`, `rotate_positions_lost`).
-/

namespace TagOrder

/-- The line of an attribute is that of its start. -/
def Attribute.Lined (node : Attribute) (text : Text) : Prop :=
  node.line = (text.position node.range.start).line

/-- The line and the column of an attribute are those of its start. -/
structure Attribute.Marked (node : Attribute) (text : Text) : Prop where
  line : node.Lined text
  column : node.column = (text.position node.range.start).column

instance Attribute.Marked.decidable (node : Attribute) (text : Text) :
    Decidable (node.Marked text) :=
  decidable_of_iff
    (node.line = (text.position node.range.start).line ∧
      node.column = (text.position node.range.start).column)
    ⟨fun both => ⟨both.1, both.2⟩, fun marked => ⟨marked.line, marked.column⟩⟩

namespace Attribute

variable {node : Attribute} {left right : Text}

/-- What settles is marked with its place. -/
theorem marked_settledAt (node : Attribute) (text : Text) (offset : Int) :
    (node.settledAt text offset).Marked text := by
  constructor
  · rw [Lined, range_settledAt]
    rfl
  · rw [range_settledAt]
    rfl

/-- An attribute stays marked where the text in front of it stays. -/
theorem Marked.congr (marked : node.Marked left)
    (same : right.before node.range.start = left.before node.range.start) :
    node.Marked right := by
  have position := Text.position_congr same
  exact ⟨by rw [Lined, position]; exact marked.line, by rw [position]; exact marked.column⟩

end Attribute

namespace Block

variable {block : Block} {placed : Placed} {slot : Attribute} {rest : List Attribute}

/-- An attribute of a rotated tag stood in front of the block, has settled, or stood behind it. -/
theorem exists_of_mem_rotate (fits : block.Fits placed.tag.attributes) {other : Attribute}
    (member : other ∈ (block.rotate placed).tag.attributes) :
    other ∈ placed.tag.attributes.take block.first ∨
      (∃ occupant ∈ block.occupants placed.tag.attributes, ∃ offset,
        other = occupant.settledAt (block.rotate placed).text offset) ∨
      other ∈ placed.tag.attributes.drop (block.last + 1) := by
  obtain ⟨slot, rest, slots⟩ := exists_slot fits
  rw [rotate_attributes fits slots] at member
  rcases List.mem_append.mp member with front | back
  · exact (List.mem_append.mp front).imp id fun settled => .inl (exists_of_mem_settle settled)
  · exact .inr (.inr back)

/-- What stands in front of a block comes to its end before the block begins, and what stands behind
it begins after the block has come to its end. -/
theorem outside_bounds (fits : block.Fits placed.tag.attributes)
    (laid : Laid placed.text 0 placed.tag.attributes)
    (slots : block.slots placed.tag.attributes = slot :: rest) {other : Attribute} :
    (other ∈ placed.tag.attributes.take block.first →
      0 ≤ other.range.start ∧ other.range.start < slot.range.start) ∧
    (other ∈ placed.tag.attributes.drop (block.last + 1) →
      reach 0 (slot :: rest) ≤ other.range.start ∧ other.range.start < placed.text.length) := by
  have whole := eq_append fits
  rw [← slots_eq fits, slots] at whole
  rw [whole, Laid.append_iff, Laid.append_iff, reach_append,
    reach_of_ne_nil (List.cons_ne_nil slot rest) _ 0] at laid
  obtain ⟨⟨frontLaid, slotsLaid⟩, backLaid⟩ := laid
  have head := slotsLaid.of_mem List.mem_cons_self
  have ends := backLaid.reach_bounds
  constructor
  · intro member
    have here := frontLaid.of_mem member
    omega
  · intro member
    have here := backLaid.of_mem member
    omega

/-- Up to the end of its block a rotated text holds what stood there before the block, and then the
characters of the block in another order. -/
theorem before_rotate (fits : block.Fits placed.tag.attributes)
    (laid : Laid placed.text 0 placed.tag.attributes)
    (slots : block.slots placed.tag.attributes = slot :: rest) :
    ∃ inside, (block.rotate placed).text.before (reach 0 (slot :: rest)) =
        placed.text.before slot.range.start ++ inside ∧
      inside.Perm (placed.text.slice slot.range.start (reach 0 (slot :: rest))) := by
  obtain ⟨starts, ordered, stops⟩ := slots_bounds fits laid slots
  have slotsLaid := slots_laid fits laid
  have floor := slots_floor fits laid
  rw [slots] at slotsLaid
  refine ⟨interleave ((block.occupants placed.tag.attributes).map (·.text))
    (between placed.text (slot :: rest)), ?_, ?_⟩
  · rw [rotate_text fits laid slots]
    refine Text.before_append _ _ ?_
    have front := placed.text.length_before starts (by omega)
    rw [List.length_append, Int.natCast_add, length_occupied fits laid slots, front]
    omega
  · rw [reach_of_ne_nil (List.cons_ne_nil _ _) 0
      (reach 0 (placed.tag.attributes.take block.first)), slotsLaid.slice_eq_interleave floor]
    have paired := length_between fits slots
    have mixed := interleave_perm ((occupants_perm fits).map (·.text)) paired
    rwa [slots] at mixed

/-- In front of its block a rotated text is as it was. -/
theorem before_rotate_of_mem (fits : block.Fits placed.tag.attributes)
    (laid : Laid placed.text 0 placed.tag.attributes) {other : Attribute}
    (front : other ∈ placed.tag.attributes.take block.first) :
    (block.rotate placed).text.before other.range.start =
      placed.text.before other.range.start := by
  obtain ⟨slot, rest, slots⟩ := exists_slot fits
  have here := (outside_bounds fits laid slots).1 front
  rw [← Text.slice_zero _ here.1, ← Text.slice_zero _ here.1]
  refine (rotate_sameExcept fits laid slots).slice_eq (Int.le_refl 0) here.1
    fun offset _ below covered => ?_
  have inside : slot.range.start ≤ offset := covered.1
  omega

/-- Behind its block a rotated text is as it was, up to any offset. -/
theorem slice_rotate (fits : block.Fits placed.tag.attributes)
    (laid : Laid placed.text 0 placed.tag.attributes)
    (slots : block.slots placed.tag.attributes = slot :: rest) {offset : Int}
    (late : reach 0 (slot :: rest) ≤ offset) :
    (block.rotate placed).text.slice (reach 0 (slot :: rest)) offset =
      placed.text.slice (reach 0 (slot :: rest)) offset := by
  obtain ⟨starts, ordered, -⟩ := slots_bounds fits laid slots
  refine (rotate_sameExcept fits laid slots).slice_eq (by omega) late
    fun offset above _ covered => ?_
  have inside : offset < reach 0 (slot :: rest) := covered.2
  omega

/-- Lines that are right before a rotation are right after it. -/
theorem lined_rotate (fits : block.Fits placed.tag.attributes)
    (laid : Laid placed.text 0 placed.tag.attributes)
    (lined : ∀ node ∈ placed.tag.attributes, node.Lined placed.text) :
    ∀ node ∈ (block.rotate placed).tag.attributes, node.Lined (block.rotate placed).text := by
  intro node member
  obtain ⟨slot, rest, slots⟩ := exists_slot fits
  rcases exists_of_mem_rotate fits member with front | ⟨occupant, -, offset, rfl⟩ | back
  · rw [Attribute.Lined, Text.position_congr (before_rotate_of_mem fits laid front)]
    exact lined node (List.mem_of_mem_take front)
  · exact (occupant.marked_settledAt _ offset).line
  · obtain ⟨starts, ordered, -⟩ := slots_bounds fits laid slots
    have here := (outside_bounds fits laid slots).2 back
    obtain ⟨inside, before, same⟩ := before_rotate fits laid slots
    have count : ((block.rotate placed).text.before (reach 0 (slot :: rest))).count '\n' =
        (placed.text.before (reach 0 (slot :: rest))).count '\n' := by
      rw [before, ← Text.before_append_slice placed.text starts (Int.le_of_lt ordered),
        List.count_append, List.count_append, same.count_eq]
    have text := slice_rotate fits laid slots here.1
    rw [Attribute.Lined, Text.line_congr (by omega) here.1 count text]
    exact lined node (List.mem_of_mem_drop back)

/-- Attributes that start before the end of the block are marked when all were so before. -/
theorem marked_rotate (fits : block.Fits placed.tag.attributes)
    (laid : Laid placed.text 0 placed.tag.attributes)
    (slots : block.slots placed.tag.attributes = slot :: rest)
    (marked : ∀ node ∈ placed.tag.attributes, node.Marked placed.text) {node : Attribute}
    (member : node ∈ (block.rotate placed).tag.attributes)
    (early : node.range.start < reach 0 (slot :: rest)) :
    node.Marked (block.rotate placed).text := by
  rcases exists_of_mem_rotate fits member with front | ⟨occupant, -, offset, rfl⟩ | back
  · exact (marked node (List.mem_of_mem_take front)).congr (before_rotate_of_mem fits laid front)
  · exact occupant.marked_settledAt _ offset
  · have here := (outside_bounds fits laid slots).2 back
    omega

/-- Attributes that start behind the end of the block stood there before. -/
theorem mem_of_mem_rotate (fits : block.Fits placed.tag.attributes)
    (laid : Laid placed.text 0 placed.tag.attributes)
    (slots : block.slots placed.tag.attributes = slot :: rest) {node : Attribute}
    (member : node ∈ (block.rotate placed).tag.attributes)
    (late : reach 0 (slot :: rest) ≤ node.range.start) :
    node ∈ placed.tag.attributes.drop (block.last + 1) := by
  obtain ⟨starts, ordered, -⟩ := slots_bounds fits laid slots
  obtain ⟨first, others, settled, -, settledLaid, -, ends⟩ := settled_laid fits laid slots
  rw [rotate_attributes fits slots, settled] at member
  rcases List.mem_append.mp member with front | back
  · rcases List.mem_append.mp front with early | inside
    · have here := (outside_bounds fits laid slots).1 early
      omega
    · have here := settledLaid.of_mem inside
      omega
  · exact back

/-- The column of an attribute behind the block is right when a newline stands between the two, or
the line on which the block comes to its end starts where it did. -/
theorem column_rotate (fits : block.Fits placed.tag.attributes)
    (laid : Laid placed.text 0 placed.tag.attributes)
    (slots : block.slots placed.tag.attributes = slot :: rest)
    (marked : ∀ node ∈ placed.tag.attributes, node.Marked placed.text) {node : Attribute}
    (back : node ∈ placed.tag.attributes.drop (block.last + 1)) :
    node.column = ((block.rotate placed).text.position node.range.start).column ↔
      '\n' ∈ placed.text.slice (reach 0 (slot :: rest)) node.range.start ∨
        lineStart ((block.rotate placed).text.before (reach 0 (slot :: rest))) =
          lineStart (placed.text.before (reach 0 (slot :: rest))) := by
  obtain ⟨starts, ordered, stops⟩ := slots_bounds fits laid slots
  have here := (outside_bounds fits laid slots).2 back
  have length := (rotate_sameExcept fits laid slots).length
  rw [(marked node (List.mem_of_mem_drop back)).column, eq_comm]
  exact Text.column_eq_iff (by omega) here.1 stops (by omega) (slice_rotate fits laid slots here.1)

/-- A block without a newline comes to its end on the line on which it begins, before and after. -/
theorem lineStart_rotate (fits : block.Fits placed.tag.attributes)
    (laid : Laid placed.text 0 placed.tag.attributes)
    (slots : block.slots placed.tag.attributes = slot :: rest)
    (unbroken : '\n' ∉ placed.text.slice slot.range.start (reach 0 (slot :: rest))) :
    lineStart ((block.rotate placed).text.before (reach 0 (slot :: rest))) =
      lineStart (placed.text.before (reach 0 (slot :: rest))) := by
  obtain ⟨starts, ordered, -⟩ := slots_bounds fits laid slots
  obtain ⟨inside, before, same⟩ := before_rotate fits laid slots
  rw [before, ← Text.before_append_slice placed.text starts (Int.le_of_lt ordered),
    lineStart_append_of_not_mem _ fun broken => unbroken (same.subset broken),
    lineStart_append_of_not_mem _ unbroken]

end Block

/-- Lines that are right before a run of rotations are right after it. -/
theorem Rotations.lined {origin final : Placed} {moves : List Move}
    (run : Rotations origin moves final) (laid : Laid origin.text 0 origin.tag.attributes)
    (lined : ∀ node ∈ origin.tag.attributes, node.Lined origin.text) :
    ∀ node ∈ final.tag.attributes, node.Lined final.text := by
  have both := run.invariant
    (fun placed => Laid placed.text 0 placed.tag.attributes ∧
      ∀ node ∈ placed.tag.attributes, node.Lined placed.text)
    (fun before rotated => ?_) ⟨laid, lined⟩
  · exact both.2
  · obtain ⟨block, found, rfl⟩ := rotate?_eq_some.mp rotated
    have fits := block?_fits found
    exact ⟨(Block.rotate_laid fits before.1).1, Block.lined_rotate fits before.1 before.2⟩

/-- When all attributes of a tag are marked with their places, a rotation of `node` before
`previous` leaves every line right, and the columns up to the end of the block, which is that of the
cluster of `node`. An attribute behind the block keeps its column, and this is right just when a
newline stands between the two or the line on which the block ends starts where it did; so it is
where the block holds no newline. -/
theorem rotate_positions (placed next : Placed) (node previous : Attribute)
    (inStep : placed.InStep)
    (marked : ∀ other ∈ placed.tag.attributes, other.Marked placed.text)
    (rotated : rotate? placed node previous = some next) :
    ∃ last, placed.tag.attributes[clusterEnd placed.tag.attributes
        (placed.tag.attributes.idxOf node)]? = some last ∧
      (∀ other ∈ next.tag.attributes, other.Lined next.text) ∧
      (∀ other ∈ next.tag.attributes, other.range.start < last.range.stop →
        other.Marked next.text) ∧
      (∀ other ∈ next.tag.attributes, last.range.stop ≤ other.range.start →
        other ∈ placed.tag.attributes ∧
        (other.Marked next.text ↔
          '\n' ∈ placed.text.slice last.range.stop other.range.start ∨
            lineStart (next.text.before last.range.stop) =
              lineStart (placed.text.before last.range.stop))) ∧
      ('\n' ∉ placed.text.slice previous.range.start last.range.stop →
        ∀ other ∈ next.tag.attributes, other.Marked next.text) := by
  obtain ⟨block, found, rfl⟩ := rotate?_eq_some.mp rotated
  have laid := inStep.laid
  have fits := block?_fits found
  obtain ⟨rest, slots⟩ := slots_of_block? found
  obtain ⟨last, ends⟩ : ∃ last, (previous :: rest).getLast? = some last :=
    ⟨_, List.getLast?_eq_some_getLast (List.cons_ne_nil _ _)⟩
  have stop : reach 0 (previous :: rest) = last.range.stop := reach_of_getLast? ends 0
  have atEnd := getLast?_slots_of_block? found
  rw [slots, ends] at atEnd
  have lined := Block.lined_rotate fits laid fun other member => (marked other member).line
  have behind : ∀ other ∈ (block.rotate placed).tag.attributes,
      last.range.stop ≤ other.range.start → other ∈ placed.tag.attributes ∧
        (other.Marked (block.rotate placed).text ↔
          '\n' ∈ placed.text.slice last.range.stop other.range.start ∨
            lineStart ((block.rotate placed).text.before last.range.stop) =
              lineStart (placed.text.before last.range.stop)) := by
    intro other member late
    have back := Block.mem_of_mem_rotate fits laid slots member (stop ▸ late)
    refine ⟨List.mem_of_mem_drop back, ?_⟩
    rw [← stop, ← Block.column_rotate fits laid slots marked back]
    exact ⟨fun marks => marks.column, fun column => ⟨lined other member, column⟩⟩
  refine ⟨last, atEnd.symm, lined, fun other member early => ?_, behind,
    fun unbroken other member => ?_⟩
  · exact Block.marked_rotate fits laid slots marked member (stop ▸ early)
  · by_cases early : other.range.start < last.range.stop
    · exact Block.marked_rotate fits laid slots marked member (stop ▸ early)
    · refine (behind other member (Int.not_lt.mp early)).2.mpr (.inr ?_)
      rw [← stop] at unbroken ⊢
      exact Block.lineStart_rotate fits laid slots unbroken

/-- A tag over two lines, the newline being in the value of its first attribute. -/
def wrappedSample : Placed where
  text := "<a :to=\"x\ny\" id=\"z\" alt=\"w\">".toList
  tag :=
    { name := "a"
      attributes :=
        [{ directive := true, name := "bind", argument := some "to", range := ⟨3, 12⟩
           keyRange := ⟨3, 6⟩, text := ":to=\"x\ny\"".toList, keyText := ":to".toList
           line := 1, column := 3 },
          { name := "id", range := ⟨13, 19⟩, keyRange := ⟨13, 15⟩
            text := "id=\"z\"".toList, keyText := "id".toList, line := 2, column := 3 },
          { name := "alt", range := ⟨20, 27⟩, keyRange := ⟨20, 23⟩
            text := "alt=\"w\"".toList, keyText := "alt".toList, line := 2, column := 10 }] }

/-- The first two attributes exchanged: all lines are right, and so are the columns of the two. -/
theorem rotate_positions_wrappedSample :
    wrappedSample.InStep ∧ (∀ other ∈ wrappedSample.tag.attributes,
      other.Marked wrappedSample.text) ∧
    ∃ next, rotate? wrappedSample wrappedSample.tag.attributes[1]
        wrappedSample.tag.attributes[0] = some next ∧
      (∀ other ∈ next.tag.attributes, other.Lined next.text) ∧
      ∀ other ∈ next.tag.attributes, other.range.start < 19 → other.Marked next.text := by
  have inStep : wrappedSample.InStep := by decide +kernel
  have marked : ∀ other ∈ wrappedSample.tag.attributes, other.Marked wrappedSample.text := by
    decide +kernel
  have found : (rotate? wrappedSample wrappedSample.tag.attributes[1]
      wrappedSample.tag.attributes[0]).isSome = true := by decide +kernel
  obtain ⟨next, rotated⟩ := Option.isSome_iff_exists.mp found
  obtain ⟨last, atEnd, lined, early, -⟩ := rotate_positions _ _ _ _ inStep marked rotated
  have stop : (wrappedSample.tag.attributes[clusterEnd wrappedSample.tag.attributes
      (wrappedSample.tag.attributes.idxOf wrappedSample.tag.attributes[1])]?).map
        (·.range.stop) = some 19 := by decide +kernel
  rw [atEnd, Option.map_some, Option.some.injEq] at stop
  rw [stop] at early
  exact ⟨inStep, marked, next, rotated, lined, early⟩

theorem text_wrappedSample :
    (Block.rotate ⟨0, 1, 1⟩ wrappedSample).text =
      "<a id=\"z\" :to=\"x\ny\" alt=\"w\">".toList := by
  have script : Block.script ⟨0, 1, 1⟩ wrappedSample.tag.attributes =
      [⟨⟨3, 12⟩, "id=\"z\"".toList⟩, ⟨⟨13, 19⟩, ":to=\"x\ny\"".toList⟩] := by decide +kernel
  change Script.apply (Block.script ⟨0, 1, 1⟩ wrappedSample.tag.attributes) wrappedSample.text = _
  rw [script, Script.apply, Script.fromBack_of_perm (.refl _) (by simp)]
  decide +kernel

/-- The attribute behind them keeps the column that it had behind the newline of the first one; the
newline now stands in front of it at another distance. -/
theorem rotate_positions_lost :
    wrappedSample.InStep ∧ (∀ other ∈ wrappedSample.tag.attributes,
      other.Marked wrappedSample.text) ∧
    ∃ next, rotate? wrappedSample wrappedSample.tag.attributes[1]
        wrappedSample.tag.attributes[0] = some next ∧
      wrappedSample.tag.attributes[2] ∈ next.tag.attributes ∧
      next.text.position wrappedSample.tag.attributes[2].range.start = ⟨2, 3⟩ ∧
      wrappedSample.tag.attributes[2].column = 10 ∧
      ¬ wrappedSample.tag.attributes[2].Marked next.text := by
  have found : block? wrappedSample.tag.attributes wrappedSample.tag.attributes[1]
      wrappedSample.tag.attributes[0] = some ⟨0, 1, 1⟩ := by decide +kernel
  refine ⟨by decide +kernel, by decide +kernel, Block.rotate ⟨0, 1, 1⟩ wrappedSample,
    rotate?_eq_some.mpr ⟨_, found, rfl⟩, ?_, ?_, rfl, ?_⟩
  · exact List.mem_append_right _ (by decide +kernel)
  · rw [text_wrappedSample]
    decide +kernel
  · rw [text_wrappedSample]
    decide +kernel

end TagOrder
