import Mathlib.Data.List.Basic
import Mathlib.Data.List.Induction
import Mathlib.Data.List.TakeWhile
import TagOrder.Proofs.Text.Slice
import TagOrder.Text.Position

/-!
# Lines, places and offsets

Where the last line of a text starts is decided by the last piece of it that holds a newline
(`lineStart_append_of_mem`, `lineStart_append_of_not_mem`), and the place of an offset by what
stands before it (`Text.position_congr`). Two texts that go on alike from an offset agree on the
columns behind it up to a newline only where the line of that offset starts in the same place
(`Text.column_eq_iff`).

The line of an offset is one of the lines of the text, wherever those end (`lineStarts`,
`Text.getElem?_lineStarts`). So the place of an offset is the only one that leads back to it
(`Text.isPlace_iff`), and places are in the order of their offsets (`Text.position_lt_iff`).
-/

namespace TagOrder

/-- The last line of a text with a newline is not the whole text. -/
theorem length_lastLine_lt {text : Text} (broken : '\n' ∈ text) :
    (text.reverse.takeWhile (· != '\n')).length < text.length := by
  have ending := List.takeWhile_prefix (l := text.reverse) (· != '\n')
  rw [← text.length_reverse]
  refine Nat.lt_of_le_of_ne ending.length_le fun whole => ?_
  have all := List.takeWhile_eq_self_iff.mp (ending.eq_of_length whole)
  simpa using all '\n' (List.mem_reverse.mpr broken)

theorem lineStart_pos {text : Text} (broken : '\n' ∈ text) : 0 < lineStart text :=
  Nat.sub_pos_of_lt (length_lastLine_lt broken)

theorem lineStart_le_length (text : Text) : lineStart text ≤ text.length :=
  Nat.sub_le _ _

/-- The last line starts in the last piece that holds a newline. -/
theorem lineStart_append_of_mem (front : Text) {back : Text} (broken : '\n' ∈ back) :
    lineStart (front ++ back) = front.length + lineStart back := by
  have short := length_lastLine_lt broken
  have stops : (back.reverse.takeWhile (· != '\n')).length ≠ back.reverse.length := by
    rw [List.length_reverse]
    exact Nat.ne_of_lt short
  unfold lineStart
  rw [List.reverse_append, List.takeWhile_append, if_neg stops, List.length_append]
  omega

/-- A piece without a newline goes on with the line that it is put behind. -/
theorem lineStart_append_of_not_mem (front : Text) {back : Text} (unbroken : '\n' ∉ back) :
    lineStart (front ++ back) = lineStart front := by
  have whole : back.reverse.takeWhile (· != '\n') = back.reverse := by
    refine List.takeWhile_eq_self_iff.mpr fun c member => ?_
    have other : c ≠ '\n' := fun same => unbroken (same ▸ List.mem_reverse.mp member)
    simpa using other
  unfold lineStart
  rw [List.reverse_append, List.takeWhile_append, whole, if_pos rfl, List.length_append,
    List.length_append, List.length_reverse]
  omega

theorem lineStart_concat (text : Text) (c : Char) :
    lineStart (text ++ [c]) = if c = '\n' then text.length + 1 else lineStart text := by
  split
  · rename_i newline
    subst newline
    rw [lineStart_append_of_mem text (List.mem_singleton_self _)]
    rfl
  · rename_i other
    exact lineStart_append_of_not_mem text (by simpa using Ne.symm other)

namespace Text

section Pieces

variable {left right : Text} {start stop offset : Int}

/-- The place of an offset is decided by what stands before it. -/
theorem position_congr (same : right.before offset = left.before offset) :
    right.position offset = left.position offset := by
  simp only [Text.position, same]

/-- The column of an offset, in texts that agree from an earlier offset on: the newline that it is
counted from stands between the two, or before both. -/
theorem column_eq_iff (positive : 0 ≤ start) (ordered : start ≤ offset)
    (leftBound : start ≤ left.length) (rightBound : start ≤ right.length)
    (same : right.slice start offset = left.slice start offset) :
    (right.position offset).column = (left.position offset).column ↔
      '\n' ∈ left.slice start offset ∨
        lineStart (right.before start) = lineStart (left.before start) := by
  have leftLength := left.length_before positive leftBound
  have rightLength := right.length_before positive rightBound
  simp only [Text.position, ← left.before_append_slice positive ordered,
    ← right.before_append_slice positive ordered, same]
  by_cases broken : '\n' ∈ left.slice start offset
  · rw [lineStart_append_of_mem _ broken, lineStart_append_of_mem _ broken]
    simp only [broken, true_or, iff_true]
    omega
  · rw [lineStart_append_of_not_mem _ broken, lineStart_append_of_not_mem _ broken]
    simp only [broken, false_or]
    omega

/-- The line of an offset, in texts that agree from an earlier offset on and have as many newlines
before it. -/
theorem line_congr (positive : 0 ≤ start) (ordered : start ≤ offset)
    (count : (right.before start).count '\n' = (left.before start).count '\n')
    (same : right.slice start offset = left.slice start offset) :
    (right.position offset).line = (left.position offset).line := by
  simp only [Text.position, ← left.before_append_slice positive ordered,
    ← right.before_append_slice positive ordered, same, List.count_append, count]

end Pieces

end Text

/-- The offsets at which the lines of a text start: zero for the first line, and for any other one
past the newline that ends the line before. -/
def lineStarts (text : Text) : List Nat :=
  0 :: (text.idxsOf '\n').map (· + 1)

section Lines

variable {text : Text} {line start : Nat}

theorem length_lineStarts (text : Text) : (lineStarts text).length = text.count '\n' + 1 := by
  rw [lineStarts, List.length_cons, List.length_map, List.length_idxsOf]

theorem pairwise_lineStarts (text : Text) : (lineStarts text).Pairwise (· < ·) := by
  refine List.pairwise_cons.mpr ⟨fun start behind => ?_,
    List.pairwise_idxsOf.map _ fun _ _ => Nat.succ_lt_succ⟩
  obtain ⟨place, -, rfl⟩ := List.mem_map.mp behind
  exact Nat.succ_pos place

theorem lineStarts_concat (text : Text) (c : Char) :
    lineStarts (text ++ [c]) =
      lineStarts text ++ if c = '\n' then [text.length + 1] else [] := by
  unfold lineStarts
  rw [List.idxsOf_append, List.idxsOf_cons, List.map_append, List.cons_append, Nat.zero_add]
  by_cases newline : c = '\n' <;> simp [newline]

/-- The lines of a front of a text start where the first lines of the text do. -/
theorem lineStarts_take (text : Text) (length : Nat) :
    lineStarts (text.take length) =
      (lineStarts text).take ((text.take length).count '\n' + 1) := by
  rw [lineStarts, List.idxsOf_take, List.map_take, lineStarts, List.take_succ_cons]

/-- The last line is the one that has all newlines before it. -/
theorem getElem?_lineStarts_count (text : Text) :
    (lineStarts text)[text.count '\n']? = some (lineStart text) := by
  induction text using List.reverseRecOn with
  | nil => rfl
  | append_singleton text c ih =>
    rw [lineStarts_concat, lineStart_concat, List.count_append, List.count_singleton]
    by_cases newline : c = '\n'
    · subst newline
      rw [if_pos rfl, if_pos rfl, beq_self_eq_true, if_pos rfl, ← length_lineStarts,
        List.getElem?_concat_length]
    · rw [if_neg newline, if_neg newline, beq_eq_false_iff_ne.mpr newline, List.append_nil]
      exact ih

/-- What stands before a line ends in a newline, if there is anything. -/
theorem lineStart_take_of_mem (starts : start ∈ lineStarts text) :
    lineStart (text.take start) = start := by
  rcases List.mem_cons.mp starts with rfl | behind
  · rfl
  · obtain ⟨place, newline, rfl⟩ := List.mem_map.mp behind
    obtain ⟨inside, newline⟩ := List.mem_idxsOf_iff_exists_getElem_pos.mp newline
    rw [List.take_succ_eq_append_getElem inside, beq_iff_eq.mp newline, lineStart_concat,
      if_pos rfl, List.length_take_of_le inside.le]

/-- Before a line there are as many newlines as lines. -/
theorem count_take_of_getElem? (starts : (lineStarts text)[line]? = some start) :
    (text.take start).count '\n' = line := by
  have whole := lineStart_take_of_mem (List.mem_of_getElem? starts)
  have last := getElem?_lineStarts_count (text.take start)
  rw [lineStarts_take, List.getElem?_take_of_succ, whole] at last
  have inside := (List.getElem?_eq_some_iff.mp starts).1
  have distinct : (lineStarts text).Nodup := (pairwise_lineStarts text).imp Nat.ne_of_lt
  exact ((List.getElem?_inj inside distinct).mp (starts.trans last.symm)).symm

end Lines

/-- A place is that of an offset when its line is one of the text, the offset stands as many
characters behind the start of that line as the column says, and no newline stands in between. -/
def Text.IsPlace (text : Text) (offset : Int) (place : Position) : Prop :=
  ∃ line start : Nat, place.line = line + 1 ∧ (lineStarts text)[line]? = some start ∧
    0 ≤ place.column ∧ offset = start + place.column ∧ '\n' ∉ text.slice start offset

namespace Position

/-- Places are in the order of their lines, and on one line in the order of their columns. -/
instance : LT Position where
  lt left right := left.line < right.line ∨ left.line = right.line ∧ left.column < right.column

variable {left right : Position}

theorem lt_iff : left < right ↔
    left.line < right.line ∨ left.line = right.line ∧ left.column < right.column :=
  Iff.rfl

theorem not_lt_of_lt (before : left < right) : ¬ right < left := by
  rw [lt_iff] at before ⊢
  omega

end Position

namespace Text

variable {left right offset : Int} {place : Position}

/-- The line of an offset is one of the lines of the text. -/
theorem getElem?_lineStarts (text : Text) (offset : Int) :
    (lineStarts text)[(text.before offset).count '\n']? =
      some (lineStart (text.before offset)) := by
  have last := getElem?_lineStarts_count (text.before offset)
  unfold Text.before at last ⊢
  rwa [lineStarts_take, List.getElem?_take_of_succ] at last

theorem lineStart_before_le (text : Text) (positive : 0 ≤ offset) :
    lineStart (text.before offset) ≤ offset := by
  have bounded := lineStart_le_length (text.before offset)
  rw [text.before_eq_take positive, List.length_take] at bounded
  rw [text.before_eq_take positive]
  omega

/-- The line of an offset does not end before it: it would start later if it did. -/
theorem not_mem_slice_lineStart (text : Text) (positive : 0 ≤ offset) :
    '\n' ∉ text.slice (lineStart (text.before offset)) offset := by
  intro broken
  have ordered := text.lineStart_before_le positive
  have later := lineStart_append_of_mem (text.before (lineStart (text.before offset))) broken
  rw [text.before_append_slice (Int.natCast_nonneg _) ordered] at later
  have front := lineStart_le_length (text.before (lineStart (text.before offset)))
  have starts := List.mem_of_getElem? (text.getElem?_lineStarts offset)
  rw [text.before_eq_take (Int.natCast_nonneg _), Int.toNat_natCast] at later front
  rw [lineStart_take_of_mem starts] at front
  have further := lineStart_pos broken
  omega

theorem isPlace_position (text : Text) (positive : 0 ≤ offset) :
    text.IsPlace offset (text.position offset) := by
  have ordered := text.lineStart_before_le positive
  refine ⟨_, _, rfl, text.getElem?_lineStarts offset, Int.sub_nonneg.mpr ordered, ?_,
    text.not_mem_slice_lineStart positive⟩
  simp only [position]
  omega

theorem IsPlace.eq_position {text : Text} (isPlace : text.IsPlace offset place) :
    place = text.position offset := by
  obtain ⟨line, start, lined, starts, column, same, unbroken⟩ := isPlace
  have whole := text.before_append_slice (Int.natCast_nonneg start) (by omega : start ≤ offset)
  rw [text.before_eq_take (Int.natCast_nonneg start), Int.toNat_natCast] at whole
  have count : (text.before offset).count '\n' = line := by
    rw [← whole, List.count_append, count_take_of_getElem? starts,
      List.count_eq_zero.mpr unbroken, Nat.add_zero]
  have front : lineStart (text.before offset) = start := by
    rw [← whole, lineStart_append_of_not_mem _ unbroken,
      lineStart_take_of_mem (List.mem_of_getElem? starts)]
  obtain ⟨_, _⟩ := place
  rw [position, count, front, Position.mk.injEq]
  dsimp only at lined same
  omega

/-- An offset has one place, and it is the one that is found for it. -/
theorem isPlace_iff (text : Text) (positive : 0 ≤ offset) :
    text.IsPlace offset place ↔ place = text.position offset := by
  constructor
  · exact IsPlace.eq_position
  · rintro rfl
    exact text.isPlace_position positive

/-- A later offset has a later place: it is further to the right, or a newline stands between. -/
theorem position_lt_position (text : Text) (positive : 0 ≤ left) (before : left < right) :
    text.position left < text.position right := by
  have whole := text.before_append_slice positive (Int.le_of_lt before)
  rw [Position.lt_iff, position, position, ← whole, List.count_append]
  by_cases broken : '\n' ∈ text.slice left right
  · have passed := List.count_pos_iff.mpr broken
    left
    dsimp only
    omega
  · right
    rw [List.count_eq_zero.mpr broken, lineStart_append_of_not_mem _ broken]
    dsimp only
    omega

/-- Places are in the order of their offsets. -/
theorem position_lt_iff (text : Text) (leftPositive : 0 ≤ left) (rightPositive : 0 ≤ right) :
    text.position left < text.position right ↔ left < right := by
  refine ⟨fun before => Int.not_le.mp fun late => ?_, text.position_lt_position leftPositive⟩
  rcases Int.lt_or_eq_of_le late with late | rfl
  · exact Position.not_lt_of_lt before (text.position_lt_position rightPositive late)
  · exact Position.not_lt_of_lt before before

/-- Places tell offsets. The one place that leads to an offset, by the start of a line of the text
and a column that goes no further than that line, is the place found for it; and one offset is less
than another when its place comes first, line by line and then column by column. This is so behind
the end of the text too. -/
theorem position_tells_offset (text : Text) (leftPositive : 0 ≤ left)
    (rightPositive : 0 ≤ right) :
    (∀ place, text.IsPlace left place ↔ place = text.position left) ∧
      (left < right ↔ text.position left < text.position right) :=
  ⟨fun _ => text.isPlace_iff leftPositive,
    (text.position_lt_iff leftPositive rightPositive).symm⟩

/-- A text of three lines, the second of them empty. -/
def blankSecond : Text := "ab\n\ncd".toList

/-- The newline that ends the second line stands on that line and not on the third. -/
theorem position_tells_offset_blankSecond :
    (0 : Int) ≤ 3 ∧ (0 : Int) ≤ 6 ∧
      (∀ place, blankSecond.IsPlace 3 place ↔ place = ⟨2, 0⟩) ∧
      blankSecond.position 6 = ⟨3, 2⟩ ∧ blankSecond.position 3 < blankSecond.position 6 := by
  have leftPositive : (0 : Int) ≤ 3 := by decide
  have rightPositive : (0 : Int) ≤ 6 := by decide
  obtain ⟨places, ordered⟩ := blankSecond.position_tells_offset leftPositive rightPositive
  have here : blankSecond.position 3 = ⟨2, 0⟩ := by decide +kernel
  exact ⟨leftPositive, rightPositive, here ▸ places, by decide +kernel, ordered.mp (by decide)⟩

end Text

end TagOrder
