import Mathlib.Data.List.TakeWhile
import TagOrder.Proofs.Rule.Standard

/-!
# Templates written from segments

A message is planned as segments: literal text, the two keys, and fields of other names. Written as
a template (`Template.written`), with the braces of literal text doubled, the segments are read back
one for one, whatever stands next to what (`Template.piecesOf_written`). So the message is what was
planned, with the keys put in as they are, or the standard one when a field of another name is
asked for (`Template.message_written`).
-/

namespace TagOrder

namespace Template

/-- The characters that end a name or go on from it. -/
def nameMarks : List Char := ['\x7b', '\x7d', '[', '.', ':', '!']

/-- A name of a field that nobody supplies. It holds no mark of the template language and starts
with no digit, as is so of every identifier. -/
structure OtherName where
  name : Text
  plain : ∀ c ∈ name, c ∉ nameMarks
  undigited : ∀ c ∈ name.head?, digitValue? c = none
  notCurrent : name ≠ "current".toList
  notPrevious : name ≠ "previous".toList

/-- A part of a message as it is planned. -/
inductive Segment where
  | literal (text : Text)
  | current
  | previous
  | other (name : OtherName)

/-- A character of literal text as a template writes it. -/
def doubled (c : Char) : Text := if c = '\x7b' ∨ c = '\x7d' then [c, c] else [c]

/-- A name between braces. -/
def braced (name : Text) : Text := '\x7b' :: name ++ ['\x7d']

namespace Segment

/-- A segment as a template writes it. -/
def written : Segment -> Text
  | literal text => text.flatMap doubled
  | current => braced "current".toList
  | previous => braced "previous".toList
  | other name => braced name.name

/-- The pieces that a segment is read back as. -/
def pieces : Segment -> List TemplatePiece
  | literal text => literals text
  | current => [bareField "current".toList]
  | previous => [bareField "previous".toList]
  | other name => [bareField name.name]

/-- Whether a segment is a field of another name. -/
def isOther : Segment -> Bool
  | other _ => true
  | _ => false

/-- What a segment puts into a message. A field of another name has nothing to put in. -/
def filled (keys : MessageKeys) : Segment -> Text
  | literal text => text
  | current => keys.current
  | previous => keys.previous
  | other _ => []

end Segment

/-- The template of some segments. -/
def written (segments : List Segment) : Text := segments.flatMap Segment.written

/-- Whether a template is read as some pieces, given at least as much fuel as it is long. -/
def ReadsAs (template : Text) (pieces : List TemplatePiece) : Prop :=
  ∀ fuel, template.length ≤ fuel → templatePieces fuel template = pieces

section Reading

variable {rest : Text} {pieces : List TemplatePiece}

theorem readsAs_nil : ReadsAs [] [] := by
  intro fuel _
  cases fuel with
  | zero => rfl
  | succ fuel => rfl

/-- A template that is not empty is read with one step to spare. -/
theorem readsAs_of_succ {c : Char}
    (reads : ∀ fuel, rest.length ≤ fuel → templatePieces (fuel + 1) (c :: rest) = pieces) :
    ReadsAs (c :: rest) pieces := by
  intro fuel enough
  rw [List.length_cons] at enough
  obtain ⟨fuel, rfl⟩ := Nat.exists_eq_add_one_of_ne_zero (n := fuel) (by omega)
  exact reads fuel (by omega)

/-- A brace written twice is read as one, and any other character as itself. -/
theorem ReadsAs.doubled_append (c : Char) (reads : ReadsAs rest pieces) :
    ReadsAs (doubled c ++ rest) (.literal c :: pieces) := by
  by_cases opens : c = '\x7b'
  · subst opens
    change ReadsAs ('\x7b' :: '\x7b' :: rest) _
    refine readsAs_of_succ fun fuel enough => ?_
    rw [templatePieces, reads fuel (Nat.le_of_succ_le enough)]
  by_cases closes : c = '\x7d'
  · subst closes
    change ReadsAs ('\x7d' :: '\x7d' :: rest) _
    refine readsAs_of_succ fun fuel enough => ?_
    rw [templatePieces, reads fuel (Nat.le_of_succ_le enough)]
  have single : doubled c = [c] := if_neg (by simp [opens, closes])
  rw [single, List.singleton_append]
  refine readsAs_of_succ fun fuel enough => ?_
  simp [templatePieces, opens, closes, reads fuel enough]

theorem ReadsAs.literal_append (text : Text) (reads : ReadsAs rest pieces) :
    ReadsAs (text.flatMap doubled ++ rest) (literals text ++ pieces) := by
  induction text with
  | nil => exact reads
  | cons c text ih =>
    rw [List.flatMap_cons, List.append_assoc]
    exact ih.doubled_append c

/-- A name without marks is read up to the brace that closes its field. -/
theorem readFieldName_append {name : Text} (plain : ∀ c ∈ name, c ∉ nameMarks) (rest : Text) :
    readFieldName false (name ++ '\x7d' :: rest) = .ok (name, '\x7d', rest) := by
  induction name with
  | nil => rfl
  | cons c name ih =>
    obtain ⟨here, later⟩ := List.forall_mem_cons.mp plain
    simp only [nameMarks, List.mem_cons, List.not_mem_nil, or_false, not_or] at here
    obtain ⟨opens, closes, bracket, -, colon, mark⟩ := here
    have inside : (c == '[') = false := beq_eq_false_iff_ne.mpr bracket
    rw [List.cons_append, readFieldName]
    simp [opens, closes, colon, mark, inside, ih later]

theorem readField_append {name : Text} (plain : ∀ c ∈ name, c ∉ nameMarks) (rest : Text) :
    readField (name ++ '\x7d' :: rest) = .ok (⟨name, none, []⟩, rest) := by
  rw [readField, readFieldName_append plain]
  rfl

/-- A name without marks between braces is read as a field of that name. -/
theorem ReadsAs.braced_append {name : Text} (plain : ∀ c ∈ name, c ∉ nameMarks)
    (reads : ReadsAs rest pieces) :
    ReadsAs (braced name ++ rest) (bareField name :: pieces) := by
  have shape : braced name ++ rest = '\x7b' :: (name ++ '\x7d' :: rest) := by simp [braced]
  rw [shape]
  refine readsAs_of_succ fun fuel enough => ?_
  have left : rest.length ≤ fuel := by
    simp only [List.length_append, List.length_cons] at enough
    omega
  have field : templatePieces (fuel + 1) ('\x7b' :: (name ++ '\x7d' :: rest)) =
      bareField name :: templatePieces fuel rest := by
    have read := readField_append plain rest
    cases name with
    | nil => rfl
    | cons c name =>
      -- No name starts with a brace, so the one in front of it is not doubled.
      have opens : c ≠ '\x7b' := by
        rintro rfl
        exact plain _ List.mem_cons_self (by decide)
      rw [List.cons_append] at read
      simp [templatePieces, opens, read, bareField]
  rw [field, reads fuel left]

theorem ReadsAs.segment_append (segment : Segment) (reads : ReadsAs rest pieces) :
    ReadsAs (segment.written ++ rest) (segment.pieces ++ pieces) := by
  cases segment with
  | literal text => exact reads.literal_append text
  | current => exact reads.braced_append (by simp [nameMarks])
  | previous => exact reads.braced_append (by simp [nameMarks])
  | other name => exact reads.braced_append name.plain

theorem readsAs_written (segments : List Segment) :
    ReadsAs (written segments) (segments.flatMap Segment.pieces) := by
  induction segments with
  | nil => exact readsAs_nil
  | cons segment rest ih =>
    rw [written, List.flatMap_cons, List.flatMap_cons]
    exact ih.segment_append segment

/-- The template of some segments is read back as they are. -/
theorem piecesOf_written (segments : List Segment) :
    piecesOf (written segments) = segments.flatMap Segment.pieces :=
  readsAs_written segments _ (Nat.le_refl _)

end Reading

section Filling

variable (expand : Text -> Except FillError Text) (keys : MessageKeys)

/-- A name that starts with no digit is no number. -/
theorem numeral?_of_undigited {name : Text} (undigited : ∀ c ∈ name.head?, digitValue? c = none) :
    numeral? name = .ok none := by
  cases name with
  | nil => rfl
  | cons c name =>
    have none : digitValue? c = none := undigited c rfl
    simp [numeral?, takeNumeral, none]

/-- No key stands under another name. -/
theorem lookup_other (name : OtherName) : lookup keys name.name = .error .missing := by
  rw [lookup, numeral?_of_undigited name.undigited]
  change (if name.name = "current".toList then _ else _) = _
  rw [if_neg name.notCurrent, if_neg name.notPrevious]
  rfl

theorem fieldItem_other (name : OtherName) :
    fieldItem keys { name := name.name, conversion := none, shape := [] } = .error .missing := by
  have stem : (name.name.takeWhile fun c => c != '.' && c != '[') = name.name := by
    refine List.takeWhile_eq_self_iff.mpr fun c member => ?_
    have plain := name.plain c member
    simp only [nameMarks, List.mem_cons, List.not_mem_nil, or_false, not_or] at plain
    simp [plain]
  unfold fieldItem
  dsimp only
  rw [stem, lookup_other]
  rfl

theorem fillPieces_segment_append {segment : Segment} (known : segment.isOther = false)
    (rest : List TemplatePiece) :
    fillPieces expand keys (segment.pieces ++ rest) =
      (fillPieces expand keys rest).map (segment.filled keys ++ ·) := by
  cases segment with
  | literal text => exact fillPieces_literals_append expand keys text rest
  | current => exact fillPieces_cons_bareField expand keys (fieldItem_current keys) rest
  | previous => exact fillPieces_cons_bareField expand keys (fieldItem_previous keys) rest
  | other name => cases known

/-- Segments are filled in one by one, up to a field of another name. -/
theorem fillPieces_segments (segments : List Segment) :
    fillPieces expand keys (segments.flatMap Segment.pieces) =
      if segments.any Segment.isOther then .error .missing
      else .ok (segments.flatMap (Segment.filled keys)) := by
  induction segments with
  | nil => rfl
  | cons segment rest ih =>
    rw [List.flatMap_cons, List.any_cons]
    cases known : segment.isOther with
    | false =>
      rw [fillPieces_segment_append expand keys known, ih, Bool.false_or, List.flatMap_cons]
      split <;> rfl
    | true =>
      cases segment with
      | other name =>
        rw [Segment.pieces, List.singleton_append, bareField, fillPieces, fieldItem_other]
        rfl
      | _ => cases known

theorem fill_written (segments : List Segment) :
    fill (written segments) keys =
      if segments.any Segment.isOther then .error .missing
      else .ok (segments.flatMap (Segment.filled keys)) := by
  rw [fill, fillWithin, piecesOf_written, fillPieces_segments]

/-- The message of a template that is written from segments: their texts and the keys one after
another as they are, or the standard message when a field of another name is asked for. -/
theorem message_written (segments : List Segment) (keys : MessageKeys) :
    message (written segments) keys =
      .ok (if segments.any Segment.isOther then standardMessage keys
        else segments.flatMap (Segment.filled keys)) := by
  rw [message, fill_written]
  cases segments.any Segment.isOther <;> rfl

/-- Braces next to a field, and braces in a key, are put in as they are. -/
example : message (written [.literal ['\x7b'], .current]) ⟨"\x7bprevious\x7d".toList, []⟩ =
    .ok "\x7b\x7bprevious\x7d".toList := by decide

end Filling

end Template

end TagOrder
