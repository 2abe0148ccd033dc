import TagOrder.Span

/-!
# Slices as pieces of a text

Offsets that are not negative cut a text where `List.take` and `List.drop` do, so slices obey the
laws of those two. `Text.before_append_after` and `Text.before_append_slice` put the pieces of a
text together again; the lemmas on appended texts read a piece back from the text that it was put
into.
-/

namespace TagOrder

/-- An offset that is not negative counts from the front of a text. -/
theorem Text.before_eq_take (text : Text) {offset : Int} (positive : 0 ≤ offset) :
    text.before offset = text.take offset.toNat := by
  unfold Text.before clampOffset
  rw [if_neg (by omega), ← List.take_eq_take_min]

/-- What follows an offset that is not negative. -/
theorem Text.after_eq_drop (text : Text) {offset : Int} (positive : 0 ≤ offset) :
    text.after offset = text.drop offset.toNat := by
  unfold Text.after clampOffset
  rw [if_neg (by omega)]
  by_cases inside : offset.toNat ≤ text.length
  · rw [Nat.min_eq_left inside]
  · rw [Nat.min_eq_right (by omega), List.drop_length, List.drop_of_length_le (by omega)]

/-- A slice between two offsets that are not negative. -/
theorem Text.slice_eq_drop_take (text : Text) {start stop : Int} (positive : 0 ≤ start)
    (ordered : start ≤ stop) :
    text.slice start stop = (text.take stop.toNat).drop start.toNat := by
  unfold Text.slice clampOffset
  rw [Text.before_eq_take text (by omega), if_neg (by omega)]
  by_cases inside : start.toNat ≤ text.length
  · rw [Nat.min_eq_left inside]
  · have short : (text.take stop.toNat).length ≤ text.length := List.length_take_le' _ _
    rw [Nat.min_eq_right (by omega), List.drop_of_length_le short,
      List.drop_of_length_le (by omega)]

/-- A text is cut in two at every offset. -/
theorem Text.before_append_after (text : Text) (offset : Int) :
    text.before offset ++ text.after offset = text :=
  List.take_append_drop _ _

theorem Text.after_zero (text : Text) : text.after 0 = text := by
  rw [Text.after_eq_drop text (Int.le_refl 0), Int.toNat_zero, List.drop_zero]

theorem Text.length_before (text : Text) {offset : Int} (positive : 0 ≤ offset)
    (bounded : offset ≤ text.length) : ((text.before offset).length : Int) = offset := by
  rw [Text.before_eq_take text positive, List.length_take]
  omega

theorem Text.length_after (text : Text) {offset : Int} (positive : 0 ≤ offset)
    (bounded : offset ≤ text.length) :
    ((text.after offset).length : Int) = text.length - offset := by
  rw [Text.after_eq_drop text positive, List.length_drop]
  omega

theorem Text.length_slice (text : Text) {start stop : Int} (positive : 0 ≤ start)
    (ordered : start ≤ stop) (bounded : stop ≤ text.length) :
    ((text.slice start stop).length : Int) = stop - start := by
  rw [Text.slice_eq_drop_take text positive ordered, List.length_drop, List.length_take]
  omega

/-- What stands before an offset goes on with the slice that begins there. -/
theorem Text.before_append_slice (text : Text) {start stop : Int} (positive : 0 ≤ start)
    (ordered : start ≤ stop) :
    text.before start ++ text.slice start stop = text.before stop := by
  rw [Text.before_eq_take text positive, Text.before_eq_take text (by omega),
    Text.slice_eq_drop_take text positive ordered]
  have shorter : text.take start.toNat = (text.take stop.toNat).take start.toNat := by
    rw [List.take_take, Nat.min_eq_left (by omega)]
  rw [shorter, List.take_append_drop]

/-- Neighbouring slices make one slice. -/
theorem Text.slice_append_slice (text : Text) {start middle stop : Int} (positive : 0 ≤ start)
    (first : start ≤ middle) (second : middle ≤ stop) :
    text.slice start middle ++ text.slice middle stop = text.slice start stop := by
  have whole : text.before start ++ (text.slice start middle ++ text.slice middle stop) =
      text.before start ++ text.slice start stop := by
    rw [← List.append_assoc, Text.before_append_slice text positive first,
      Text.before_append_slice text (by omega) second,
      Text.before_append_slice text positive (by omega)]
  exact List.append_cancel_left whole

/-- A slice goes on with what follows the offset where it ends. -/
theorem Text.slice_append_after (text : Text) {start stop : Int} (positive : 0 ≤ start)
    (ordered : start ≤ stop) : text.slice start stop ++ text.after stop = text.after start := by
  have whole : text.before start ++ (text.slice start stop ++ text.after stop) =
      text.before start ++ text.after start := by
    rw [← List.append_assoc, Text.before_append_slice text positive ordered,
      Text.before_append_after, Text.before_append_after]
  exact List.append_cancel_left whole

/-- A piece that was put into a text is read back from where it stands. -/
theorem Text.slice_append_middle (lead middle rest : Text) {start stop : Int}
    (starts : start = lead.length) (stops : stop = lead.length + middle.length) :
    (lead ++ middle ++ rest).slice start stop = middle := by
  have startNat : start.toNat = lead.length := by omega
  have stopNat : stop.toNat = (lead ++ middle).length := by rw [List.length_append]; omega
  rw [Text.slice_eq_drop_take _ (by omega) (by omega), stopNat, List.take_left, startNat,
    List.drop_left]

/-- What follows a piece that was put at the front. -/
theorem Text.after_append (lead rest : Text) {offset : Int} (starts : offset = lead.length) :
    (lead ++ rest).after offset = rest := by
  have offsetNat : offset.toNat = lead.length := by omega
  rw [Text.after_eq_drop _ (by omega), offsetNat, List.drop_left]

/-- What stands before the end of a piece that was put at the front. -/
theorem Text.before_append (lead rest : Text) {offset : Int} (starts : offset = lead.length) :
    (lead ++ rest).before offset = lead := by
  have offsetNat : offset.toNat = lead.length := by omega
  rw [Text.before_eq_take _ (by omega), offsetNat, List.take_left]

/-- The characters of a slice. -/
theorem Text.getElem?_slice (text : Text) {start stop : Int} (positive : 0 ≤ start)
    (ordered : start ≤ stop) (offset : Nat) :
    (text.slice start stop)[offset]? =
      if start.toNat + offset < stop.toNat then text[start.toNat + offset]? else none := by
  rw [Text.slice_eq_drop_take text positive ordered, List.getElem?_drop, List.getElem?_take]

/-- A slice is decided by the characters at the offsets that it covers. -/
theorem Text.slice_congr {left right : Text} {start stop : Int} (positive : 0 ≤ start)
    (ordered : start ≤ stop)
    (same : ∀ offset : Nat, start ≤ offset → offset < stop → right[offset]? = left[offset]?) :
    right.slice start stop = left.slice start stop := by
  apply List.ext_getElem?
  intro offset
  rw [Text.getElem?_slice _ positive ordered, Text.getElem?_slice _ positive ordered]
  split
  · exact same _ (by omega) (by omega)
  · rfl

/-- Two texts have the same characters wherever a slice of theirs is the same. -/
theorem Text.getElem?_of_slice_eq {left right : Text} {start stop : Int} (positive : 0 ≤ start)
    (same : right.slice start stop = left.slice start stop) {offset : Nat}
    (above : start ≤ offset) (below : offset < stop) : right[offset]? = left[offset]? := by
  have here := congrArg (fun slice : Text => slice[offset - start.toNat]?) same
  simp only [Text.getElem?_slice _ positive (by omega : start ≤ stop)] at here
  rw [if_pos (by omega), if_pos (by omega), Nat.add_sub_cancel' (by omega)] at here
  exact here

/-- A slice of a slice, both given by offsets into the whole text. -/
theorem Text.slice_slice (text : Text) {start inner outer stop : Int} (positive : 0 ≤ start)
    (after : start ≤ inner) (ordered : inner ≤ outer) (before : outer ≤ stop) :
    (text.slice start stop).slice (inner - start) (outer - start) = text.slice inner outer := by
  apply List.ext_getElem?
  intro offset
  rw [Text.getElem?_slice _ (by omega) (by omega), Text.getElem?_slice _ positive (by omega),
    Text.getElem?_slice _ (by omega) ordered]
  by_cases inside : inner.toNat + offset < outer.toNat
  · rw [if_pos inside, if_pos (by omega), if_pos (by omega)]
    congr 1
    omega
  · rw [if_neg inside, if_neg (by omega)]

/-- Whether an offset lies in a span. -/
def Span.Covers (span : Span) (offset : Nat) : Prop := span.start ≤ offset ∧ offset < span.stop

/-- Two texts of one length that differ at some offsets at most. -/
structure Text.SameExcept (covered : Nat -> Prop) (left right : Text) : Prop where
  length : right.length = left.length
  elsewhere : ∀ offset : Nat, ¬ covered offset → right[offset]? = left[offset]?

namespace Text.SameExcept

variable {covered : Nat -> Prop} {left middle right : Text}

theorem refl (covered : Nat -> Prop) (text : Text) : Text.SameExcept covered text text :=
  ⟨rfl, fun _ _ => rfl⟩

theorem trans (first : Text.SameExcept covered left middle)
    (second : Text.SameExcept covered middle right) : Text.SameExcept covered left right where
  length := second.length.trans first.length
  elsewhere := fun offset clear =>
    (second.elsewhere offset clear).trans (first.elsewhere offset clear)

/-- Texts that differ at some offsets at most differ at most at those and others. -/
theorem widen {wide : Nat -> Prop} (same : Text.SameExcept covered left right)
    (wider : ∀ offset, covered offset → wide offset) : Text.SameExcept wide left right where
  length := same.length
  elsewhere := fun offset clear => same.elsewhere offset fun inside => clear (wider offset inside)

/-- A slice that holds none of the offsets is the same in both texts. -/
theorem slice_eq (same : Text.SameExcept covered left right) {start stop : Int}
    (positive : 0 ≤ start) (ordered : start ≤ stop)
    (clear : ∀ offset : Nat, start ≤ offset → offset < stop → ¬ covered offset) :
    right.slice start stop = left.slice start stop :=
  Text.slice_congr positive ordered fun offset above below =>
    same.elsewhere offset (clear offset above below)

end Text.SameExcept

/-- Replacing a slice by a piece of the same length changes nothing outside the slice. -/
theorem Text.sameExcept_replace (text piece : Text) {start stop : Int} (positive : 0 ≤ start)
    (ordered : start ≤ stop) (bounded : stop ≤ text.length)
    (fits : (piece.length : Int) = stop - start) :
    Text.SameExcept (Span.Covers ⟨start, stop⟩) text
      (text.before start ++ piece ++ text.after stop) where
  length := by
    have front := text.length_before positive (by omega)
    have back : ((text.after stop).length : Int) = text.length - stop :=
      text.length_after (by omega) bounded
    rw [List.length_append, List.length_append]
    omega
  elsewhere := by
    intro offset clear
    have front := text.length_before positive (by omega)
    have place : (offset : Int) < start ∨ stop ≤ offset := by
      by_cases early : (offset : Int) < start
      · exact .inl early
      · exact .inr (Int.not_lt.mp fun late => clear ⟨Int.not_lt.mp early, late⟩)
    rcases place with early | late
    · rw [List.append_assoc, List.getElem?_append_left (by omega),
        Text.before_eq_take text positive, List.getElem?_take, if_pos (by omega)]
    · rw [List.getElem?_append_right (by rw [List.length_append]; omega), List.length_append,
        Text.after_eq_drop text (by omega), List.getElem?_drop]
      congr 1
      omega

end TagOrder
