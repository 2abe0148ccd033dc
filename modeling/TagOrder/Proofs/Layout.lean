import TagOrder.Attribute
import TagOrder.Proofs.Text.Slice

/-!
# Attributes laid out in a text

`Laid text floor nodes` says that attributes stand in a text from an offset on: in source order,
each over a range of its own that is not empty and holds its text. `gaps` reads the strings that
stand in front of each, `between` those between neighbours, and `weave` puts such strings and pieces
together, so that a laid out run of attributes is its texts with what stands between them
(`Laid.slice_eq_weave`).

`Attribute.Keyed` is what is asked of keys, apart from the layout, which never looks at them.
-/

namespace TagOrder

/-- Attributes stand in a text from an offset on, one after the other. -/
def Laid (text : Text) : Int -> List Attribute -> Prop
  | floor, [] => floor ≤ text.length
  | floor, node :: rest =>
    floor ≤ node.range.start ∧ node.range.start < node.range.stop ∧
      node.text = node.range.of text ∧ Laid text node.range.stop rest

/-- Where attributes that stand from an offset on come to their end. -/
def reach : Int -> List Attribute -> Int
  | floor, [] => floor
  | _, node :: rest => reach node.range.stop rest

/-- The string in front of each attribute, from an offset on. -/
def gaps (text : Text) : Int -> List Attribute -> List Text
  | _, [] => []
  | floor, node :: rest => text.slice floor node.range.start :: gaps text node.range.stop rest

/-- The strings between neighbouring attributes. -/
def between (text : Text) : List Attribute -> List Text
  | [] => []
  | first :: rest => gaps text first.range.stop rest

/-- Pieces, each with a string in front of it. -/
def weave : List Text -> List Text -> Text
  | gap :: gaps, piece :: pieces => gap ++ piece ++ weave gaps pieces
  | _, _ => []

/-- Pieces with a string between every two neighbours. -/
def interleave (pieces gaps : List Text) : Text := weave ([] :: gaps) pieces

/-- The key of an attribute lies in its range and holds its key text. -/
structure Attribute.Keyed (node : Attribute) (text : Text) : Prop where
  starts : node.range.start ≤ node.keyRange.start
  ordered : node.keyRange.start ≤ node.keyRange.stop
  stops : node.keyRange.stop ≤ node.range.stop
  reads : node.keyText = node.keyRange.of text

instance Attribute.Keyed.decidable (node : Attribute) (text : Text) :
    Decidable (node.Keyed text) :=
  decidable_of_iff
    (node.range.start ≤ node.keyRange.start ∧ node.keyRange.start ≤ node.keyRange.stop ∧
      node.keyRange.stop ≤ node.range.stop ∧ node.keyText = node.keyRange.of text)
    ⟨fun ⟨starts, ordered, stops, reads⟩ => ⟨starts, ordered, stops, reads⟩,
      fun keyed => ⟨keyed.starts, keyed.ordered, keyed.stops, keyed.reads⟩⟩

instance Laid.decidable (text : Text) : (floor : Int) -> (nodes : List Attribute) ->
    Decidable (Laid text floor nodes)
  | floor, [] => inferInstanceAs (Decidable (floor ≤ text.length))
  | floor, node :: rest =>
    have := Laid.decidable text node.range.stop rest
    inferInstanceAs (Decidable (floor ≤ node.range.start ∧ node.range.start < node.range.stop ∧
      node.text = node.range.of text ∧ Laid text node.range.stop rest))

@[simp] theorem reach_nil (floor : Int) : reach floor [] = floor := rfl

@[simp] theorem reach_cons (floor : Int) (node : Attribute) (rest : List Attribute) :
    reach floor (node :: rest) = reach node.range.stop rest := rfl

theorem reach_append (floor : Int) (front back : List Attribute) :
    reach floor (front ++ back) = reach (reach floor front) back := by
  induction front generalizing floor with
  | nil => rfl
  | cons node rest ih => exact ih node.range.stop

/-- The end of attributes does not depend on what may stand before them. -/
theorem reach_of_ne_nil {nodes : List Attribute} (some : nodes ≠ []) (floor other : Int) :
    reach floor nodes = reach other nodes := by
  cases nodes with
  | nil => exact absurd rfl some
  | cons node rest => rfl

/-- Attributes end where the last one does. -/
theorem reach_of_getLast? {nodes : List Attribute} {last : Attribute}
    (atEnd : nodes.getLast? = some last) (floor : Int) : reach floor nodes = last.range.stop := by
  obtain ⟨front, rfl⟩ := List.getLast?_eq_some_iff.mp atEnd
  rw [reach_append]
  rfl

@[simp] theorem length_gaps (text : Text) (floor : Int) (nodes : List Attribute) :
    (gaps text floor nodes).length = nodes.length := by
  induction nodes generalizing floor with
  | nil => rfl
  | cons node rest ih => simp [gaps, ih]

theorem gaps_append (text : Text) (floor : Int) (front back : List Attribute) :
    gaps text floor (front ++ back) =
      gaps text floor front ++ gaps text (reach floor front) back := by
  induction front generalizing floor with
  | nil => rfl
  | cons node rest ih => simp [gaps, ih]

/-- A weaving holds the characters of its strings and of its pieces. -/
theorem weave_perm {strings pieces : List Text} (paired : strings.length = pieces.length) :
    (weave strings pieces).Perm (strings.flatten ++ pieces.flatten) := by
  induction pieces generalizing strings with
  | nil => simp [weave, List.eq_nil_of_length_eq_zero paired]
  | cons piece rest ih =>
    obtain ⟨string, strings, rfl⟩ := List.exists_cons_of_length_eq_add_one paired
    rw [weave, List.flatten_cons, List.flatten_cons, List.append_assoc, List.append_assoc]
    refine List.Perm.append_left _ ?_
    exact ((ih (by simpa using paired)).append_left piece).trans (List.perm_append_comm_assoc _ _ _)

/-- An interleaving holds the same characters when its pieces come in another order. -/
theorem interleave_perm {pieces others gaps : List Text} (same : pieces.Perm others)
    (paired : gaps.length + 1 = pieces.length) :
    (interleave pieces gaps).Perm (interleave others gaps) := by
  refine (weave_perm (by simpa using paired)).trans (.trans ?_ (weave_perm ?_).symm)
  · exact same.flatten.append_left _
  · rw [← same.length_eq, ← paired, List.length_cons]

namespace Laid

variable {text other : Text} {floor : Int} {nodes front back : List Attribute} {node : Attribute}

/-- Attributes end behind where they may start, and inside the text. -/
theorem reach_bounds (laid : Laid text floor nodes) :
    floor ≤ reach floor nodes ∧ reach floor nodes ≤ text.length := by
  induction nodes generalizing floor with
  | nil => exact ⟨Int.le_refl _, laid⟩
  | cons node rest ih =>
    obtain ⟨above, ordered, reads, behind⟩ := laid
    have bounds := ih behind
    simp only [reach_cons]
    omega

/-- A layout of two runs is a layout of each, the second behind the first. -/
theorem append_iff :
    Laid text floor (front ++ back) ↔
      Laid text floor front ∧ Laid text (reach floor front) back := by
  induction front generalizing floor with
  | nil =>
    constructor
    · intro laid
      have bounds := reach_bounds laid
      exact ⟨by change floor ≤ text.length; exact Int.le_trans bounds.1 bounds.2, laid⟩
    · exact fun both => both.2
  | cons node rest ih =>
    simp only [List.cons_append, Laid, reach_cons, ih]
    constructor
    · rintro ⟨above, ordered, reads, first, second⟩
      exact ⟨⟨above, ordered, reads, first⟩, second⟩
    · rintro ⟨⟨above, ordered, reads, first⟩, second⟩
      exact ⟨above, ordered, reads, first, second⟩

/-- Attributes stay laid out when they may start earlier. -/
theorem lower (laid : Laid text floor nodes) {lower : Int} (below : lower ≤ floor) :
    Laid text lower nodes := by
  cases nodes with
  | nil => exact Int.le_trans below laid
  | cons node rest => exact ⟨Int.le_trans below laid.1, laid.2⟩

/-- What a layout says about each of its attributes. -/
theorem of_mem (laid : Laid text floor nodes) (member : node ∈ nodes) :
    floor ≤ node.range.start ∧ node.range.start < node.range.stop ∧
      node.range.stop ≤ reach floor nodes ∧ node.text = node.range.of text := by
  induction nodes generalizing floor with
  | nil => simp at member
  | cons first rest ih =>
    obtain ⟨above, ordered, reads, behind⟩ := laid
    rcases List.mem_cons.mp member with rfl | member
    · exact ⟨above, ordered, (reach_bounds behind).1, reads⟩
    · obtain ⟨restAbove, restRest⟩ := ih behind member
      exact ⟨by omega, restRest⟩

/-- The text of an attribute is as long as its range. -/
theorem length_text (laid : Laid text floor nodes) (positive : 0 ≤ floor)
    (member : node ∈ nodes) : (node.text.length : Int) = node.range.stop - node.range.start := by
  obtain ⟨above, ordered, within, reads⟩ := laid.of_mem member
  have bounds := laid.reach_bounds
  rw [reads]
  exact Text.length_slice text (by omega) (by omega) (by omega)

/-- No two attributes of a layout are equal. -/
theorem nodup (laid : Laid text floor nodes) : nodes.Nodup := by
  induction nodes generalizing floor with
  | nil => exact .nil
  | cons node rest ih =>
    obtain ⟨above, ordered, reads, behind⟩ := laid
    refine List.nodup_cons.mpr ⟨fun member => ?_, ih behind⟩
    have after := (behind.of_mem member).1
    omega

/-- A layout is decided by the characters that it covers. -/
theorem congr (laid : Laid text floor nodes) (positive : 0 ≤ floor)
    (length : other.length = text.length)
    (same : ∀ offset : Nat, floor ≤ offset → offset < reach floor nodes →
      other[offset]? = text[offset]?) : Laid other floor nodes := by
  induction nodes generalizing floor with
  | nil => rw [Laid, length]; exact laid
  | cons node rest ih =>
    obtain ⟨above, ordered, reads, behind⟩ := laid
    have bounds := reach_bounds behind
    refine ⟨above, ordered, ?_, ih behind (by omega) fun offset start stop =>
      same offset (by omega) stop⟩
    rw [reads]
    refine (Text.slice_congr (by omega) (by omega) fun offset start stop => ?_).symm
    exact same offset (by omega) (by simp only [reach_cons]; omega)

/-- The strings in front of attributes are decided by the characters that a layout covers. -/
theorem gaps_congr (laid : Laid text floor nodes) (positive : 0 ≤ floor)
    (same : ∀ offset : Nat, floor ≤ offset → offset < reach floor nodes →
      other[offset]? = text[offset]?) : gaps other floor nodes = gaps text floor nodes := by
  induction nodes generalizing floor with
  | nil => rfl
  | cons node rest ih =>
    obtain ⟨above, ordered, reads, behind⟩ := laid
    have bounds := reach_bounds behind
    have tail := ih behind (by omega) fun offset start stop => same offset (by omega) stop
    simp only [gaps, tail]
    congr 1
    refine Text.slice_congr positive above fun offset start stop => ?_
    exact same offset start (by simp only [reach_cons]; omega)

/-- A run of attributes covers its texts, each with the string in front of it. -/
theorem slice_eq_weave (laid : Laid text floor nodes) (positive : 0 ≤ floor) :
    text.slice floor (reach floor nodes) =
      weave (gaps text floor nodes) (nodes.map (·.text)) := by
  induction nodes generalizing floor with
  | nil =>
    rw [reach_nil, Text.slice_eq_drop_take text positive (Int.le_refl _)]
    exact List.drop_of_length_le (List.length_take_le _ _)
  | cons node rest ih =>
    obtain ⟨above, ordered, reads, behind⟩ := laid
    have bounds := reach_bounds behind
    have tail := ih behind (by omega)
    rw [List.map_cons, gaps, weave, ← tail, reads, Span.of, reach_cons,
      Text.slice_append_slice text positive above (by omega),
      Text.slice_append_slice text positive (by omega) bounds.1]

/-- A run of attributes, from the start of the first one on, is the interleaving of its texts with
what stands between them. -/
theorem slice_eq_interleave (laid : Laid text floor (node :: back)) (positive : 0 ≤ floor) :
    text.slice node.range.start (reach floor (node :: back)) =
      interleave ((node :: back).map (·.text)) (between text (node :: back)) := by
  obtain ⟨above, ordered, reads, behind⟩ := laid
  have bounds := reach_bounds behind
  rw [reach_cons, ← Text.slice_append_slice text (by omega) (Int.le_of_lt ordered) bounds.1,
    slice_eq_weave behind (by omega)]
  simp [interleave, weave, between, reads, Span.of]

end Laid

end TagOrder
