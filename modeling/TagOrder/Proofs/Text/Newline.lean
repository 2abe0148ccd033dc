import TagOrder.Proofs.Text.Slice
import TagOrder.Text.Utf8

/-!
# Line endings

A text is read with every line ending made a newline, and `Text.units` are the pieces of it that
become one character each; so an offset into what is read tells of a unit. A text that differs from
what is read at some offsets at most has kept the units elsewhere just where none of them was ended
by a carriage return (`Text.SameExcept.sameAround_iff`).
-/

namespace TagOrder

/-- The pieces of a text that are read as one character each: a carriage return makes one with the
newline after it. -/
def Text.units : Text -> List Text
  | [] => []
  | '\r' :: '\n' :: rest => ['\r', '\n'] :: Text.units rest
  | c :: rest => [c] :: Text.units rest

/-- Each unit is read as one character. -/
theorem Text.map_unifyNewlines_units (text : Text) :
    text.units.map Text.unifyNewlines = text.unifyNewlines.map fun c => [c] := by
  fun_induction Text.unifyNewlines text with
  | case1 => rfl
  | case2 rest ih => rw [Text.units, List.map_cons, ih]; rfl
  | case3 rest lone ih =>
    rw [Text.units, List.map_cons, ih]
    · rfl
    · exact fun other _ => lone other
  | case4 c rest _ plain ih =>
    have alone : Text.unifyNewlines [c] = [c] := by
      rw [Text.unifyNewlines]
      · rfl
      · exact fun _ _ pair => nomatch pair
      · exact plain
    rw [Text.units, List.map_cons, ih, alone]
    · rfl
    · exact fun other same => absurd same plain

/-- What is read holds no carriage return. -/
theorem Text.not_mem_unifyNewlines (text : Text) : '\r' ∉ text.unifyNewlines := by
  fun_induction Text.unifyNewlines text with
  | case1 => exact List.not_mem_nil
  | case2 rest ih => exact List.not_mem_cons_of_ne_of_not_mem (by decide) ih
  | case3 rest lone ih => exact List.not_mem_cons_of_ne_of_not_mem (by decide) ih
  | case4 c rest _ plain ih => exact List.not_mem_cons_of_ne_of_not_mem (Ne.symm plain) ih

/-- A text is read as it is just when it holds no carriage return. -/
theorem Text.unifyNewlines_eq_self_iff {text : Text} :
    text.unifyNewlines = text ↔ '\r' ∉ text := by
  refine ⟨fun same => same ▸ text.not_mem_unifyNewlines, fun none => ?_⟩
  fun_induction Text.unifyNewlines text with
  | case1 => rfl
  | case2 rest ih => exact absurd List.mem_cons_self none
  | case3 rest lone ih => exact absurd List.mem_cons_self none
  | case4 c rest _ plain ih => rw [ih (List.not_mem_of_not_mem_cons none)]

/-- The units of a text without carriage returns are its characters. -/
theorem Text.units_eq_map {text : Text} (none : '\r' ∉ text) :
    text.units = text.map fun c => [c] := by
  fun_induction Text.units text with
  | case1 => rfl
  | case2 rest ih => exact absurd List.mem_cons_self none
  | case3 c rest _ ih => rw [ih (List.not_mem_of_not_mem_cons none), List.map_cons]

/-- Two texts with the same units wherever nothing is covered. -/
def Text.SameAround (covered : Nat -> Prop) (left right : Text) : Prop :=
  ∀ offset : Nat, ¬ covered offset → right.units[offset]? = left.units[offset]?

namespace Text.SameExcept

variable {covered : Nat -> Prop} {raw text : Text}

/-- A text that differs from what is read at some offsets at most has the units elsewhere as they
are read. -/
theorem units_eq (same : Text.SameExcept covered raw.unifyNewlines text) (none : '\r' ∉ text)
    {offset : Nat} (clear : ¬ covered offset) :
    text.units[offset]? = raw.units[offset]?.map Text.unifyNewlines := by
  rw [Text.units_eq_map none, List.getElem?_map, same.elsewhere offset clear, ← List.getElem?_map,
    ← Text.map_unifyNewlines_units, List.getElem?_map]

/-- It has kept these units just when none of them holds a carriage return. -/
theorem sameAround_iff (same : Text.SameExcept covered raw.unifyNewlines text)
    (none : '\r' ∉ text) :
    Text.SameAround covered raw text ↔
      ∀ offset : Nat, ¬ covered offset → ∀ unit ∈ raw.units[offset]?, '\r' ∉ unit := by
  refine forall_congr' fun offset => forall_congr' fun clear => ?_
  rw [same.units_eq none clear]
  cases raw.units[offset]? with
  | none => simp
  | some unit => simp [Text.unifyNewlines_eq_self_iff]

end Text.SameExcept

end TagOrder
