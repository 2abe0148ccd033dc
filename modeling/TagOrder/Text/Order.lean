import TagOrder.Text.Surrogate

/-!
# Order of strings

Strings stand in the order of their code points, one after the other; of two strings of which one
begins the other, the shorter comes first.
-/

namespace TagOrder

/-- The code points of a string. -/
def codePoints (string : String) : List Nat := string.toList.map codePoint

/-- Whether one string comes before another. -/
def precedes (left right : String) : Bool := decide (codePoints left < codePoints right)

/-- Strings in ascending order. -/
def sortStrings (strings : List String) : List String :=
  strings.mergeSort fun left right => !precedes right left

/-- Two strings with the same code points are the same. -/
theorem codePoints_injective {left right : String} (same : codePoints left = codePoints right) :
    left = right :=
  String.toList_injective ((List.map_inj_right fun _ _ => codePoint_injective).mp same)

/-- No string comes before itself. -/
theorem precedes_irrefl (string : String) : precedes string string = false := by
  simp [precedes]

/-- What comes before a string comes before all that the string comes before. -/
theorem precedes_trans {first second third : String} (before : precedes first second = true)
    (after : precedes second third = true) : precedes first third = true := by
  simp only [precedes, decide_eq_true_eq] at before after ⊢
  exact List.lt_trans before after

/-- Of two different strings one comes before the other. -/
theorem precedes_of_ne {left right : String} (distinct : left ≠ right) :
    precedes left right = true ∨ precedes right left = true := by
  simp only [precedes, decide_eq_true_eq]
  have unequal : codePoints left ≠ codePoints right :=
    fun same => distinct (codePoints_injective same)
  by_cases before : codePoints left < codePoints right
  · exact .inl before
  · by_cases after : codePoints right < codePoints left
    · exact .inr after
    · exact absurd (List.le_antisymm (List.not_lt.mp after) (List.not_lt.mp before)) unequal

end TagOrder
