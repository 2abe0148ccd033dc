/-!
# Totals

Sums of counts.
-/

namespace TagOrder

/-- The sum of numbers. -/
def total : List Nat -> Nat
  | [] => 0
  | number :: rest => number + total rest

/-- The total of two lists of numbers, one after the other. -/
theorem total_append (left right : List Nat) :
    total (left ++ right) = total left + total right := by
  induction left with
  | nil => simp [total]
  | cons number rest ih => simp [total, ih, Nat.add_assoc]

end TagOrder
