import TagOrder.Text.Slice

/-!
# Numerals

Decimal digits of any script, and the whole numbers that they write. A number that no longer fits
a signed 64-bit word is refused at the digit that makes it too large.
-/

namespace TagOrder

/-- The zero of each run of ten decimal digits (Unicode 14). -/
def digitZeros : List Nat :=
  [48, 1632, 1776, 1984, 2406, 2534, 2662, 2790, 2918, 3046, 3174, 3302, 3430, 3558, 3664, 3792,
    3872, 4160, 4240, 6112, 6160, 6470, 6608, 6784, 6800, 6992, 7088, 7232, 7248, 42528, 43216,
    43264, 43472, 43504, 43600, 44016, 65296, 66720, 68912, 69734, 69872, 69942, 70096, 70384,
    70736, 70864, 71248, 71360, 71472, 71904, 72016, 72784, 73040, 73120, 92768, 92864, 93008,
    120782, 120792, 120802, 120812, 120822, 123200, 123632, 125264, 130032]

/-- The value of a decimal digit. -/
def digitValue? (c : Char) : Option Nat :=
  (digitZeros.find? fun start => start ≤ c.toNat && c.toNat < start + 10).map fun start =>
    c.toNat - start

/-- The largest number that is read. -/
def numeralLimit : Nat := 9223372036854775807

/-- The digits at the start of a text, as the number they write after the one given, with the text
that follows; none when the number is too large. -/
def takeNumeral (number : Nat) : Text -> Option (Nat × Text)
  | [] => some (number, [])
  | c :: rest =>
    match digitValue? c with
    | none => some (number, c :: rest)
    | some digit =>
      if numeralLimit < 10 * number + digit then none else takeNumeral (10 * number + digit) rest

end TagOrder
