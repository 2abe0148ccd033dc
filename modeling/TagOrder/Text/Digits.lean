import TagOrder.Text.Slice

/-!
# Digits

The numbers that decimal and other digits write.
-/

namespace TagOrder

/-- The value of a hexadecimal digit. -/
def hexValue? (c : Char) : Option Nat :=
  if c.isDigit then some (c.toNat - '0'.toNat)
  else if 'a' ≤ c && c ≤ 'f' then some (c.toNat - 'a'.toNat + 10)
  else if 'A' ≤ c && c ≤ 'F' then some (c.toNat - 'A'.toNat + 10)
  else none

/-- Whether a character is a digit to a base of at most sixteen. -/
def isDigitOf (base : Nat) (c : Char) : Bool := (hexValue? c).any (· < base)

/-- The number that digits to a base write. -/
def valueOfDigits (base : Nat) (digits : Text) : Nat :=
  digits.foldl (fun number c => base * number + (hexValue? c).getD 0) 0

/-- The number that decimal digits write. -/
def digitsValue (digits : Text) : Nat := valueOfDigits 10 digits

/-- The number that hexadecimal digits write, if all are such digits. -/
def hexValues? (digits : Text) : Option Nat :=
  if digits.all (isDigitOf 16) then some (valueOfDigits 16 digits) else none

end TagOrder
