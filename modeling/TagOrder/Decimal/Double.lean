/-!
# Double-precision numbers

Binary floating-point numbers with 53 significant bits, held exactly as a significand and a power
of two, and the rounding of a decimal number to the nearest of them, a tie going to the even
significand.
-/

namespace TagOrder

/-- A double-precision number. A finite one is `significand * 2 ^ exponent` with its sign, where
the significand is below `2 ^ 53` and reaches `2 ^ 52` unless the exponent is the least, `-1074`. -/
inductive Double where
  | finite (negative : Bool) (significand : Nat) (exponent : Int)
  | infinite (negative : Bool)
  | notANumber
  deriving DecidableEq, Repr

/-- A quotient rounded to the nearest number, a tie going to the even one. -/
def roundQuotient (numerator denominator : Nat) : Nat :=
  let quotient := numerator / denominator
  let twice := 2 * (numerator % denominator)
  if twice > denominator || (twice == denominator && quotient % 2 == 1) then quotient + 1
  else quotient

namespace Double

/-- A fraction scaled by a power of two, as a numerator and a denominator. -/
def scaled (numerator denominator : Nat) (power : Int) : Nat × Nat :=
  if power < 0 then (numerator, denominator * Nat.pow 2 (-power).toNat)
  else (numerator * Nat.pow 2 power.toNat, denominator)

/-- The power of two of the last bit that the number nearest to a positive fraction keeps. -/
def lastBit (numerator denominator : Nat) : Int :=
  let guess : Int := (numerator.log2 : Int) - denominator.log2 - 52
  let (above, below) := scaled numerator denominator (-guess)
  max (if above < Nat.pow 2 52 * below then guess - 1 else guess) (-1074)

/-- The number nearest to a fraction. -/
def ofFraction (negative : Bool) (numerator denominator : Nat) : Double :=
  if numerator = 0 then finite negative 0 (-1074)
  else
    let exponent := lastBit numerator denominator
    let (above, below) := scaled numerator denominator (-exponent)
    let significand := roundQuotient above below
    let (significand, exponent) :=
      if significand = Nat.pow 2 53 then (Nat.pow 2 52, exponent + 1) else (significand, exponent)
    if exponent > 971 then infinite negative else finite negative significand exponent

/-- The number nearest to `digits * 10 ^ power`. A decimal point beyond place 400 is out of range
on either side, so such powers are never raised. -/
def ofDecimal (negative : Bool) (digits : Nat) (power : Int) : Double :=
  let point := (Nat.toDigits 10 digits).length + power
  if digits = 0 then finite negative 0 (-1074)
  else if point > 400 then infinite negative
  else if point < -400 then finite negative 0 (-1074)
  else if power < 0 then ofFraction negative digits (Nat.pow 10 (-power).toNat)
  else ofFraction negative (digits * Nat.pow 10 power.toNat) 1

/-- Whether a number is zero, of either sign. -/
def isZero : Double -> Bool
  | finite _ 0 _ => true
  | _ => false

end Double

end TagOrder
