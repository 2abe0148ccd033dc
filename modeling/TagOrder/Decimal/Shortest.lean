import TagOrder.Decimal.Double

/-!
# The shortest decimal of a number

The fewest significant digits that read back as the same number, and of the decimals with that
many digits the nearest one. Digits are tried from one to seventeen on the decimal grid around the
number, in exact arithmetic.
-/

namespace TagOrder

/-- Decimal digits and the place of the point: `0.d₁d₂d₃… * 10 ^ point`. -/
structure DecimalDigits where
  digits : Nat
  point : Int
  deriving DecidableEq, Repr

/-- The decimal point of a positive fraction: the least power of ten above it. -/
def decimalPoint (numerator denominator : Nat) : Int :=
  if denominator ≤ numerator then (Nat.toDigits 10 (numerator / denominator)).length
  else
    let zeros := (Nat.toDigits 10 (denominator / numerator)).length
    if denominator = numerator * Nat.pow 10 (zeros - 1) then 2 - zeros else 1 - zeros

/-- A positive number between its two half-way neighbours, all four as multiples of one unit
`1 / denominator`; the ends belong to it when `closed` holds. -/
structure Neighbourhood where
  low : Nat
  middle : Nat
  high : Nat
  denominator : Nat
  closed : Bool
  deriving Repr

/-- The reals that round to a positive number. -/
def Neighbourhood.ofDouble (significand : Nat) (exponent : Int) : Neighbourhood :=
  let below := if significand = Nat.pow 2 52 && exponent > -1074 then 1 else 2
  let unit := Nat.pow 2 (exponent - 2).toNat
  { low := (4 * significand - below) * unit
    middle := 4 * significand * unit
    high := (4 * significand + 2) * unit
    denominator := Nat.pow 2 (2 - exponent).toNat
    closed := significand % 2 == 0 }

/-- The decimal of `count` digits that is nearest to a number, if one rounds to it. -/
def nearestOnGrid (number : Neighbourhood) (point : Int) (count : Nat) : Option Nat :=
  let power := point - count
  let up := Nat.pow 10 (-power).toNat
  let step := Nat.pow 10 power.toNat * number.denominator
  let low := number.low * up
  let middle := number.middle * up
  let high := number.high * up
  let hits (digits : Nat) : Bool :=
    if number.closed then low ≤ digits * step && digits * step ≤ high
    else low < digits * step && digits * step < high
  let under := middle / step
  match hits under, hits (under + 1) with
  | false, false => none
  | true, false => some under
  | false, true => some (under + 1)
  | true, true => some (roundQuotient middle step)

/-- The first of the digit counts that has a hit. -/
def shortestFrom (number : Neighbourhood) (point : Int) : Nat -> Nat -> DecimalDigits
  | count, 0 => ⟨(nearestOnGrid number point count).getD 0, point⟩
  | count, tries + 1 =>
    match nearestOnGrid number point count with
    | some digits => if digits = Nat.pow 10 count then ⟨1, point + 1⟩ else ⟨digits, point⟩
    | none => shortestFrom number point (count + 1) tries

/-- The shortest decimal of a positive number. -/
def shortestDigits (significand : Nat) (exponent : Int) : DecimalDigits :=
  let number := Neighbourhood.ofDouble significand exponent
  shortestFrom number (decimalPoint number.middle number.denominator) 1 16

/-- How digits are laid out as text. -/
structure DecimalLayout where
  /-- The least decimal point written in positions. -/
  leastPoint : Int
  /-- The greatest decimal point written in positions. -/
  greatestPoint : Int
  /-- What follows a whole number written in positions. -/
  wholeMark : String
  /-- The least number of digits in an exponent. -/
  exponentDigits : Nat
  infinity : String
  notANumber : String

/-- As many zeros as a distance says. -/
def zeros (count : Int) : List Char := List.replicate count.toNat '0'

/-- An exponent with its mark and sign. -/
def DecimalLayout.exponent (layout : DecimalLayout) (power : Int) : List Char :=
  let digits := Nat.toDigits 10 power.natAbs
  'e' :: (if power < 0 then '-' else '+')
    :: (List.replicate (layout.exponentDigits - digits.length) '0' ++ digits)

/-- Digits laid out around their point. -/
def DecimalLayout.positive (layout : DecimalLayout) (digits : List Char) (point : Int) :
    List Char :=
  if point < layout.leastPoint || layout.greatestPoint < point then
    let fraction := if digits.length ≤ 1 then [] else '.' :: digits.drop 1
    digits.take 1 ++ fraction ++ layout.exponent (point - 1)
  else if point ≤ 0 then '0' :: '.' :: (zeros (-point) ++ digits)
  else if digits.length ≤ point then
    digits ++ zeros (point - digits.length) ++ layout.wholeMark.toList
  else digits.take point.toNat ++ '.' :: digits.drop point.toNat

/-- Digits without the zeros at their end. -/
def significantDigits (digits : Nat) : List Char :=
  ((Nat.toDigits 10 digits).reverse.dropWhile (· == '0')).reverse

/-- The text of a number. -/
def DecimalLayout.write (layout : DecimalLayout) : Double -> String
  | .notANumber => layout.notANumber
  | .infinite negative => (if negative then "-" else "") ++ layout.infinity
  | .finite negative significand exponent =>
    let sign := if negative then "-" else ""
    if significand = 0 then sign ++ "0" ++ layout.wholeMark
    else
      let decimal := shortestDigits significand exponent
      sign ++ String.ofList (layout.positive (significantDigits decimal.digits) decimal.point)

/-- Numbers are written in positions from a ten-thousandth up to sixteen digits before the point,
and whole numbers keep a zero after it. -/
def plainDecimal : DecimalLayout :=
  { leastPoint := -3, greatestPoint := 16, wholeMark := ".0", exponentDigits := 2
    infinity := "inf", notANumber := "nan" }

end TagOrder
