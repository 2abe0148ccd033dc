import TagOrder.Decimal.Double
import TagOrder.Template.Shape

/-!
# Numbers in a shape

The shape of a field that arrives at a number: the base or the form of its digits, how they are
grouped, and how the whole is filled up. All numbers here are natural, so that a sign is only
written where the shape asks for one.
-/

namespace TagOrder

/-- A number taken apart for its shape: what stands before its digits, the digits of its whole part,
and what follows them. -/
structure WrittenNumber where
  front : Text := []
  whole : Text
  rest : Text := []
  deriving DecidableEq, Repr

namespace NumberShape

/-- Digits in groups from the right, a mark between the groups. -/
def grouped (size : Nat) (mark : Char) (digits : Text) : Text :=
  digits.zipIdx.flatMap fun (c, place) =>
    if place ≠ 0 && (digits.length - place) % size = 0 then [mark, c] else [c]

/-- The fewest digits, beyond those given, that fill a width when they are grouped. -/
def digitsToFill (size width : Nat) : Nat -> Nat -> Nat
  | 0, digits => digits
  | fuel + 1, digits =>
    if width ≤ digits + (digits - 1) / size then digits
    else digitsToFill size width fuel (digits + 1)

/-- The size of the groups of digits. -/
def groupSize (shape : FieldShape) : Nat :=
  if shape.code ∈ ['b', 'o', 'x', 'X'] then 4 else 3

/-- The digits of a whole part in groups, with zeros before them up to a width. -/
def wholeText (shape : FieldShape) (width : Nat) (digits : Text) : Text :=
  match shape.separator with
  | none => List.replicate (width - digits.length) '0' ++ digits
  | some mark =>
    let size := groupSize shape
    let count := digitsToFill size width width digits.length
    grouped size mark (List.replicate (count - digits.length) '0' ++ digits)

/-- A written number in the width of a shape. -/
def fit (shape : FieldShape) (number : WrittenNumber) : Text :=
  let sign := match shape.sign with
    | some '+' => ['+']
    | some ' ' => [' ']
    | _ => []
  let front := sign ++ number.front
  let zeros := shape.fill = '0' && shape.align = '='
  let width := shape.width.getD 0
  let whole := wholeText shape
    (if zeros then width - front.length - number.rest.length else 0) number.whole
  let missing := width - (front ++ whole ++ number.rest).length
  let fill (count : Nat) := List.replicate count shape.fill
  if shape.align = '=' then front ++ fill missing ++ whole ++ number.rest
  else
    let left := if shape.align = '<' then 0 else if shape.align = '^' then missing / 2 else missing
    fill left ++ front ++ whole ++ number.rest ++ fill (missing - left)

/-- A number in digits to the base that a format code names. -/
def inBase (shape : FieldShape) (number : Nat) : WrittenNumber :=
  let front (code : Char) : Text := if shape.alternate then ['0', code] else []
  match shape.code with
  | 'b' => { front := front 'b', whole := Nat.toDigits 2 number }
  | 'o' => { front := front 'o', whole := Nat.toDigits 8 number }
  | 'x' => { front := front 'x', whole := Nat.toDigits 16 number }
  | 'X' => { front := front 'X', whole := (Nat.toDigits 16 number).map Char.toUpper }
  | _ => { whole := Nat.toDigits 10 number }

/-- The parts of a shape that a whole number cannot take. -/
def wholeFault? (shape : FieldShape) : Option TemplateFault :=
  if shape.precision.isSome then some .numberPrecision
  else if shape.negativeZero then some .numberNegativeZero
  else if shape.code ≠ 'c' then none
  else if shape.sign.isSome then some .characterSign
  else if shape.alternate then some .characterAlternate
  else none

/-- A point and digits after it, or no point when there are none and the shape needs none. -/
def fraction (shape : FieldShape) (digits : Text) : Text :=
  if digits = [] && !shape.alternate then [] else '.' :: digits

/-- The leading digits of a number, rounded to so many with halves going to the even neighbour, and
the power of ten of the first. -/
def leading (count number : Nat) : Text × Nat :=
  let length := (Nat.toDigits 10 number).length
  if length ≤ count then (Nat.toDigits 10 number ++ List.replicate (count - length) '0', length - 1)
  else
    let unit := Nat.pow 10 (length - count)
    let below := number / unit
    let excess := number % unit
    let up := unit < 2 * excess || (unit = 2 * excess && below % 2 = 1)
    let rounded := if up then below + 1 else below
    if rounded = Nat.pow 10 count then (Nat.toDigits 10 (rounded / 10), length)
    else (Nat.toDigits 10 rounded, length - 1)

/-- The power of ten after a number in scientific form. -/
def exponentText (mark : Char) (power : Nat) : Text :=
  let digits := Nat.toDigits 10 power
  mark :: '+' :: (List.replicate (2 - digits.length) '0' ++ digits)

/-- Digits without the zeros at their end. -/
def withoutZeros (digits : Text) : Text := (digits.reverse.dropWhile (· == '0')).reverse

/-- A number in scientific form. -/
def scientific (shape : FieldShape) (mark : Char) (precision number : Nat) : WrittenNumber :=
  let (digits, power) := leading (precision + 1) number
  { whole := digits.take 1, rest := fraction shape (digits.drop 1) ++ exponentText mark power }

/-- A number in the shorter of the two forms: digits only as far as the precision goes, scientific
beyond it. -/
def general (shape : FieldShape) (mark : Char) (precision number : Nat) : WrittenNumber :=
  let count := max 1 precision
  let (digits, power) := leading count number
  let trim (digits : Text) := if shape.alternate then digits else withoutZeros digits
  if power < count then
    { whole := digits.take (power + 1), rest := fraction shape (trim (digits.drop (power + 1))) }
  else
    { whole := digits.take 1
      rest := fraction shape (trim (digits.drop 1)) ++ exponentText mark power }

/-- A number rounded to the nearest that 53 binary digits can write, a tie going to the even one. -/
def nearest (number : Nat) : Nat :=
  let unit := Nat.pow 2 (number.log2 - 52)
  roundQuotient number unit * unit

/-- A number with the decimals that its precision asks for. -/
def fixed (shape : FieldShape) (precision number : Nat) : WrittenNumber :=
  { whole := Nat.toDigits 10 number, rest := fraction shape (List.replicate precision '0') }

/-- A number as a decimal, if the format code names such a form. It is taken for the nearest number
of double precision, and so is its hundredfold. -/
def asDecimal? (shape : FieldShape) (number : Nat) : Option WrittenNumber :=
  let number := nearest number
  let precision := shape.precision.getD 6
  match shape.code with
  | 'e' | 'E' => some (scientific shape shape.code precision number)
  | 'f' | 'F' => some (fixed shape precision number)
  | 'g' => some (general shape 'e' precision number)
  | 'G' => some (general shape 'E' precision number)
  | '%' =>
    let hundredfold := fixed shape precision (nearest (100 * number))
    some { hundredfold with rest := hundredfold.rest ++ ['%'] }
  | _ => none

/-- The largest precision of a decimal. -/
def precisionLimit : Nat := 2147483647

/-- The character with a number as its code point, if there is one. -/
def character (number : Nat) : Except TemplateFault Char :=
  if 0x110000 ≤ number then .error .characterRange else .ok (ofCodePoint number)

/-- A number, of the given kind, in the shape that a text writes; an empty shape leaves it as it
is. -/
def apply (kind : Kind) (shape : Text) (number : Nat) : Except TemplateFault Text :=
  if shape = [] then .ok (Nat.toDigits 10 number)
  else do
    let shape ← FieldShape.read kind shape
    if shape.code ∈ ['b', 'c', 'd', 'n', 'o', 'x', 'X'] then
      match wholeFault? shape with
      | some fault => throw fault
      | none =>
        if shape.code = 'c' then
          return fit { shape with separator := none } { whole := [], rest := [← character number] }
        else return fit shape (inBase shape number)
    else
      if precisionLimit < shape.precision.getD 0 then throw .longPrecision
      match asDecimal? shape number with
      | some written => return fit shape written
      | none => throw (.unknownCode shape.code kind)

end NumberShape

end TagOrder
