import TagOrder.Toml.Fault
import TagOrder.Value

/-!
# TOML numbers

Whole numbers to base ten, sixteen, eight or two, and numbers with a fraction or an exponent. One
underscore may stand between two digits.
-/

namespace TagOrder.Toml

/-- More digits of a number, each after an optional underscore. -/
def takeMoreDigits (isDigit : Char -> Bool) : Text -> Text × Text
  | '_' :: c :: rest =>
    if isDigit c then
      let (digits, after) := takeMoreDigits isDigit rest
      (c :: digits, after)
    else ([], '_' :: c :: rest)
  | c :: rest =>
    if isDigit c then
      let (digits, after) := takeMoreDigits isDigit rest
      (c :: digits, after)
    else ([], c :: rest)
  | [] => ([], [])

/-- The digits of a number, of which there is at least one. -/
def takeDigits? (isDigit : Char -> Bool) : Text -> Option (Text × Text)
  | c :: rest =>
    if isDigit c then
      let (digits, after) := takeMoreDigits isDigit rest
      some (c :: digits, after)
    else none
  | [] => none

/-- A whole number to a base other than ten. -/
def takeBased? : Text -> Option (Nat × Text)
  | '0' :: mark :: rest =>
    let base := if mark = 'x' then 16 else if mark = 'o' then 8 else if mark = 'b' then 2 else 0
    (takeDigits? (isDigitOf base) rest).map fun (digits, after) =>
      (valueOfDigits base digits, after)
  | _ => none

/-- The sign of a number: whether there is a minus, and the text after either sign. -/
def takeSign : Text -> Bool × Text
  | '-' :: rest => (true, rest)
  | '+' :: rest => (false, rest)
  | text => (false, text)

/-- The digits before the point: a zero alone, or digits that start with another. -/
def takeWhole? : Text -> Option (Text × Text)
  | '0' :: rest => some (['0'], rest)
  | text => takeDigits? Char.isDigit text

/-- The digits after a point, if there is one with a digit. -/
def takeFractionDigits? : Text -> Option (Text × Text)
  | '.' :: rest => takeDigits? Char.isDigit rest
  | _ => none

/-- The exponent, if there is a mark with a digit. -/
def takeExponent? : Text -> Option (Int × Text)
  | mark :: rest =>
    if mark = 'e' || mark = 'E' then
      let (negative, rest) := takeSign rest
      (takeDigits? Char.isDigit rest).map fun (digits, after) =>
        let size : Int := digitsValue digits
        (if negative then -size else size, after)
    else none
  | [] => none

/-- A number to base ten, after its sign. -/
def readDecimal (negative : Bool) (whole rest : Text) : Except TomlFault (Value × Text) :=
  match takeFractionDigits? rest, takeExponent? rest with
  | none, none =>
    if digitLimit < whole.length then .error (.beyond (.digits whole.length))
    else
      let size : Int := digitsValue whole
      .ok (.int (if negative then -size else size), rest)
  | none, some (exponent, after) =>
    .ok (.float (Double.ofDecimal negative (digitsValue whole) exponent), after)
  | some (fraction, rest), _ =>
    let (exponent, after) := (takeExponent? rest).getD (0, rest)
    .ok (.float (Double.ofDecimal negative (digitsValue (whole ++ fraction))
      (exponent - fraction.length)), after)

/-- The words for what is not finite. -/
def specialNumbers : List (String × Double) :=
  [("inf", .infinite false), ("nan", .notANumber), ("-inf", .infinite true),
    ("+inf", .infinite false), ("-nan", .notANumber), ("+nan", .notANumber)]

/-- A number; a text that does not start with one is a fault. -/
def readNumber (text : Text) : Except TomlFault (Value × Text) :=
  match takeBased? text with
  | some (number, after) => .ok (.int number, after)
  | none =>
    let (negative, unsigned) := takeSign text
    match takeWhole? unsigned with
    | some (whole, rest) => readDecimal negative whole rest
    | none =>
      let special := specialNumbers.findSome? fun (word, number) =>
        (text.dropLead? word.toList).map fun after => (Value.float number, after)
      special.elim malformed .ok

end TagOrder.Toml
