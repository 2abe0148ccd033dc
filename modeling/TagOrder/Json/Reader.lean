import TagOrder.Text.Digits
import TagOrder.Text.Surrogate
import TagOrder.Value
import TagOrder.Value.Limit

/-!
# Reading JSON

A reader of JSON texts that also takes `NaN`, `Infinity` and `-Infinity`. The first fault is named
together with how much of the text was still unread there, from which its line follows. A key that
occurs twice keeps its first place and its last value. Half of a surrogate pair may stand on its
own.
-/

namespace TagOrder

/-- What is wrong with a JSON text. -/
inductive JsonFault where
  | value
  | propertyName
  | colon
  | comma
  | extra
  | unterminated
  | control
  | escape
  | unicodeEscape
  | byteOrderMark
  /-- It goes beyond the limits on values. -/
  | beyond (limit : LimitFault)
  deriving DecidableEq, Repr

namespace JsonFault

/-- The words for a fault. -/
def message : JsonFault -> String
  | value => "Expecting value"
  | propertyName => "Expecting property name enclosed in double quotes"
  | colon => "Expecting ':' delimiter"
  | comma => "Expecting ',' delimiter"
  | extra => "Extra data"
  | unterminated => "Unterminated string starting at"
  | control => "Invalid control character at"
  | escape => "Invalid \\escape"
  | unicodeEscape => "Invalid \\uXXXX escape"
  | byteOrderMark => "Unexpected UTF-8 BOM (decode using utf-8-sig)"
  | beyond limit => limit.message

end JsonFault

/-- A fault and how many characters were unread where it lies. -/
structure JsonError where
  fault : JsonFault
  unread : Nat
  deriving DecidableEq, Repr

namespace Json

/-- A fault at the start of the unread text. -/
def fail {α : Type} (fault : JsonFault) (rest : Text) : Except JsonError α :=
  .error ⟨fault, rest.length⟩

/-- The four characters that may stand between tokens. -/
def isSpace (c : Char) : Bool := c == ' ' || c == '\t' || c == '\n' || c == '\r'

/-- The text after the spaces at its start. -/
def skipSpaces (text : Text) : Text := text.dropWhile isSpace

/-- The digits at the start of a text, and the text after them. -/
def takeDigits (text : Text) : Text × Text := text.span Char.isDigit

/-- The fraction of a number: a point and at least one digit. -/
def takeFraction : Text -> Option (Text × Text)
  | '.' :: rest =>
    match takeDigits rest with
    | ([], _) => none
    | (digits, after) => some (digits, after)
  | _ => none

/-- The exponent of a number: its mark, an optional sign and at least one digit. -/
def takeExponent : Text -> Option (Int × Text)
  | mark :: rest =>
    if mark == 'e' || mark == 'E' then
      let (negative, digits) := match rest with
        | '-' :: after => (true, after)
        | '+' :: after => (false, after)
        | after => (false, after)
      match takeDigits digits with
      | ([], _) => none
      | (digits, after) =>
        let size : Int := digitsValue digits
        some (if negative then -size else size, after)
    else none
  | [] => none

/-- The digits before the point of a number: a zero alone, or digits that start with another. -/
def takeWhole : Text -> Option (Text × Text)
  | '0' :: rest => some (['0'], rest)
  | text =>
    match takeDigits text with
    | ([], _) => none
    | (digits, after) => some (digits, after)

/-- A number; without a fraction and an exponent it is whole. -/
def readNumber (text : Text) : Except JsonError (Value × Text) :=
  let (negative, unsigned) := match text with
    | '-' :: rest => (true, rest)
    | rest => (false, rest)
  match takeWhole unsigned with
  | none => fail .value text
  | some (whole, rest) =>
    let (fraction, rest', hasFraction) := match takeFraction rest with
      | some (digits, after) => (digits, after, true)
      | none => ([], rest, false)
    let (exponent, rest'', hasExponent) := match takeExponent rest' with
      | some (exponent, after) => (exponent, after, true)
      | none => (0, rest', false)
    if hasFraction || hasExponent then
      .ok (.float (Double.ofDecimal negative (digitsValue (whole ++ fraction))
        (exponent - fraction.length)), rest'')
    else if digitLimit < whole.length then fail (.beyond (.digits whole.length)) text
    else
      let size : Int := digitsValue whole
      .ok (.int (if negative then -size else size), rest'')

/-- The character that a code unit and, after the first half of a pair, the second half write,
and the text after them. -/
def joinHalves (unit : Nat) (rest : Text) : Except JsonError (Char × Text) :=
  if 0xD800 ≤ unit && unit < 0xDC00 then
    match rest with
    | '\\' :: 'u' :: after =>
      if after.length < 5 then .ok (ofSurrogate unit, rest)
      else match hexValues? (after.take 4) with
        | none => fail .unicodeEscape rest
        | some second =>
          if 0xDC00 ≤ second && second < 0xE000 then
            .ok (Char.ofNat (0x10000 + (unit - 0xD800) * 0x400 + (second - 0xDC00)), after.drop 4)
          else .ok (ofSurrogate unit, rest)
    | _ => .ok (ofSurrogate unit, rest)
  else if 0xDC00 ≤ unit && unit < 0xE000 then .ok (ofSurrogate unit, rest)
  else .ok (Char.ofNat unit, rest)

/-- The character of an escape; the text starts after the backslash. -/
def readEscape (text : Text) : Except JsonError (Char × Text) :=
  match text with
  | '"' :: rest => .ok ('"', rest)
  | '\\' :: rest => .ok ('\\', rest)
  | '/' :: rest => .ok ('/', rest)
  | 'b' :: rest => .ok ('\x08', rest)
  | 'f' :: rest => .ok ('\x0c', rest)
  | 'n' :: rest => .ok ('\n', rest)
  | 'r' :: rest => .ok ('\r', rest)
  | 't' :: rest => .ok ('\t', rest)
  | 'u' :: rest =>
    if rest.length < 5 then fail .unicodeEscape text
    else match hexValues? (rest.take 4) with
      | none => fail .unicodeEscape text
      | some unit => joinHalves unit (rest.drop 4)
  | _ => fail .escape text

/-- The characters of a string up to its closing quote, and the text after that. `opening` is how
much was unread at the opening quote. -/
def readString (opening : Nat) : Nat -> Text -> Text -> Except JsonError (String × Text)
  | 0, _, _ => .error ⟨.unterminated, opening⟩
  | fuel + 1, taken, text =>
    match text with
    | [] => .error ⟨.unterminated, opening⟩
    | '"' :: rest => .ok (String.ofList taken.reverse, rest)
    | ['\\'] => .error ⟨.unterminated, opening⟩
    | '\\' :: rest => do
      let (c, after) ← readEscape rest
      readString opening fuel (c :: taken) after
    | c :: rest =>
      if c.toNat < 32 then fail .control text
      else readString opening fuel (c :: taken) rest

/-- The words that stand for values. -/
def words : List (String × Value) :=
  [("null", .null), ("true", .bool true), ("false", .bool false), ("NaN", .float .notANumber),
    ("Infinity", .float (.infinite false)), ("-Infinity", .float (.infinite true))]

/-- The word at the start of a text. -/
def readWord? (text : Text) : Option (Value × Text) :=
  words.findSome? fun (word, value) =>
    (text.dropLead? word.toList).map fun rest => (value, rest)

mutual

/-- A value; the text starts with it. `depth` is how many more lists and tables may be nested. -/
def readValue (depth : Nat) : Nat -> Text -> Except JsonError (Value × Text)
  | 0, text => fail .value text
  | fuel + 1, text =>
    match text with
    | '"' :: rest => do
      let (string, after) ← readString text.length (rest.length + 1) [] rest
      return (.text string, after)
    | '[' :: rest =>
      if depth = 0 then fail (.beyond (.nested .jsonList)) text
      else match skipSpaces rest with
      | ']' :: after => .ok (.list [], after)
      | items => do
        let (items, after) ← readItems (depth - 1) fuel [] items
        return (.list items, after)
    | '\x7b' :: rest =>
      if depth = 0 then fail (.beyond (.nested .jsonTable)) text
      else match skipSpaces rest with
      | '\x7d' :: after => .ok (.table [], after)
      | fields => do
        let (fields, after) ← readFields (depth - 1) fuel [] fields
        return (.table fields, after)
    | text =>
      match readWord? text with
      | some (value, after) => .ok (value, after)
      | none => readNumber text

/-- The items of a list up to its closing bracket. -/
def readItems (depth : Nat) : Nat -> List Value -> Text -> Except JsonError (List Value × Text)
  | 0, _, text => fail .value text
  | fuel + 1, taken, text => do
    let (item, after) ← readValue depth fuel text
    match skipSpaces after with
    | ']' :: rest => return ((item :: taken).reverse, rest)
    | ',' :: rest => readItems depth fuel (item :: taken) (skipSpaces rest)
    | rest => fail .comma rest

/-- The fields of a table up to its closing brace. -/
def readFields (depth : Nat) : Nat -> Fields -> Text -> Except JsonError (Fields × Text)
  | 0, _, text => fail .propertyName text
  | fuel + 1, taken, text =>
    match text with
    | '"' :: rest => do
      let (key, after) ← readString text.length (rest.length + 1) [] rest
      match skipSpaces after with
      | ':' :: rest => do
        let (value, after) ← readValue depth fuel (skipSpaces rest)
        let fields := taken.set key value
        match skipSpaces after with
        | '\x7d' :: rest => return (fields, rest)
        | ',' :: rest => readFields depth fuel fields (skipSpaces rest)
        | rest => fail .comma rest
      | rest => fail .colon rest
    | text => fail .propertyName text

end

/-- The value that a text writes, or its first fault; lists and tables may be nested so deep. -/
def read (depth : Nat) (text : Text) : Except JsonError Value :=
  match text with
  | '\ufeff' :: _ => fail .byteOrderMark text
  | _ => do
    let (value, after) ← readValue depth (2 * text.length + 2) (skipSpaces text)
    match skipSpaces after with
    | [] => return value
    | rest => fail .extra rest

/-- The line, counted from one, on which an error lies. -/
def errorLine (text : Text) (error : JsonError) : Nat :=
  (text.take (text.length - error.unread)).count '\n' + 1

end Json

end TagOrder
