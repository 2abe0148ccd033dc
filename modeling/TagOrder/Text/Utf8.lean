import TagOrder.Text.Quoted
import TagOrder.Text.Slice

/-!
# UTF-8

Texts as octets. A text made from names may have half of a surrogate pair in it, and then it cannot
be written; the text of a file never has. Reading stops at the first octets that no text is written
with, and says which they are and why: an octet that starts no character, an octet that does not
continue the character begun, or the end of the octets inside a character.
-/

namespace TagOrder

/-- Why octets are no text. -/
inductive OctetFault where
  | badStart
  | badContinuation
  | endOfData
  deriving DecidableEq, Repr

/-- The octets, from `start` on, that are no text. -/
structure DecodeError where
  fault : OctetFault
  start : Nat
  count : Nat
  first : UInt8
  deriving DecidableEq, Repr

/-- The words for octets that are no text. -/
def DecodeError.message (error : DecodeError) : String :=
  let reason := match error.fault with
    | .badStart => "invalid start byte"
    | .badContinuation => "invalid continuation byte"
    | .endOfData => "unexpected end of data"
  let place :=
    if error.count = 1 then
      "byte 0x" ++ String.ofList (hexDigits 2 error.first.toNat) ++ " in position "
        ++ Nat.repr error.start
    else
      "bytes in position " ++ Nat.repr error.start ++ "-"
        ++ Nat.repr (error.start + error.count - 1)
  "'utf-8' codec can't decode " ++ place ++ ": " ++ reason

/-- The halves of surrogate pairs, from `start` on, that cannot be written. -/
structure EncodeError where
  start : Nat
  count : Nat
  first : Char
  deriving DecidableEq, Repr

/-- The words for halves of surrogate pairs that cannot be written. -/
def EncodeError.message (error : EncodeError) : String :=
  let place :=
    if error.count = 1 then
      "character '" ++ String.ofList (codeEscape (codePoint error.first)) ++ "' in position "
        ++ Nat.repr error.start
    else
      "characters in position " ++ Nat.repr error.start ++ "-"
        ++ Nat.repr (error.start + error.count - 1)
  "'utf-8' codec can't encode " ++ place ++ ": surrogates not allowed"

namespace Utf8

/-- The first halves of surrogate pairs in a text that cannot be written, if there are any; `start`
is how much stands before the text, and `spares` says of which halves there is no need to speak. -/
def encodeFaultFrom (spares : Char -> Bool) (start : Nat) : Text -> Option EncodeError
  | [] => none
  | c :: rest =>
    if isSurrogate c && !spares c then
      some ⟨start, ((c :: rest).takeWhile isSurrogate).length, c⟩
    else encodeFaultFrom spares (start + 1) rest

/-- The first halves of surrogate pairs in a text, if there are any. -/
def encodeFault? (text : Text) : Option EncodeError := encodeFaultFrom (fun _ => false) 0 text

/-- The octets of a character. -/
def encodeChar (c : Char) : List UInt8 :=
  let code := c.toNat
  if code < 0x80 then [code.toUInt8]
  else if code < 0x800 then [(0xC0 + code / 0x40).toUInt8, (0x80 + code % 0x40).toUInt8]
  else if code < 0x10000 then
    [(0xE0 + code / 0x1000).toUInt8, (0x80 + code / 0x40 % 0x40).toUInt8,
      (0x80 + code % 0x40).toUInt8]
  else
    [(0xF0 + code / 0x40000).toUInt8, (0x80 + code / 0x1000 % 0x40).toUInt8,
      (0x80 + code / 0x40 % 0x40).toUInt8, (0x80 + code % 0x40).toUInt8]

/-- The octets of a text. -/
def encode (text : Text) : List UInt8 := text.flatMap encodeChar

/-- How a character goes on after its first octet: the bits that the octet gives, how many octets
follow, and the least and the greatest octet that may come next. -/
structure Lead where
  bits : Nat
  tails : Nat
  low : Nat := 0x80
  high : Nat := 0xBF

/-- What a first octet announces; an octet that starts no character announces nothing. -/
def lead? (octet : UInt8) : Option Lead :=
  let code := octet.toNat
  if code < 0x80 then some { bits := code, tails := 0 }
  else if code < 0xC2 then none
  else if code < 0xE0 then some { bits := code - 0xC0, tails := 1 }
  else if code = 0xE0 then some { bits := 0, tails := 2, low := 0xA0 }
  else if code = 0xED then some { bits := 0xD, tails := 2, high := 0x9F }
  else if code < 0xF0 then some { bits := code - 0xE0, tails := 2 }
  else if code = 0xF0 then some { bits := 0, tails := 3, low := 0x90 }
  else if code < 0xF4 then some { bits := code - 0xF0, tails := 3 }
  else if code = 0xF4 then some { bits := 4, tails := 3, high := 0x8F }
  else none

/-- The code point that the tails of a character complete, and the octets after them; otherwise
the fault and how many octets of the character were read. -/
def readTails (bits : Nat) (low high : Nat) (taken : Nat) :
    Nat -> List UInt8 -> Except (OctetFault × Nat) (Nat × List UInt8)
  | 0, rest => .ok (bits, rest)
  | _ + 1, [] => .error (.endOfData, taken)
  | tails + 1, octet :: rest =>
    if low ≤ octet.toNat && octet.toNat ≤ high then
      readTails (0x40 * bits + (octet.toNat - 0x80)) 0x80 0xBF (taken + 1) tails rest
    else .error (.badContinuation, taken)

/-- The text of octets, read from a place on. -/
def decodeFrom : Nat -> Nat -> List UInt8 -> Except DecodeError Text
  | 0, _, _ => .ok []
  | _ + 1, _, [] => .ok []
  | fuel + 1, start, octet :: rest =>
    match lead? octet with
    | none => .error ⟨.badStart, start, 1, octet⟩
    | some lead =>
      match readTails lead.bits lead.low lead.high 1 lead.tails rest with
      | .error (fault, count) => .error ⟨fault, start, count, octet⟩
      | .ok (code, after) =>
        match decodeFrom fuel (start + 1 + lead.tails) after with
        | .ok text => .ok (Char.ofNat code :: text)
        | .error error => .error error

/-- The text of octets. -/
def decode (octets : List UInt8) : Except DecodeError Text := decodeFrom octets.length 0 octets

end Utf8

/-- A text with each carriage return, with or without a newline after it, made one newline. -/
def Text.unifyNewlines : Text -> Text
  | [] => []
  | '\r' :: '\n' :: rest => '\n' :: Text.unifyNewlines rest
  | '\r' :: rest => '\n' :: Text.unifyNewlines rest
  | c :: rest => c :: Text.unifyNewlines rest

end TagOrder
