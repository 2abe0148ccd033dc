import TagOrder.Text.Printable
import TagOrder.Text.Surrogate

/-!
# Quoted texts

A text between quotes on one line. Single quotes are used unless the text holds one and no double
quote. The backslash and the quote in use are escaped, line breaks and tabs have escapes of their
own, and any other character that is not printable is written by its code point.
-/

namespace TagOrder

/-- A number in lower-case hexadecimal digits, at least as many as asked for. -/
def hexDigits (width number : Nat) : List Char :=
  let digits := Nat.toDigits 16 number
  List.replicate (width - digits.length) '0' ++ digits

/-- A character written by its code point. -/
def codeEscape (code : Nat) : List Char :=
  if code < 256 then '\\' :: 'x' :: hexDigits 2 code
  else if code < 65536 then '\\' :: 'u' :: hexDigits 4 code
  else '\\' :: 'U' :: hexDigits 8 code

/-- A character as it stands between quotes of one kind. -/
def quotedChar (quote : Char) (c : Char) : List Char :=
  if c = quote || c = '\\' then ['\\', c]
  else if c = '\n' then ['\\', 'n']
  else if c = '\r' then ['\\', 'r']
  else if c = '\t' then ['\\', 't']
  else if 32 ≤ c.toNat && c.toNat < 127 then [c]
  else if printable.has c then [c]
  else codeEscape (codePoint c)

/-- The quote that a text is put between. -/
def quoteFor (text : List Char) : Char :=
  if '\'' ∈ text && '"' ∉ text then '"' else '\''

/-- A text between quotes. -/
def quoted (text : List Char) : List Char :=
  let quote := quoteFor text
  quote :: (text.flatMap (quotedChar quote) ++ [quote])

/-- A string between quotes. -/
def quotedString (text : String) : String := String.ofList (quoted text.toList)

end TagOrder
