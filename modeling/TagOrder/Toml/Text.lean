import TagOrder.Toml.Fault

/-!
# TOML strings

Strings come in four forms. Between double quotes a backslash starts an escape, between single
quotes every character stands for itself; three quotes instead of one allow line breaks, except
that one right after the opening is dropped. A closing of three quotes may have two more quotes
before it, which belong to the string.
-/

namespace TagOrder.Toml

/-- The character of an escape that names its code point by so many hexadecimal digits. -/
def readCodePoint (width : Nat) (text : Text) : Except TomlFault (Char × Text) :=
  if text.length < width then malformed
  else match hexValues? (text.take width) with
    | none => malformed
    | some code =>
      if code < 0xD800 || (0xE000 ≤ code && code < 0x110000) then
        .ok (Char.ofNat code, text.drop width)
      else malformed

/-- The character of an escape; the text starts after the backslash. -/
def readEscape : Text -> Except TomlFault (Char × Text)
  | 'b' :: rest => .ok ('\x08', rest)
  | 't' :: rest => .ok ('\t', rest)
  | 'n' :: rest => .ok ('\n', rest)
  | 'f' :: rest => .ok ('\x0c', rest)
  | 'r' :: rest => .ok ('\r', rest)
  | '"' :: rest => .ok ('"', rest)
  | '\\' :: rest => .ok ('\\', rest)
  | 'u' :: rest => readCodePoint 4 rest
  | 'U' :: rest => readCodePoint 8 rest
  | _ => malformed

/-- The characters of a one-line string between double quotes, up to the closing one. -/
def readBasic : Nat -> Text -> Except TomlFault (Text × Text)
  | 0, _ => malformed
  | fuel + 1, text =>
    match text with
    | [] => malformed
    | '"' :: rest => .ok ([], rest)
    | '\\' :: rest => do
      let (c, after) ← readEscape rest
      let (others, after) ← readBasic fuel after
      return (c :: others, after)
    | c :: rest =>
      if isControl c then malformed
      else do
        let (others, after) ← readBasic fuel rest
        return (c :: others, after)

/-- The characters of a one-line string between single quotes, up to the closing one. -/
def readLiteral : Text -> Except TomlFault (Text × Text)
  | [] => malformed
  | '\'' :: rest => .ok ([], rest)
  | c :: rest =>
    if isControl c then malformed
    else do
      let (others, after) ← readLiteral rest
      return (c :: others, after)

/-- The text after a line ending that a backslash hides, together with all spaces and line breaks
that follow; the text starts after the backslash. -/
def skipHidden (text : Text) : Except TomlFault Text :=
  match skipSpaces text with
  | '\n' :: rest => .ok (skipBreaks rest)
  | [] => .ok []
  | _ => malformed

/-- Whether a backslash before this character hides a line ending. -/
def hidesEnding (c : Char) : Bool := isSpace c || c == '\n'

/-- The characters of a string between three double quotes, up to the first three. -/
def readLongBasic : Nat -> Text -> Except TomlFault (Text × Text)
  | 0, _ => malformed
  | fuel + 1, text =>
    match text with
    | [] => malformed
    | '"' :: '"' :: '"' :: rest => .ok ([], rest)
    | '\\' :: rest =>
      if rest.head?.any hidesEnding then do
        readLongBasic fuel (← skipHidden rest)
      else do
        let (c, after) ← readEscape rest
        let (others, after) ← readLongBasic fuel after
        return (c :: others, after)
    | c :: rest =>
      if isControl c && c != '\n' then malformed
      else do
        let (others, after) ← readLongBasic fuel rest
        return (c :: others, after)

/-- The characters of a string between three single quotes, up to the first three. -/
def readLongLiteral : Text -> Except TomlFault (Text × Text)
  | [] => malformed
  | '\'' :: '\'' :: '\'' :: rest => .ok ([], rest)
  | c :: rest =>
    if isControl c && c != '\n' then malformed
    else do
      let (others, after) ← readLongLiteral rest
      return (c :: others, after)

/-- At most two more quotes after the closing of a long string, which belong to it. -/
def readSpareQuotes (quote : Char) (text : Text) : Text × Text :=
  let spare := (text.take 2).takeWhile (· == quote)
  (spare, text.drop spare.length)

/-- The text after the line break at its start, if there is one. -/
def dropBreak : Text -> Text
  | '\n' :: rest => rest
  | text => text

/-- A string of any form; none when the text does not start with a quote. -/
def readText? (text : Text) : Option (Except TomlFault (Text × Text)) :=
  match text with
  | '"' :: '"' :: '"' :: rest => some do
    let (body, after) ← readLongBasic (text.length + 1) (dropBreak rest)
    let (spare, after) := readSpareQuotes '"' after
    return (body ++ spare, after)
  | '"' :: rest => some (readBasic (text.length + 1) rest)
  | '\'' :: '\'' :: '\'' :: rest => some do
    let (body, after) ← readLongLiteral (dropBreak rest)
    let (spare, after) := readSpareQuotes '\'' after
    return (body ++ spare, after)
  | '\'' :: rest => some (readLiteral rest)
  | _ => none

end TagOrder.Toml
