import TagOrder.Text.Digits
import TagOrder.Value.Limit

/-!
# TOML faults

What may be wrong with a TOML document, and the steps that readers of its parts share.
-/

namespace TagOrder

/-- What is wrong with a TOML document. -/
inductive TomlFault where
  /-- It does not have the form of one. -/
  | malformed
  /-- It holds a value that goes beyond the limits. -/
  | beyond (limit : LimitFault)
  deriving DecidableEq, Repr

namespace Toml

/-- A document that does not have the form of one. -/
def malformed {α : Type} : Except TomlFault α := .error .malformed

/-- Whether a character is a space within a line. -/
def isSpace (c : Char) : Bool := c == ' ' || c == '\t'

/-- The text after the spaces at its start. -/
def skipSpaces (text : Text) : Text := text.dropWhile isSpace

/-- The text after the spaces and line breaks at its start. -/
def skipBreaks (text : Text) : Text := text.dropWhile fun c => isSpace c || c == '\n'

/-- Whether a character may not stand in a comment or a one-line string: control characters other
than the tab may not. -/
def isControl (c : Char) : Bool := (c.toNat < 32 && c != '\t') || c.toNat == 127

/-- The text after the comment at its start, if there is one; a comment ends before the line
break. -/
def skipComment : Text -> Except TomlFault Text
  | '#' :: rest =>
    if (rest.takeWhile (· != '\n')).any isControl then malformed
    else .ok (rest.dropWhile (· != '\n'))
  | text => .ok text

/-- The text after the spaces, line breaks and comments at its start. -/
def skipLines : Nat -> Text -> Except TomlFault Text
  | 0, text => .ok text
  | fuel + 1, text =>
    match skipBreaks text with
    | '#' :: rest =>
      match skipComment ('#' :: rest) with
      | .error fault => .error fault
      | .ok after => skipLines fuel after
    | after => .ok after

end Toml

end TagOrder
