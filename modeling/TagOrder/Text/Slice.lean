/-!
# Texts and slices

A text is a list of characters, and offsets into it are integers that count characters. A negative
offset counts from the end, and an offset outside the text means the nearer edge, so every slice
is defined.
-/

namespace TagOrder

/-- A text, counted in characters. -/
abbrev Text := List Char

/-- The number of characters before an offset into a text of the given length. -/
def clampOffset (length : Nat) (offset : Int) : Nat :=
  if offset < 0 then (offset + length).toNat else min offset.toNat length

/-- The part of a text before an offset. -/
def Text.before (text : Text) (offset : Int) : Text :=
  text.take (clampOffset text.length offset)

/-- The part of a text from an offset on. -/
def Text.after (text : Text) (offset : Int) : Text :=
  text.drop (clampOffset text.length offset)

/-- The part of a text between two offsets, empty when they are not in order. -/
def Text.slice (text : Text) (start stop : Int) : Text :=
  (text.before stop).drop (clampOffset text.length start)

/-- The text without its first characters when it begins with the given ones. -/
def Text.dropLead? (text lead : Text) : Option Text :=
  if lead.isPrefixOf text then some (text.drop lead.length) else none

/-- The text without its last characters when it ends in the given ones. -/
def Text.dropEnd? (text ending : Text) : Option Text :=
  (Text.dropLead? text.reverse ending.reverse).map List.reverse

/-- A text cut at every occurrence of one character. -/
def Text.splitAt (separator : Char) : Text -> List Text
  | [] => [[]]
  | c :: rest =>
    if c = separator then [] :: Text.splitAt separator rest
    else match Text.splitAt separator rest with
      | [] => [[c]]
      | first :: others => (c :: first) :: others

/-- Texts put together with a separator between neighbours. -/
def Text.joinWith (separator : Text) : List Text -> Text
  | [] => []
  | [only] => only
  | first :: second :: others => first ++ separator ++ Text.joinWith separator (second :: others)

end TagOrder
