import TagOrder.Text.Case
import TagOrder.Text.Digits
import TagOrder.Text.PictogramTable

/-!
# Pictograms

A word between two colons asks for a pictogram by one of its names, in letters of either case. After
the name may stand how the pictogram is to be presented. A word that names no pictogram stands for
itself, with its colons.
-/

namespace TagOrder

/-- A pictogram: the characters that show it, and the names it goes by. -/
structure Pictogram where
  sequence : Text
  names : List Text
  deriving DecidableEq, Repr

namespace Pictogram

/-- The pictogram of a line of the table. -/
def ofLine (line : String) : Pictogram :=
  match Text.splitAt ' ' line.toList with
  | [] => ⟨[], []⟩
  | codes :: names =>
    ⟨(Text.splitAt '-' codes).map fun digits => Char.ofNat (valueOfDigits 16 digits), names⟩

/-- All pictograms. -/
def all : List Pictogram := pictogramLines.map ofLine

/-- The characters that show the pictogram of a name. -/
def named? (name : Text) : Option Text :=
  (all.find? fun pictogram => pictogram.names.any (· = name)).map (·.sequence)

/-- The endings that say how a pictogram is presented, and the characters that see to it. -/
def presentations : List (Text × Char) :=
  [("-text".toList, '\ufe0e'), ("-emoji".toList, '\ufe0f')]

/-- A word cut into a name and the character that sees to its presentation, if it asks for one. -/
def cutPresentation (word : Text) : Text × List Char :=
  let cut := presentations.findSome? fun (ending, selector) =>
    (Text.dropEnd? word ending).map fun name => (name, [selector])
  cut.getD (word, [])

/-- What a word between colons shows, if it names a pictogram. -/
def ofWord? (word : Text) : Option Text :=
  let (name, selector) := cutPresentation word
  (named? (lowerFrom [] name)).map fun sequence => sequence ++ selector

/-- A text with the pictograms shown that it asks for. `word` is what has been read since a colon,
last character first, and nothing outside of colons; a blank ends a word, and a colon that ends one
word starts no other. -/
def showFrom : Option Text -> Text -> Text
  | none, [] => []
  | none, c :: rest => if c = ':' then showFrom (some []) rest else c :: showFrom none rest
  | some word, [] => ':' :: word.reverse
  | some word, c :: rest =>
    if c = ':' then
      match ofWord? word.reverse with
      | some sequence => sequence ++ showFrom none rest
      | none => ':' :: word.reverse ++ ':' :: showFrom none rest
    else if blank.has c then ':' :: word.reverse ++ c :: showFrom none rest
    else showFrom (some (c :: word)) rest

/-- A text with the pictograms shown that it asks for. -/
def showIn (text : Text) : Text := showFrom none text

end Pictogram

end TagOrder
