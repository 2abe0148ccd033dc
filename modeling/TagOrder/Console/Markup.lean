import TagOrder.Console.Parameters
import TagOrder.Console.Style
import TagOrder.Text.Pictogram
import TagOrder.Text.Quoted

/-!
# Markup

Text for the console holds tags in brackets, which take no room. A tag opens with a small letter or
one of `#`, `/` and `@`, has no other opening bracket in it, and ends at the next closing one. Of
the backslashes right before a tag every two stand for one, and one left over makes the tag stand
for itself. At any other opening bracket one backslash before it is lost.

A tag asks for a style, or for an action when its name starts with `@`. It stays open until a tag
closes it that names the same style after a slash, or a slash alone that closes the last one opened;
a tag that closes nothing is a fault. Pictograms are shown in the text between tags.
-/

namespace TagOrder

/-- A tag: a name and, after an equals sign, its parameters. -/
structure MarkupTag where
  name : Text
  parameters : Option Text := none
  deriving DecidableEq, Repr

/-- A piece of markup. -/
inductive MarkupPiece where
  | plain (text : Text)
  /-- A tag, with how many characters stand before it. -/
  | tag (position : Nat) (tag : MarkupTag)
  deriving DecidableEq, Repr

/-- What is wrong with markup. -/
inductive MarkupFault where
  /-- A tag closes a style that is not open. -/
  | notOpen (tag : MarkupTag) (position : Nat)
  /-- A tag closes the last style opened, and none is open. -/
  | nothingOpen (position : Nat)
  /-- The parameters of an action cannot be read. -/
  | parameters (fault : ParametersFault)
  /-- A tag asks for a colour with an empty part. -/
  | emptyPart
  deriving DecidableEq, Repr

/-- A tag as it is written. -/
def MarkupTag.toText (tag : MarkupTag) : Text :=
  match tag.parameters with
  | none => '[' :: tag.name ++ [']']
  | some parameters => '[' :: tag.name ++ '=' :: parameters ++ [']']

/-- The words for a fault. -/
def MarkupFault.message : MarkupFault -> String
  | notOpen tag position =>
    "closing tag '" ++ String.ofList tag.toText ++ "' at position " ++ Nat.repr position
      ++ " doesn't match any open tag"
  | nothingOpen position =>
    "closing tag '[/]' at position " ++ Nat.repr position ++ " has nothing to close"
  | parameters fault => fault.message
  | emptyPart => "invalid literal for int() with base 10: ''"

namespace Markup

/-- Whether a character may stand first in a tag. -/
def opensTag (c : Char) : Bool := ('a' ≤ c && c ≤ 'z') || c == '#' || c == '/' || c == '@'

/-- What stands in the tag that an opening bracket before a text makes, if it makes one, and the
text after the tag. -/
def cutTag? : Text -> Option (Text × Text)
  | c :: rest =>
    if opensTag c then
      match rest.span fun c => c != '[' && c != ']' with
      | (inner, ']' :: after) => some (c :: inner, after)
      | _ => none
    else none
  | [] => none

/-- A tag from what stands between its brackets. -/
def tagOf (inner : Text) : MarkupTag :=
  match inner.span (· != '=') with
  | (name, _ :: parameters) => ⟨name, some parameters⟩
  | (name, []) => ⟨name, none⟩

/-- Plain text with the backslash lost before each opening bracket. -/
def loseBackslashes : Text -> Text
  | '\\' :: '[' :: rest => '[' :: loseBackslashes rest
  | c :: rest => c :: loseBackslashes rest
  | [] => []

/-- A piece of plain text, unless it is empty. -/
def plainPieces (text : Text) : List MarkupPiece :=
  if text = [] then [] else [.plain (loseBackslashes text)]

/-- The pieces of markup. `length` is how long all of it is, `plain` what has been read since the
last tag, last character first, and `slashes` how many backslashes follow that. -/
def piecesWithin (length : Nat) : Nat -> Text -> Nat -> Text -> List MarkupPiece
  | 0, _, _, _ => []
  | fuel + 1, plain, slashes, text =>
    match text with
    | [] => plainPieces (plain.reverse ++ List.replicate slashes '\\')
    | '\\' :: rest => piecesWithin length fuel plain (slashes + 1) rest
    | c :: rest =>
      match if c = '[' then cutTag? rest else none with
      | none => piecesWithin length fuel (c :: (List.replicate slashes '\\' ++ plain)) 0 rest
      | some (inner, after) =>
        let tag : MarkupPiece :=
          if slashes % 2 = 1 then .plain ('[' :: inner ++ [']'])
          else .tag (length - text.length) (tagOf inner)
        plainPieces plain.reverse ++ plainPieces (List.replicate (slashes / 2) '\\')
          ++ tag :: piecesWithin length fuel [] 0 after

/-- The pieces of markup. -/
def pieces (text : Text) : List MarkupPiece :=
  piecesWithin text.length (text.length + 1) [] 0 text

/-- The normal form of a style that a tag names. -/
def normalForm (style : Text) : Except MarkupFault Text :=
  (Style.normalForm style).mapError fun _ => .emptyPart

/-- Checks the parameters of a tag that is closed. -/
def checkParameters (tag : MarkupTag) : Except MarkupFault Unit :=
  match tag.name, tag.parameters with
  | '@' :: _, some (c :: rest) =>
    match Parameters.fault? (c :: rest) (trimBlanks (c :: rest)) with
    | some fault => .error (.parameters fault)
    | none => .ok ()
  | _, _ => .ok ()

/-- The open tags, last one first, without the one that a tag closes. -/
def close (openTags : List MarkupTag) (position : Nat) (tag : MarkupTag) :
    Except MarkupFault (List MarkupTag) :=
  match trimBlanks (tag.name.drop 1), openTags with
  | [], [] => .error (.nothingOpen position)
  | [], last :: others => do
    checkParameters last
    return others
  | style, openTags => do
    let name ← normalForm style
    match openTags.find? (·.name = name) with
    | none => throw (.notOpen tag position)
    | some closed =>
      checkParameters closed
      return openTags.eraseP (·.name = name)

/-- The open tags after a tag, last one first. -/
def follow (openTags : List MarkupTag) (position : Nat) (tag : MarkupTag) :
    Except MarkupFault (List MarkupTag) :=
  match tag.name with
  | '/' :: _ => close openTags position tag
  | _ => do return { tag with name := (← normalForm tag.name) } :: openTags

/-- Checks that each tag can be followed, while some tags are open. -/
def checkTags : List MarkupTag -> List MarkupPiece -> Except MarkupFault Unit
  | _, [] => .ok ()
  | openTags, .plain _ :: rest => checkTags openTags rest
  | openTags, .tag position tag :: rest => do checkTags (← follow openTags position tag) rest

/-- Checks that all tags of markup can be followed. -/
def check (text : Text) : Except MarkupFault Unit := checkTags [] (pieces text)

/-- What a piece shows. -/
def showPiece : MarkupPiece -> Text
  | .plain text => Pictogram.showIn text
  | .tag _ _ => []

/-- What markup shows, if its tags can be followed. -/
def shown (text : Text) : Text := (pieces text).flatMap showPiece

/-- Whether a text ends in one backslash and no more. -/
def endsInBackslash (text : Text) : Bool :=
  match text.reverse with
  | '\\' :: '\\' :: _ => false
  | '\\' :: _ => true
  | _ => false

/-- A text with each tag in it made to stand for itself, together with the backslashes before
it. -/
def escapeTags : Nat -> Nat -> Text -> Text
  | 0, _, _ => []
  | fuel + 1, slashes, text =>
    match text with
    | [] => List.replicate slashes '\\'
    | '\\' :: rest => escapeTags fuel (slashes + 1) rest
    | c :: rest =>
      match if c = '[' then cutTag? rest else none with
      | none => List.replicate slashes '\\' ++ c :: escapeTags fuel 0 rest
      | some (inner, after) =>
        List.replicate (2 * slashes + 1) '\\' ++ '[' :: inner ++ ']' :: escapeTags fuel 0 after

/-- Markup that shows a text, but for its pictograms and the backslashes that markup loses; a
backslash alone at the end is doubled. -/
def escape (text : Text) : Text :=
  let escaped := escapeTags (text.length + 1) 0 text
  if endsInBackslash escaped then escaped ++ ['\\'] else escaped

end Markup

end TagOrder
