import TagOrder.Text.Slice

/-!
# Patterns for files

A pattern is a list of parts between slashes. Two stars alone stand for a directory and all
directories under it; in other parts a star stands for any characters, a question mark for one, and
brackets for one of the characters in them, or for any other when an exclamation mark comes first.
-/

namespace TagOrder

/-- An element of a pattern for one name. -/
inductive GlobElement where
  | star
  | anyOne
  | literal (c : Char)
  /-- One character that lies, or does not lie, in one of some ranges. -/
  | oneOf (inside : Bool) (ranges : List (Char × Char))
  deriving DecidableEq, Repr

/-- A part of a pattern. -/
inductive GlobPart where
  /-- A directory and all directories under it. -/
  | subtree
  /-- The names that elements match. -/
  | pattern (elements : List GlobElement)
  /-- One name. -/
  | name (name : String)
  /-- Nothing more, but what was found has to be a directory. -/
  | itself
  deriving DecidableEq, Repr

namespace Glob

/-- What stands between brackets cut at the hyphens that make ranges: none stands first, and after
one the next counts only two characters on. `skip` is how many characters are passed over before a
hyphen counts. -/
def chunks (skip : Nat) : Text -> List Text
  | [] => [[]]
  | c :: rest =>
    if c = '-' && skip = 0 then [] :: chunks 2 rest
    else match chunks (skip - 1) rest with
      | [] => [[c]]
      | first :: others => (c :: first) :: others

/-- Chunks whose last one is not empty: a hyphen at the end stands for itself. -/
def closeChunks (chunks : List Text) : List Text :=
  match chunks.reverse with
  | [] :: last :: others => ((last ++ ['-']) :: others).reverse
  | _ => chunks

/-- Chunks joined to one where they would make a range that is not in order, whose ends are lost. -/
def joinEmptyRanges : List Text -> List Text
  | [] => []
  | chunk :: rest =>
    match joinEmptyRanges rest with
    | [] => [chunk]
    | next :: others =>
      match chunk.getLast?, next with
      | some low, high :: after =>
        if high < low then (chunk.dropLast ++ after) :: others else chunk :: next :: others
      | _, _ => chunk :: next :: others

/-- The ranges that chunks write: one between each two of them, and one of each other character.
`low` is the character before the last hyphen. -/
def rangesOf (low : Option Char) : List Text -> List (Char × Char)
  | [] => []
  | chunk :: rest =>
    let range := match low, chunk with
      | some low, high :: _ => [(low, high)]
      | _, _ => []
    let after := if low.isSome then chunk.drop 1 else chunk
    let singles := if rest.isEmpty then after else after.dropLast
    range ++ singles.map (fun c => (c, c)) ++ rangesOf after.getLast? rest

/-- The element that stands between brackets. -/
def bracketed (inner : Text) : GlobElement :=
  let lead := if inner.head? = some '!' then 2 else 1
  match joinEmptyRanges (closeChunks (chunks lead inner)) with
  | ('!' :: first) :: others => .oneOf false (rangesOf none (first :: others))
  | chunks => .oneOf true (rangesOf none chunks)

/-- What stands between an opening bracket and the one that closes it, and the text after that; a
closing bracket that comes first stands for itself. -/
def cutBrackets? (text : Text) : Option (Text × Text) :=
  let lead := match text with
    | '!' :: ']' :: _ => 2
    | '!' :: _ | ']' :: _ => 1
    | _ => 0
  match (text.drop lead).span (· != ']') with
  | (inner, _ :: after) => some (text.take lead ++ inner, after)
  | (_, []) => none

/-- The elements of a part. -/
def elements : Nat -> Text -> List GlobElement
  | 0, _ => []
  | fuel + 1, text =>
    match text with
    | [] => []
    | '*' :: rest => .star :: elements fuel rest
    | '?' :: rest => .anyOne :: elements fuel rest
    | '[' :: rest =>
      match cutBrackets? rest with
      | some (inner, after) => bracketed inner :: elements fuel after
      | none => .literal '[' :: elements fuel rest
    | c :: rest => .literal c :: elements fuel rest

/-- Whether an element that is no star matches a character. -/
def GlobElement.has (element : GlobElement) (c : Char) : Bool :=
  match element with
  | .star => false
  | .anyOne => true
  | .literal other => c = other
  | .oneOf inside ranges => inside == ranges.any fun (low, high) => low ≤ c && c ≤ high

/-- The rests of a text after which one may go on. -/
def tails : Text -> List Text
  | [] => [[]]
  | c :: rest => (c :: rest) :: tails rest

/-- Whether elements match a text. -/
def «matches» : List GlobElement -> Text -> Bool
  | [], text => text.isEmpty
  | .star :: rest, text => (tails text).any («matches» rest)
  | element :: rest, text =>
    match text with
    | [] => false
    | c :: after => GlobElement.has element c && «matches» rest after

/-- Whether two stars stand somewhere in a text. -/
def hasTwoStars : Text -> Bool
  | '*' :: '*' :: _ => true
  | _ :: rest => hasTwoStars rest
  | [] => false

/-- A part of a pattern, unless it has two stars and more. -/
def part? (text : Text) : Option GlobPart :=
  if text = ['*', '*'] then some .subtree
  else if hasTwoStars text then none
  else if text.any fun c => c == '*' || c == '?' || c == '[' then
    some (.pattern (elements text.length text))
  else some (.name (String.ofList text))

/-- The parts of a pattern; one that ends in a slash asks for directories. -/
def parts? (pattern : String) : Option (List GlobPart) :=
  let texts := (Text.splitAt '/' pattern.toList).filter fun text => text != [] && text != ['.']
  (texts.mapM part?).map fun parts =>
    if pattern.toList.getLast? = some '/' then parts ++ [.itself] else parts

end Glob

end TagOrder
