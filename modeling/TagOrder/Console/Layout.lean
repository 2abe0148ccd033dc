import TagOrder.Text.Slice
import TagOrder.Text.Width

/-!
# Layout

How a text is laid out in lines of a width. Each of its lines is cut between words where the next
word would not fit; a word that fits on no line is either cut itself or left to be cut off. Then
each line is aligned and cut off at the width.
-/

namespace TagOrder

/-- How the lines of a text are aligned. -/
inductive Alignment where
  /-- Lines stay as they are. -/
  | none
  /-- Lines are filled up to the width. -/
  | left
  /-- Lines are filled up to the width on both sides, with an odd space on the right. -/
  | centre
  deriving DecidableEq, Repr

/-- What becomes of a word that fits on no line. -/
inductive Overflow where
  /-- It is cut and goes on in the next line. -/
  | fold
  /-- Its end is left out, with a mark in its place. -/
  | ellipsis
  deriving DecidableEq, Repr

namespace Layout

/-- Whether a character is left out: bell, backspace, vertical tab, form feed and carriage return
are. -/
def isDropped (c : Char) : Bool :=
  c == '\x07' || c == '\x08' || c == '\x0b' || c == '\x0c' || c == '\r'

/-- A line with each tab made the spaces to the next stop, of which there is one every eight cells.
`column` is the number of cells before the line. -/
def expandTabs (column : Nat) : Text -> Text
  | [] => []
  | '\t' :: rest =>
    let stop := (column / 8 + 1) * 8
    List.replicate (stop - column) ' ' ++ expandTabs stop rest
  | c :: rest => c :: expandTabs (column + cellsOf c) rest

/-- A text without the blanks at its end. -/
def trimEnd (text : Text) : Text := (text.reverse.dropWhile blank.has).reverse

/-- The words of a line, each with the blanks after it, and the first with those before it. -/
def words : Nat -> Text -> List Text
  | 0, _ => []
  | fuel + 1, text =>
    let (lead, rest) := text.span blank.has
    let (word, rest) := rest.span fun c => !blank.has c
    let (gap, rest) := rest.span blank.has
    match rest with
    | [] => [lead ++ word ++ gap]
    | rest => (lead ++ word ++ gap) :: words fuel rest

/-- A word cut into parts that fit a width. `part` is the part begun, last character first, and
`used` the cells that it takes. -/
def chopFrom (width : Nat) (part : Text) (used : Nat) : Text -> List Text
  | [] => [part.reverse]
  | c :: rest =>
    if width < used + cellsOf c then part.reverse :: chopFrom width [c] (cellsOf c) rest
    else chopFrom width (c :: part) (used + cellsOf c) rest

/-- Lines that hold some words in order, after a line begun that takes some cells. -/
def divideFrom (width : Nat) (overflow : Overflow) (line : Text) (used : Nat) :
    List Text -> List Text
  | [] => [line]
  | word :: rest =>
    let size := cells (trimEnd word)
    if used + size ≤ width then
      divideFrom width overflow (line ++ word) (used + cells word) rest
    else
      let before := if line = [] then [] else [line]
      if width < size && overflow == .fold then
        let parts := chopFrom width [] 0 word
        let last := parts.getLast?.getD []
        before ++ parts.dropLast ++ divideFrom width overflow last (cells last) rest
      else before ++ divideFrom width overflow word (cells word) rest

/-- A line cut between words to fit a width. -/
def divide (width : Nat) (overflow : Overflow) (line : Text) : List Text :=
  if cells line ≤ width then [line]
  else divideFrom width overflow [] 0 (words line.length line)

/-- A line without the blanks at its end that lie beyond so many characters. -/
def trimBeyond (count : Nat) (line : Text) : Text :=
  let blanks := line.length - (trimEnd line).length
  line.take (line.length - min blanks (line.length - count))

/-- The beginning of a line that takes so many cells, found by halving the part in question; a wide
character that would be cut in two gives way to a space. -/
def beginning (line : Text) (total : Nat) : Nat -> Nat -> Nat -> Text
  | 0, _, _ => line
  | fuel + 1, start, stop =>
    let middle := (start + stop) / 2
    let before := line.take (middle + 1)
    let size := cells before
    if size = total + 1 && (before.getLast?.map cellsOf) = some 2 then before.dropLast ++ [' ']
    else if size = total then before
    else if total < size then beginning line total fuel start middle
    else beginning line total fuel middle stop

/-- A line cut off at a number of cells, if it takes more. -/
def cutOff (total : Nat) (line : Text) : Text :=
  if total = 0 then []
  else if cells line ≤ total then line
  else beginning line total (line.length + 1) 0 line.length

/-- A line cut off at a width. -/
def truncate (width : Nat) (overflow : Overflow) (line : Text) : Text :=
  if cells line ≤ width then line
  else match overflow with
    | .fold => cutOff width line
    | .ellipsis => cutOff (width - 1) line ++ ['…']

/-- A line aligned in a width. -/
def align (alignment : Alignment) (overflow : Overflow) (width : Nat) (line : Text) : Text :=
  match alignment with
  | .none => truncate width overflow line
  | .left =>
    let line := truncate width overflow line
    line ++ List.replicate (width - cells line) ' '
  | .centre =>
    let line := truncate width overflow (trimEnd line)
    let spare := width - cells line
    List.replicate (spare / 2) ' ' ++ line ++ List.replicate (spare - spare / 2) ' '

/-- The lines that a text takes when it is laid out in a width. -/
def lines (alignment : Alignment) (overflow : Overflow) (width : Nat) (text : Text) : List Text :=
  (Text.splitAt '\n' (text.filter fun c => !isDropped c)).flatMap fun line =>
    (divide width overflow (expandTabs 0 line)).map fun part =>
      align alignment overflow width (trimBeyond width part)

/-- Characters at which a text is cut into lines when it is measured: line breaks and separators of
any kind. -/
def breaksLine (c : Char) : Bool :=
  ('\n' ≤ c && c ≤ '\r') || ('\x1c' ≤ c && c ≤ '\x1e') || c == '\x85' || c == '\u2028'
    || c == '\u2029'

/-- The most cells that a line of a text takes, given those of the line begun. -/
def widthFrom (used : Nat) : Text -> Nat
  | [] => used
  | c :: rest =>
    if breaksLine c then max used (widthFrom 0 rest) else widthFrom (used + cellsOf c) rest

/-- The width of a text: that of the widest of its lines, where a tab takes no room. -/
def width (text : Text) : Nat := widthFrom 0 (text.filter fun c => !isDropped c)

end Layout

end TagOrder
