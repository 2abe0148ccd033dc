import TagOrder.Audit
import TagOrder.Console

/-!
# Reports

The result of an audit as a table for people or as JSON for programs. The table has a row for each
violation; a cell may take several lines, and each column is as wide as its widest line.
-/

namespace TagOrder

/-- A violation as the table lists it. -/
structure ReportRow where
  location : String
  code : String
  message : Text
  fixable : Bool
  deriving DecidableEq, Repr

namespace ReportRow

/-- The row of a violation. -/
def ofViolation (violation : Violation) : ReportRow :=
  { location := violation.location, code := violation.code, message := violation.message
    fixable := violation.fixable }

/-- How a violation is to be fixed. -/
def fix (row : ReportRow) : String := if row.fixable then "auto" else "manual"

/-- The cells of a row, as they are shown. -/
def cells (row : ReportRow) : List Text :=
  [Console.echo row.location.toList, row.code.toList, Console.echo row.message, row.fix.toList]

end ReportRow

/-- The rows of an audit. -/
def Audit.rows (audit : Audit) : List ReportRow :=
  audit.files.flatMap fun file => file.violations.map ReportRow.ofViolation

namespace Report

/-- The heading and the alignment of each column. -/
def columns : List (String × Alignment) :=
  [("Location", .left), ("Code", .left), ("Message", .left), ("Fix", .centre)]

/-- The strokes of one horizontal line of the table, or of what stands between two. -/
structure Strokes where
  first : Char
  between : Char
  last : Char

/-- Texts one beside the other, with strokes around and between them. -/
def Strokes.join (strokes : Strokes) (texts : List Text) : Text :=
  strokes.first :: Text.joinWith [strokes.between] texts ++ [strokes.last]

/-- A rule across columns of some widths. -/
def rule (strokes : Strokes) (stroke : Char) (widths : List Nat) : Text :=
  strokes.join (widths.map fun width => List.replicate (width + 2) stroke)

/-- One line of a row: the line of that number in each cell, set off by a space; a cell with fewer
lines is filled up with spaces. -/
def rowLine (strokes : Strokes) (widths : List Nat) (cells : List (List Text)) (number : Nat) :
    Text :=
  strokes.join ((widths.zip cells).map fun (width, lines) =>
    ' ' :: lines.getD number (List.replicate width ' ') ++ [' '])

/-- A row, which takes as many lines as its longest cell. -/
def rowLines (strokes : Strokes) (widths : List Nat) (cells : List Text) : List Text :=
  let cells := ((columns.zip widths).zip cells).map fun (((_, alignment), width), cell) =>
    Layout.lines alignment .ellipsis width cell
  (List.range ((cells.map List.length).foldl max 0)).map (rowLine strokes widths cells)

/-- The width that each column asks for: that of its widest cell. -/
def wantedWidths (rows : List (List Text)) : List Nat :=
  (List.range columns.length).map fun column =>
    (rows.map fun cells => Layout.width (cells.getD column [])).foldl max 0

/-- A quotient to the nearest whole number, or to the even one of two. -/
def roundDiv (number divisor : Nat) : Nat :=
  let below := number / divisor
  let twice := 2 * (number % divisor)
  if divisor < twice || (twice = divisor && below % 2 = 1) then below + 1 else below

/-- Widths with the widest of them, `sharers` in number, narrowed in turn: each gives its share of
an excess, and no more than the most that one may give. -/
def narrow (widest most : Nat) : Nat -> Nat -> List Nat -> List Nat
  | _, _, [] => []
  | excess, sharers, width :: rest =>
    if width = widest && 0 < sharers then
      let given := min most (roundDiv excess sharers)
      (width - given) :: narrow widest most (excess - given) (sharers - 1) rest
    else width :: narrow widest most excess sharers rest

/-- Widths made to fit a room: the widest are narrowed to the next widest, as long as there is an
excess. -/
def collapse (room : Nat) : Nat -> List Nat -> List Nat
  | 0, widths => widths
  | fuel + 1, widths =>
    let excess := total widths - room
    let widest := widths.foldl max 0
    let next := (widths.filter (· != widest)).foldl max 0
    if excess = 0 then widths
    else collapse room fuel
      (narrow widest (min excess (widest - next)) excess (widths.count widest) widths)

/-- The width of each column, without the space on each side of a cell. -/
def widths (rows : List (List Text)) : List Nat :=
  let room := Console.width - (columns.length + 1)
  let padded := (wantedWidths rows).map fun width => min room (width + 2)
  (collapse room (columns.length + 1) padded).map (· - 2)

/-- The headings as a row. -/
def headings : List Text := columns.map fun (heading, _) => heading.toList

/-- The strokes to the sides of the headings. -/
def heavy : Strokes := ⟨'┃', '┃', '┃'⟩

/-- The strokes to the sides of the other rows. -/
def light : Strokes := ⟨'│', '│', '│'⟩

/-- The lines of a table of rows. -/
def tableLines (title : Text) (rows : List (List Text)) : List Text :=
  let widths := widths (headings :: rows)
  let full := total (widths.map (· + 3)) + 1
  Layout.lines .centre .fold full title
    ++ [rule ⟨'┏', '┳', '┓'⟩ '━' widths]
    ++ rowLines heavy widths headings
    ++ [rule ⟨'┡', '╇', '┩'⟩ '━' widths]
    ++ rows.flatMap (rowLines light widths)
    ++ [rule ⟨'└', '┴', '┘'⟩ '─' widths]

/-- The title of a table, which shows the name of the rule. -/
def title (name : String) : Text :=
  Console.echo ('[' :: name.toList ++ "] Attribute Order Audit".toList)

/-- The line after the table. -/
def summary (audit : Audit) : Text :=
  (Nat.repr audit.count ++ " violation(s) in " ++ Nat.repr audit.faultyFiles ++ " file(s).").toList

/-- An audit as a table, with a summary. -/
def table (name : String) (audit : Audit) : String :=
  match audit.rows with
  | [] => "No attribute order violations found.\n"
  | rows => Console.ended (tableLines (title name) (rows.map ReportRow.cells) ++ [summary audit])

/-- An audit as JSON. -/
def json (audit : Audit) : String := Json.indented 0 audit.toValue ++ "\n"

end Report

end TagOrder
