import TagOrder.Text.Slice

/-!
# Lines and columns

The place of an offset in a text: a line counted from one and a column counted from zero. Only the
newline character ends a line. The column is measured from the start of the line to the offset as
given, so an offset past the end keeps counting on the last line.
-/

namespace TagOrder

/-- A place in a text. -/
structure Position where
  line : Int
  column : Int
  deriving DecidableEq, Repr

/-- The offset just after the last newline of a text, zero when there is none. -/
def lineStart (text : Text) : Nat :=
  text.length - (text.reverse.takeWhile (· != '\n')).length

/-- The place of an offset. -/
def Text.position (text : Text) (offset : Int) : Position :=
  let passed := text.before offset
  { line := passed.count '\n' + 1, column := offset - lineStart passed }

end TagOrder
