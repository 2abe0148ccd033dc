import TagOrder.Text.Slice

/-!
# Spans

A span is a half-open range of offsets into a source text.
-/

namespace TagOrder

/-- The offsets from `start` up to, and not including, `stop`. -/
structure Span where
  start : Int
  stop : Int
  deriving DecidableEq, Repr

namespace Span

/-- A span moved by a distance. -/
def shift (span : Span) (distance : Int) : Span :=
  ⟨span.start + distance, span.stop + distance⟩

/-- Whether two spans share ground; an empty span overlaps one that holds it strictly inside. -/
def overlaps (left right : Span) : Bool :=
  left.start < right.stop && right.start < left.stop

/-- The part of a text that a span covers. -/
def of (span : Span) (text : Text) : Text := text.slice span.start span.stop

end Span

end TagOrder
