import TagOrder.Span

/-!
# Edits

An edit replaces what a span covers, and a script holds several edits of one text. Applied from
the back of the text to its front, edits with disjoint spans never disturb each other's offsets.
Several scripts may be merged when the spans they reach over do not overlap.
-/

namespace TagOrder

/-- Replace what a span covers. -/
structure Edit where
  range : Span
  replacement : Text
  deriving DecidableEq, Repr

/-- A text with one span replaced. -/
def Edit.apply (edit : Edit) (text : Text) : Text :=
  text.before edit.range.start ++ edit.replacement ++ text.after edit.range.stop

/-- Edits of one text. -/
abbrev Script := List Edit

namespace Script

/-- The edits from the back of the text to its front; edits that start together keep the order
in which they are listed. -/
def fromBack (script : Script) : Script :=
  script.mergeSort fun left right => right.range.start ≤ left.range.start

/-- A text with every edit applied. -/
def apply (script : Script) (text : Text) : Text :=
  script.fromBack.foldl (fun result edit => edit.apply result) text

/-- From the least start to the greatest stop, if there is an edit. -/
def span : Script -> Option Span
  | [] => none
  | first :: rest =>
    some (rest.foldl
      (fun reach edit => ⟨min reach.start edit.range.start, max reach.stop edit.range.stop⟩)
      first.range)

/-- The items to keep, given the spans kept so far: an item is dropped when its script is empty or
reaches over a span already kept. -/
def disjointFrom {α : Type} (script : α -> Script) (taken : List Span) : List α -> List α
  | [] => []
  | item :: rest =>
    match (script item).span with
    | none => disjointFrom script taken rest
    | some reach =>
      if taken.any reach.overlaps then disjointFrom script taken rest
      else item :: disjointFrom script (taken ++ [reach]) rest

/-- The scripts that can be merged, first come first kept. -/
def disjoint (scripts : List Script) : List Script := disjointFrom id [] scripts

/-- One script with the edits of all scripts that can be merged. -/
def merge (scripts : List Script) : Script := (disjoint scripts).flatten

end Script

end TagOrder
