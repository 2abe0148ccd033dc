import TagOrder.Rule

/-!
# Repairing a tag

A tag is repaired in memory: its first fixable violation is resolved and the rotated tag checked
again, until it is clean, nothing can be fixed, the passes are used up, or an arrangement comes
back. A tag that does not come clean ends in the arrangement with the fewest violations among those
visited, the earliest one when several have as few.
-/

namespace TagOrder

/-- The text that the attributes of a tag cover, empty when the tag has none. -/
def Placed.spanText (placed : Placed) : Text :=
  match placed.tag.span with
  | some span => span.of placed.text
  | none => []

/-- An arrangement that was visited: its text, the tag in it and how many violations it has. -/
structure Visit where
  arrangement : Text
  placed : Placed
  count : Nat
  deriving DecidableEq, Repr

/-- One attempt to resolve a violation, and what it gave. -/
structure RepairPass where
  violation : Violation
  result : Option Placed
  deriving DecidableEq, Repr

/-- How a repair ended. -/
structure Repair where
  placed : Placed
  clean : Bool
  passes : List RepairPass
  /-- An arrangement came back. -/
  cycled : Bool := false
  deriving DecidableEq, Repr

/-- The visit with the fewest violations, the earliest of those. -/
def fewest (best : Visit) : List Visit -> Visit
  | [] => best
  | visit :: rest => fewest (if visit.count < best.count then visit else best) rest

/-- The end of a repair that did not come clean. -/
def Repair.settled (placed : Placed) (visited : List Visit) (passes : List RepairPass)
    (cycled : Bool) : Repair :=
  { placed := match visited with
      | [] => placed
      | first :: rest => (fewest first rest).placed
    clean := false, passes, cycled }

/-- A repair after some visits and passes, with so many passes left. -/
def repairFrom (rule : Rule) (left : Nat) (visited : List Visit) (passes : List RepairPass)
    (placed : Placed) : Except TemplateFault Repair :=
  match rule.check placed.tag with
  | .error fault => .error fault
  | .ok [] => .ok { placed, clean := true, passes }
  | .ok violations =>
    if visited.any (·.arrangement == placed.spanText) then
      .ok (Repair.settled placed visited passes true)
    else
      let visited := visited ++ [⟨placed.spanText, placed, violations.length⟩]
      match left, violations.find? (·.fixable) with
      | left + 1, some violation =>
        match Rule.applyFix? violation placed.text with
        | some next => repairFrom rule left visited (passes ++ [⟨violation, some next⟩]) next
        | none => .ok (Repair.settled placed visited (passes ++ [⟨violation, none⟩]) false)
      | _, _ => .ok (Repair.settled placed visited passes false)

/-- The repair of a tag in a text. -/
def repair (rule : Rule) (placed : Placed) : Except TemplateFault Repair :=
  repairFrom rule rule.options.maxPasses [] [] placed

end TagOrder
