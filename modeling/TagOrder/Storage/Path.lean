import TagOrder.Text.Slice

/-!
# Paths

A path is a root, which a relative path lacks, and the names that lead from it. Empty names and
names of one dot say nothing and are not kept; a name of two dots is.
-/

namespace TagOrder

/-- A path. The root is empty, one slash, or two slashes when the text starts with exactly two. -/
structure Path where
  root : String
  names : List String
  deriving DecidableEq, Repr

namespace Path

/-- The names between slashes that say something. -/
def namesOf (text : Text) : List String :=
  ((Text.splitAt '/' text).map String.ofList).filter fun name => name != "" && name != "."

/-- The root that the text of a path starts with. -/
def rootOf : Text -> String
  | '/' :: '/' :: '/' :: _ => "/"
  | '/' :: '/' :: _ => "//"
  | '/' :: _ => "/"
  | _ => ""

/-- The path that a text writes. -/
def ofString (text : String) : Path := ⟨rootOf text.toList, namesOf text.toList⟩

/-- The text of a path; the path that leads nowhere is a dot. -/
def toString (path : Path) : String :=
  if path.root = "" && path.names = [] then "." else path.root ++ "/".intercalate path.names

/-- The path without its last name. -/
def parent (path : Path) : Path := { path with names := path.names.dropLast }

/-- The last name of a path, empty when there is none. -/
def lastName (path : Path) : String := path.names.getLast?.getD ""

/-- One path followed from another; one with a root starts afresh. -/
def join (path next : Path) : Path :=
  if next.root = "" then { path with names := path.names ++ next.names } else next

end Path

/-- The text of a path as paths are written: without what says nothing. -/
def tidyPath (text : String) : String := (Path.ofString text).toString

end TagOrder
