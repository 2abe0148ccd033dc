import TagOrder.Storage

/-!
# Shelves

Texts kept by name, with no directories and no octets. A shelf may refuse to be read or written,
and notes what was copied and written.
-/

namespace TagOrder

/-- What was done to a shelf. -/
inductive ShelfAction where
  | copied (source destination : String)
  | written (path : String)
  deriving DecidableEq, Repr

/-- Texts by name, what is refused, and what was done so far. -/
structure Shelf where
  texts : List (String × Text)
  refusesRead : Bool := false
  refusesWrite : Bool := false
  done : List ShelfAction := []
  deriving DecidableEq, Repr

namespace Shelf

/-- Texts with one of them set. -/
def setText (path : String) (text : Text) : List (String × Text) -> List (String × Text)
  | [] => [(path, text)]
  | (name, old) :: rest =>
    if name = path then (path, text) :: rest else (name, old) :: setText path text rest

/-- A text that was set is the one found. -/
theorem lookup_setText (path : String) (text : Text) (texts : List (String × Text)) :
    (setText path text texts).lookup path = some text := by
  induction texts with
  | nil => simp [setText]
  | cons entry rest ih =>
    obtain ⟨name, old⟩ := entry
    by_cases same : name = path
    · simp [setText, same]
    · simpa [setText, List.lookup_cons, same, beq_eq_false_iff_ne.mpr (Ne.symm same)] using ih

/-- Setting a text leaves the texts under other names alone. -/
theorem lookup_setText_of_ne {path other : String} (text : Text) (texts : List (String × Text))
    (distinct : other ≠ path) :
    (setText path text texts).lookup other = texts.lookup other := by
  induction texts with
  | nil => simp [setText, List.lookup_cons, beq_eq_false_iff_ne.mpr distinct]
  | cons entry rest ih =>
    obtain ⟨name, old⟩ := entry
    by_cases same : name = path
    · simp [setText, List.lookup_cons, same, beq_eq_false_iff_ne.mpr distinct]
    · cases found : other == name <;> simp_all [setText, List.lookup_cons]

/-- The text under a name. -/
def read (shelf : Shelf) (path : String) : Except FileError Text :=
  if shelf.refusesRead then .error (.refused "read")
  else match shelf.texts.lookup path with
    | some text => .ok text
    | none => .error (.missing path)

/-- The shelf with a text written under a name. -/
def write (shelf : Shelf) (path : String) (text : Text) : Except FileError Shelf :=
  if shelf.refusesWrite then .error (.refused "write")
  else .ok { shelf with
    texts := setText path text shelf.texts, done := shelf.done ++ [.written path] }

/-- The shelf with a text copied; copying is never refused. -/
def copy (shelf : Shelf) (source destination : String) : Except FileError Shelf :=
  match shelf.texts.lookup source with
  | some text => .ok { shelf with
      texts := setText destination text shelf.texts
      done := shelf.done ++ [.copied source destination] }
  | none => .error (.missing source)

/-- A shelf as a place to keep files; a path stands for the dump of that name. -/
def storage : Storage Shelf := { read, write, copy, dumps := fun _ path => .ok [path] }

end Shelf

end TagOrder
