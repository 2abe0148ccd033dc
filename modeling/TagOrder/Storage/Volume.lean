import TagOrder.Storage
import TagOrder.Storage.Path
import TagOrder.Total

/-!
# Volumes

A tree of files and directories with a working directory. A path is followed name by name, and
every name but the last has to lead to a directory, also where two dots lead back out of it.
There are no symbolic links: a place has one list of names that leads to it, and so resolving a path
only folds the names.

Texts are read as UTF-8, with every line ending made a newline, and written as they are.
-/

namespace TagOrder

/-- What stands at a place of a volume. -/
inductive Entry where
  | file (octets : List UInt8)
  | directory
  deriving DecidableEq, Repr

/-- A place of a volume: the names that lead to it from the root. -/
abbrev Place := List String

/-- Files and directories by place; the root is always there. -/
structure Volume where
  entries : List (Place × Entry) := []
  /-- The working directory. -/
  here : Place := []
  deriving DecidableEq, Repr

namespace Volume

/-- What stands at a place. -/
def get? (volume : Volume) (place : Place) : Option Entry :=
  if place = [] then some .directory else volume.entries.lookup place

/-- Entries with one of them set. -/
def setEntry (place : Place) (entry : Entry) : List (Place × Entry) -> List (Place × Entry)
  | [] => [(place, entry)]
  | (other, old) :: rest =>
    if other = place then (place, entry) :: rest else (other, old) :: setEntry place entry rest

/-- A volume with something put at a place. -/
def put (volume : Volume) (place : Place) (entry : Entry) : Volume :=
  { volume with entries := setEntry place entry volume.entries }

/-- What was put at a place stands there. -/
theorem get?_put (volume : Volume) {place : Place} (entry : Entry) (below : place ≠ []) :
    (volume.put place entry).get? place = some entry := by
  have found : (setEntry place entry volume.entries).lookup place = some entry := by
    induction volume.entries with
    | nil => simp [setEntry]
    | cons stored rest ih =>
      obtain ⟨there, held⟩ := stored
      by_cases same : there = place
      · simp [setEntry, same]
      · simpa [setEntry, List.lookup_cons, same, beq_eq_false_iff_ne.mpr (Ne.symm same)] using ih
  simpa [get?, put, below] using found

/-- Putting something at a place leaves the other places alone. -/
theorem get?_put_of_ne (volume : Volume) {place other : Place} (entry : Entry)
    (distinct : other ≠ place) :
    (volume.put place entry).get? other = volume.get? other := by
  have found : (setEntry place entry volume.entries).lookup other
      = volume.entries.lookup other := by
    induction volume.entries with
    | nil => simp [setEntry, List.lookup_cons, beq_eq_false_iff_ne.mpr distinct]
    | cons stored rest ih =>
      obtain ⟨there, held⟩ := stored
      by_cases same : there = place
      · simp [setEntry, List.lookup_cons, same, beq_eq_false_iff_ne.mpr distinct]
      · cases matched : other == there <;> simp_all [setEntry, List.lookup_cons]
  simp [get?, put, found]

/-- A volume with every directory on the way to a place, and the place itself as one. -/
def makeDirectories (volume : Volume) (place : Place) : Volume :=
  (List.range (place.length + 1)).foldl
    (fun result count =>
      if (result.get? (place.take count)).isSome then result
      else result.put (place.take count) .directory)
    volume

/-- Why a path leads nowhere. -/
inductive WalkFault where
  | missing
  | notDirectory
  /-- A name is too long to be looked up. -/
  | tooLong
  deriving DecidableEq, Repr

/-- The most octets that a name may take. -/
def nameLimit : Nat := 255

/-- How many octets a path takes have to stay below this number. -/
def pathLimit : Nat := 4096

/-- How many octets a name or a path takes; half of a surrogate pair stands for an octet that is no
text. -/
def octetCount (text : String) : Nat :=
  total (text.toList.map fun c => if isSurrogate c then 1 else (Utf8.encodeChar c).length)

/-- The place to which names lead; every place left behind has to be a directory. -/
def walk (volume : Volume) (place : Place) : List String -> Except WalkFault Place
  | [] => .ok place
  | name :: rest =>
    match volume.get? place with
    | some .directory =>
      if name = ".." then walk volume place.dropLast rest
      else if nameLimit < octetCount name then .error .tooLong
      else walk volume (place ++ [name]) rest
    | some (.file _) => .error .notDirectory
    | none => .error .missing

/-- The place from which a path starts. -/
def origin (volume : Volume) (path : Path) : Place := if path.root = "" then volume.here else []

/-- The place to which a path leads. -/
def find (volume : Volume) (path : Path) : Except WalkFault Place :=
  volume.walk (volume.origin path) path.names

/-- The error of a path that leads nowhere, with the path as it was given. -/
def walkError (path : String) : WalkFault -> FileError
  | .missing => .missing path
  | .notDirectory => .notDirectory path
  | .tooLong => .tooLong path

/-- The name after the last slash of a path as given. -/
def baseName (given : String) : String :=
  String.ofList ((Text.splitAt '/' given.toList).getLast?.getD [])

/-- Whether a path as given asks for a directory: it ends in a slash, or in one and a dot. -/
def asksDirectory (given : String) : Bool := baseName given == "" || baseName given == "."

/-- Why a text is no path: it holds halves of surrogate pairs that stand for no octet, or a NUL. -/
def pathFault? (given : String) : Option FileError :=
  let isOctet (c : Char) : Bool := 0xDC80 ≤ codePoint c && codePoint c ≤ 0xDCFF
  match Utf8.encodeFaultFrom isOctet 0 given.toList with
  | some error => some (.unencodable error)
  | none => if '\x00' ∈ given.toList then some .nulInPath else none

/-- The place to which a path leads, for an operation that names the path as given. -/
def locate (volume : Volume) (given : String) : Except FileError Place :=
  match pathFault? given with
  | some error => .error error
  | none =>
    if given = "" then .error (.missing given)
    else if pathLimit ≤ octetCount given then .error (.tooLong given)
    else match volume.find (Path.ofString given) with
      | .error fault => .error (walkError given fault)
      | .ok place =>
        match asksDirectory given, volume.get? place with
        | true, some (.file _) => .error (.notDirectory given)
        | _, _ => .ok place

/-- Whether a path as given ends in a name, with a slash after it. -/
def namesDirectory (given : String) : Bool :=
  baseName given == "" &&
    ((Text.splitAt '/' given.toList).filter (· ≠ [])).getLast?.all fun name =>
      name ≠ ['.'] && name ≠ ['.', '.']

/-- The place to which a path leads, for an operation that makes a file there. -/
def locateNew (volume : Volume) (given : String) : Except FileError Place :=
  match volume.locate given with
  | .error (.notDirectory path) =>
    match namesDirectory given, volume.find (Path.ofString given) with
    | true, .ok _ => .error (.isDirectory given)
    | _, _ => .error (.notDirectory path)
  | .error error => .error error
  | .ok place => if namesDirectory given then .error (.isDirectory given) else .ok place

/-- The octets of the file to which a path leads. -/
def readOctets (volume : Volume) (given : String) : Except FileError (List UInt8) := do
  let place ← volume.locate given
  match volume.get? place with
  | some (.file octets) => return octets
  | some .directory => throw (.isDirectory given)
  | none => throw (.missing given)

/-- The volume with the file to which a path leads written. A path that ends in a slash names a
directory, whether or not there is one. -/
def writeOctets (volume : Volume) (given : String) (octets : List UInt8) :
    Except FileError Volume := do
  let place ← volume.locateNew given
  match volume.get? place with
  | some (.file _) => return volume.put place (.file octets)
  | some .directory => throw (.isDirectory given)
  | none =>
    if asksDirectory given then throw (.missing given)
    else return volume.put place (.file octets)

/-- The text of a file. -/
def readText (volume : Volume) (path : String) : Except FileError Text := do
  let octets ← volume.readOctets (tidyPath path)
  match Utf8.decode octets with
  | .ok text => return text.unifyNewlines
  | .error error => throw (.undecodable error)

/-- The volume with a text written to a file. -/
def write (volume : Volume) (path : String) (text : Text) : Except FileError Volume :=
  volume.writeOctets (tidyPath path) (Utf8.encode text)

/-- What writing a text to a file leaves, and why it failed if it did, where the text may hold
halves of surrogate pairs. The file is emptied first, and stays so when there are any. -/
def writeText (volume : Volume) (path : String) (text : Text) : Volume × Option FileError :=
  match volume.write path [] with
  | .error error => (volume, some error)
  | .ok emptied =>
    match Utf8.encodeFault? text with
    | some error => (emptied, some (.unencodable error))
    | none =>
      match volume.write path text with
      | .error error => (volume, some error)
      | .ok written => (written, none)

/-- What stands at the place to which a path leads, if anything does; only a name that is too long
makes it an error to ask. -/
def entryAt? (volume : Volume) (path : String) : Except FileError (Option Entry) :=
  match volume.locate (tidyPath path) with
  | .ok place => .ok (volume.get? place)
  | .error (.tooLong path) => .error (.tooLong path)
  | .error _ => .ok none

/-- Whether a path leads to a directory. -/
def isDirectory (volume : Volume) (path : String) : Except FileError Bool :=
  (volume.entryAt? path).map fun entry => entry == some .directory

/-- Whether a path leads to a file. -/
def isFile (volume : Volume) (path : String) : Except FileError Bool :=
  (volume.entryAt? path).map fun entry => entry.any (· != .directory)

/-- Names with every two dots folded away. -/
def foldNames (place : Place) : List String -> Place
  | [] => place
  | name :: rest => foldNames (if name = ".." then place.dropLast else place ++ [name]) rest

/-- The text of a place. -/
def placeText (place : Place) : String := "/" ++ "/".intercalate place

/-- A path made absolute, with every two dots folded away. -/
def resolve (volume : Volume) (path : String) : Except FileError Place :=
  match pathFault? path with
  | some error => .error error
  | none =>
    let path := Path.ofString path
    .ok (foldNames (volume.origin path) path.names)

/-- Whether a text ends with another. -/
def endsWith (text ending : String) : Bool := ending.toList.reverse.isPrefixOf text.toList.reverse

end Volume

end TagOrder
