import TagOrder.Storage.Copy
import TagOrder.Storage.Glob
import TagOrder.Text.Order

/-!
# Searching volumes

The files that a pattern finds, from a directory on. What is found is told by the names that lead to
it, among which there may be two dots.
-/

namespace TagOrder.Volume

/-- The names of what stands in a directory, with whether each is a directory itself. -/
def children (volume : Volume) (place : Place) : List (String × Bool) :=
  volume.entries.filterMap fun (other, entry) =>
    match other.getLast? with
    | some name =>
      if other.dropLast = place then some (name, entry == .directory) else none
    | none => none

/-- The names that lead from a place to itself and to each directory under it. -/
def directoriesUnder (volume : Volume) (place : Place) : List (List String) :=
  [] :: volume.entries.filterMap fun (other, entry) =>
    if entry == .directory && place.isPrefixOf other && place ≠ other then
      some (other.drop place.length)
    else none

/-- The place to which names lead from the root, if they lead anywhere. -/
def placeOf? (volume : Volume) (names : List String) : Option Place :=
  (volume.walk [] names).toOption

/-- The names that lead to what the parts of a pattern find, from where some names lead. -/
def select (volume : Volume) :
    List GlobPart -> List String -> Except FileError (List (List String))
  | [], names => .ok [names]
  | .itself :: _, names => .ok [names]
  | .subtree :: rest, names => do
    let found := ((volume.placeOf? names).map volume.directoriesUnder).getD []
    return (← found.mapM fun below => select volume rest (names ++ below)).flatten
  | .pattern elements :: rest, names => do
    let found := ((volume.placeOf? names).map volume.children).getD []
    let matching := found.filter fun (name, directory) =>
      (directory || rest.isEmpty) && Glob.matches elements name.toList
    return (← matching.mapM fun (name, _) => select volume rest (names ++ [name])).flatten
  | .name name :: rest, names => do
    match ← volume.entryAt? (placeText (names ++ [name])) with
    | some .directory => select volume rest (names ++ [name])
    | some (.file _) => if rest.isEmpty then return [names ++ [name]] else return []
    | none => return []

/-- The pattern of all names that end in a certain way, in a directory and under it. -/
def patternOf (ending : String) : String := "**/*" ++ ending

/-- The files that parts of a pattern find from a place on, by their texts in ascending order. -/
def filesFound (volume : Volume) (parts : List GlobPart) (place : Place) :
    Except FileError (List String) := do
  let found ← volume.select parts place
  let files ← found.filterM fun names => volume.isFile (placeText names)
  return sortStrings (files.map placeText).eraseDups

/-- The files that a path stands for: those under a directory whose names end in a certain way, or
the path itself when its own name does, whether or not it is there. -/
def glob (volume : Volume) (path ending : String) : Except FileError (List String) := do
  let place ← volume.resolve path
  if ← volume.isDirectory (placeText place) then
    match Glob.parts? (patternOf ending) with
    | some parts => volume.filesFound parts place
    | none => throw .badPattern
  else if endsWith (place.getLast?.getD "") ending then return [placeText place]
  else return []

/-- A volume as a place to keep files. -/
def storage : Storage Volume :=
  { read := readText
    write := write
    copy := copyFile
    dumps := fun volume path => volume.glob path dumpEnding }

end TagOrder.Volume
