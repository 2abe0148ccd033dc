import TagOrder.Fault
import TagOrder.Storage.Volume
import TagOrder.Toml.Reader

/-!
# Project settings

A project sets its options in the section `[tool.attribute-order]` of its project file. The project
file is the nearest one, looked for in a directory and then in each directory above it. Without a
project file, or without the section, nothing is set.
-/

namespace TagOrder.Settings

/-- The name of project files. -/
def fileName : String := "pyproject.toml"

/-- The section with the options, in the table of all tools. -/
def sectionName : String := "attribute-order"

/-- The places from one up to the root. -/
def upward (place : Place) : List Place :=
  (List.range (place.length + 1)).reverse.map fun count => place.take count

/-- The first of some places that holds a file. -/
def firstFile? (volume : Volume) : List Place -> Except FileError (Option Place)
  | [] => .ok none
  | place :: rest => do
    if ← volume.isFile (Volume.placeText place) then return some place
    else firstFile? volume rest

/-- The nearest project file. -/
def find? (volume : Volume) (start : Place) : Except FileError (Option Place) :=
  firstFile? volume ((upward start).map (· ++ [fileName]))

/-- The name of the type of a value, as messages call it. -/
def typeName : Value -> String
  | .null => "NoneType"
  | .bool _ => "bool"
  | .int _ => "int"
  | .float _ => "float"
  | .text _ => "str"
  | .list _ => "list"
  | .table _ => "dict"
  | .moment (.day _) => "datetime.date"
  | .moment (.clock _) => "datetime.time"
  | .moment (.plain _ _) | .moment (.zoned _ _ _) => "datetime.datetime"

/-- The value of a key as far as it counts as true, and an empty table otherwise. -/
def fieldOr (fields : Fields) (key : String) : Value :=
  match fields.get? key with
  | some value => if value.isTrue then value else .table []
  | none => .table []

/-- The section with the options, in the fields of a project file. -/
def section? (path : String) (fields : Fields) : Except Fault Fields :=
  match fieldOr fields "tool" with
  | .table tools =>
    match fieldOr tools sectionName with
    | .table options => .ok options
    | _ => .error (.settings path .sectionNotTable)
  | value => .error (.toolNotTable (typeName value))

/-- The section with the options, in the text of a project file. -/
def ofText (limits : Limits) (path : String) (text : Text) : Except Fault Fields :=
  match Toml.read limits.settings text with
  | .ok fields => section? path fields
  | .error .malformed => .error (.settings path .malformed)
  | .error (.beyond limit) => .error (.beyond limit)

/-- The section with the options, in the octets of a project file. -/
def ofOctets (limits : Limits) (path : String) (octets : List UInt8) : Except Fault Fields :=
  match Utf8.decode octets with
  | .ok text => ofText limits path text
  | .error error => .error (.file (.undecodable error))

/-- What is set for a place. -/
def load (limits : Limits) (volume : Volume) (start : Place) : Except Fault Fields :=
  match find? volume start with
  | .error error => .error (.file error)
  | .ok none => .ok []
  | .ok (some place) =>
    match volume.get? place with
    | some (.file octets) => ofOctets limits (Volume.placeText place) octets
    | _ => .ok []

end TagOrder.Settings
