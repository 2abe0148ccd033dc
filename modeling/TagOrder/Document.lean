import TagOrder.Json.Reader
import TagOrder.Rotation
import TagOrder.Storage
import TagOrder.Storage.Path
import TagOrder.Value.Literal

/-!
# Documents and parser dumps

A document is a template source with the start tags that a parser found in it. The parser leaves a
dump beside the source: a JSON table that names the source, relative to the dump, and lists the
tags. A dump is taken exactly when it has this form and every range lies inside the source.
-/

namespace TagOrder

/-- A template source with its start tags. -/
structure Document where
  path : String
  text : Text
  tags : List Tag
  deriving DecidableEq, Repr

/-- What is wrong with a dump. -/
inductive DumpFault where
  | unreadable (error : FileError)
  | notJson (fault : JsonFault) (line : Nat)
  | notTable
  | noSource
  | sourceUnreadable (path : String) (error : FileError)
  | tagsNotList
  | tagNotTable
  | attributesNotList
  | attributeNotTable
  | nameNotText
  | rangeNotPair (value : Value)
  | rangeOutside (value : Value)
  | argumentNotText (name : String)
  | modifiersNotList (name : String)

/-- The words for what is wrong with a dump. -/
def DumpFault.message : DumpFault -> String
  | unreadable error => "cannot read dump (" ++ error.message ++ ")"
  | notJson fault line => "invalid JSON (" ++ fault.message ++ " at line " ++ Nat.repr line ++ ")"
  | notTable => "top level must be an object"
  | noSource => "'source' must name the template file"
  | sourceUnreadable path error =>
    "cannot read source " ++ path ++ " (" ++ error.message ++ ")"
  | tagsNotList => "'tags' must be a list"
  | tagNotTable => "every tag must be an object"
  | attributesNotList => "'attributes' must be a list"
  | attributeNotTable => "every attribute must be an object"
  | nameNotText => "attribute 'name' must be a string"
  | rangeNotPair value => "ranges must be [start, end] pairs, got " ++ value.literal
  | rangeOutside value => "range " ++ value.literal ++ " lies outside the source"
  | argumentNotText name => "argument of '" ++ name ++ "' must be a string or null"
  | modifiersNotList name => "modifiers of '" ++ name ++ "' must be a list"

/-- Why a document could not be loaded. -/
inductive LoadError where
  /-- The dump under a path is refused. -/
  | dump (path : String) (fault : DumpFault)
  /-- A file holds no text, or its path cannot be one. -/
  | file (error : FileError)
  /-- The dump holds a value that goes beyond the limits. -/
  | beyond (limit : LimitFault)

/-- The words for a document that could not be loaded. -/
def LoadError.message : LoadError -> String
  | dump path fault => path ++ ": " ++ fault.message
  | file error => error.message
  | beyond limit => limit.message

namespace Dump

/-- The span that a value gives in a text. -/
def readSpan (text : Text) (value : Value) : Except DumpFault Span :=
  match value with
  | .list [.int start, .int stop] =>
    if 0 ≤ start && start ≤ stop && stop ≤ text.length then .ok ⟨start, stop⟩
    else .error (.rangeOutside value)
  | _ => .error (.rangeNotPair value)

/-- The span under a key. -/
def spanField (text : Text) (fields : Fields) (key : String) : Except DumpFault Span :=
  readSpan text ((fields.get? key).getD .null)

/-- The argument of an attribute, if it has one. -/
def argumentField (name : String) (fields : Fields) : Except DumpFault (Option String) :=
  match fields.get? "argument" with
  | none | some .null => .ok none
  | some (.text argument) => .ok (some argument)
  | some _ => .error (.argumentNotText name)

/-- The modifiers of an attribute. -/
def modifiersField (name : String) (fields : Fields) : Except DumpFault (List String) :=
  match fields.get? "modifiers" with
  | none => .ok []
  | some (.list modifiers) => .ok (modifiers.map Value.display)
  | some _ => .error (.modifiersNotList name)

/-- Whether a key is there with a value that counts as true. -/
def flagField (fields : Fields) (key : String) : Bool := (fields.get? key).any Value.isTrue

/-- The attribute that a value lists, with its texts and its place read off the source. -/
def readAttribute (text : Text) (value : Value) : Except DumpFault Attribute :=
  match value.fields? with
  | some fields =>
    match fields.get? "name" with
    | some (.text name) => do
      let range ← spanField text fields "range"
      let keyRange ← spanField text fields "keyRange"
      let argument ← argumentField name fields
      let modifiers ← modifiersField name fields
      let position := text.position range.start
      return { directive := flagField fields "directive", name, range, keyRange
               text := range.of text, keyText := keyRange.of text, argument
               dynamic := flagField fields "dynamic", modifiers
               line := position.line, column := position.column }
    | _ => .error .nameNotText
  | none => .error .attributeNotTable

/-- The attributes that values list. -/
def readAttributes (text : Text) : List Value -> Except DumpFault (List Attribute)
  | [] => .ok []
  | value :: rest => do
    let node ← readAttribute text value
    let others ← readAttributes text rest
    return node :: others

/-- The tag that a value lists. -/
def readTag (path : String) (text : Text) (value : Value) : Except DumpFault Tag :=
  match value.fields? with
  | some fields =>
    let name := ((fields.get? "name").getD (.text "")).display
    match (fields.get? "attributes").getD (.list []) with
    | .list items => do
      let attributes ← readAttributes text items
      return { name, attributes, path }
    | _ => .error .attributesNotList
  | none => .error .tagNotTable

/-- The tags that values list. -/
def readTags (path : String) (text : Text) : List Value -> Except DumpFault (List Tag)
  | [] => .ok []
  | value :: rest => do
    let tag ← readTag path text value
    let others ← readTags path text rest
    return tag :: others

/-- The tags of a dump; a dump without any lists none. -/
def tagsField (path : String) (text : Text) (fields : Fields) : Except DumpFault (List Tag) :=
  match (fields.get? "tags").getD (.list []) with
  | .list items => readTags path text items
  | _ => .error .tagsNotList

/-- The source that a dump names. -/
def sourceField (fields : Fields) : Except DumpFault String :=
  match fields.get? "source" with
  | some (.text source) => if source = "" then .error .noSource else .ok source
  | _ => .error .noSource

/-- The path of a source named by a dump: relative to the directory of the dump. -/
def sourcePath (dumpPath source : String) : String :=
  ((Path.ofString dumpPath).parent.join (Path.ofString source)).toString

end Dump

namespace Document

/-- A failed read as the fault of a dump, when it is one of the file system. -/
def readFailure (dumpPath : String) (fault : FileError -> DumpFault) (error : FileError) :
    LoadError :=
  if error.isSystem then .dump dumpPath (fault error) else .file error

/-- A JSON error as the fault of a dump; a value that goes beyond the limits is none. -/
def jsonFailure (dumpPath : String) (text : Text) (error : JsonError) : LoadError :=
  match error.fault with
  | .beyond limit => .beyond limit
  | fault => .dump dumpPath (.notJson fault (Json.errorLine text error))

/-- The table that a dump holds. -/
def readDump {σ : Type} (storage : Storage σ) (files : σ) (dumpPath : String) :
    Except LoadError Fields :=
  match storage.read files dumpPath with
  | .error error => .error (readFailure dumpPath .unreadable error)
  | .ok text =>
    match Json.read storage.limits.json text with
    | .error error => .error (jsonFailure dumpPath text error)
    | .ok (.table fields) => .ok fields
    | .ok _ => .error (.dump dumpPath .notTable)

/-- The document that a table describes. -/
def ofFields {σ : Type} (storage : Storage σ) (files : σ) (dumpPath : String) (fields : Fields) :
    Except LoadError Document :=
  match Dump.sourceField fields with
  | .error fault => .error (.dump dumpPath fault)
  | .ok source =>
    let path := Dump.sourcePath dumpPath source
    match storage.read files path with
    | .error error => .error (readFailure dumpPath (.sourceUnreadable path) error)
    | .ok text =>
      match Dump.tagsField path text fields with
      | .error fault => .error (.dump dumpPath fault)
      | .ok tags => .ok { path, text, tags }

/-- The document of a dump. -/
def load {σ : Type} (storage : Storage σ) (files : σ) (dumpPath : String) :
    Except LoadError Document :=
  match readDump storage files dumpPath with
  | .error error => .error error
  | .ok fields => ofFields storage files dumpPath fields

end Document

end TagOrder
