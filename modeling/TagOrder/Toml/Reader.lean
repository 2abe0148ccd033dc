import TagOrder.Toml.Moment
import TagOrder.Toml.Number
import TagOrder.Toml.Text

/-!
# Reading TOML

A document is a sequence of lines, each with at most one statement: a key with its value, the
header of a table, or the header of one more table in a list of tables. A dotted key leads through
tables, which are made as they are needed, and from a list of tables to the last one in it.

Nothing is said twice. A key gets one value. A table gets one header, and none if a dotted key made
it in an earlier section or its value was written out between braces; and what stands between
brackets or braces is closed to later statements.
-/

namespace TagOrder.Toml

/-- A dotted key, part by part. -/
abbrev Key := List String

/-- Whether a character may stand in a key without quotes. -/
def isBare (c : Char) : Bool := c.isAlphanum || c == '-' || c == '_'

/-- One part of a key: bare, or a one-line string. -/
def readKeyPart (text : Text) : Except TomlFault (String × Text) :=
  match text with
  | '"' :: rest => do
    let (part, after) ← readBasic (text.length + 1) rest
    return (String.ofList part, after)
  | '\'' :: rest => do
    let (part, after) ← readLiteral rest
    return (String.ofList part, after)
  | text =>
    match text.span isBare with
    | ([], _) => malformed
    | (part, after) => .ok (String.ofList part, after)

/-- A key, with the spaces after it. -/
def readKey : Nat -> Text -> Except TomlFault (Key × Text)
  | 0, _ => malformed
  | fuel + 1, text => do
    let (part, after) ← readKeyPart text
    match skipSpaces after with
    | '.' :: rest => do
      let (parts, after) ← readKey fuel (skipSpaces rest)
      return (part :: parts, after)
    | after => return ([part], after)

/-- The fields with the table changed to which a key leads; none when a part of it leads to
something else or the change fails. -/
def within (change : Fields -> Option Fields) : Key -> Fields -> Option Fields
  | [], fields => change fields
  | part :: parts, fields =>
    match fields.get? part with
    | none => (within change parts []).map fun inner => fields.set part (.table inner)
    | some (.table inner) =>
      (within change parts inner).map fun inner => fields.set part (.table inner)
    | some (.list items) =>
      match items.getLast? with
      | some (.table inner) =>
        (within change parts inner).map fun inner =>
          fields.set part (.list (items.dropLast ++ [.table inner]))
      | _ => none
    | some _ => none

/-- Fields with one more, whose key is new to them. -/
def addField (part : String) (value : Value) (fields : Fields) : Option Fields :=
  match fields.get? part with
  | some _ => none
  | none => some (fields.set part value)

/-- Fields with one more table in the list of tables under a key. -/
def addTable (part : String) (fields : Fields) : Option Fields :=
  match fields.get? part with
  | none => some (fields.set part (.list [.table []]))
  | some (.list items) => some (fields.set part (.list (items ++ [.table []])))
  | some _ => none

/-- Whether a value was written out between brackets or braces. -/
def isClosedValue : Value -> Bool
  | .list _ | .table _ => true
  | _ => false

/-- Whether a key lies at or under one of the closed ones. -/
def isClosed (closed : List Key) (key : Key) : Bool := closed.any fun other => other.isPrefixOf key

/-- The words for truth values. -/
def readBool? (text : Text) : Option (Value × Text) :=
  match text.dropLead? "true".toList, text.dropLead? "false".toList with
  | some after, _ => some (.bool true, after)
  | none, some after => some (.bool false, after)
  | none, none => none

/-- A value without members. -/
def readScalar (text : Text) : Except TomlFault (Value × Text) :=
  match readText? text with
  | some read => read.map fun (string, after) => (.text (String.ofList string), after)
  | none =>
    match readBool? text with
    | some read => .ok read
    | none =>
      match readMoment? text with
      | some read => read.map fun (moment, after) => (.moment moment, after)
      | none => readNumber text

/-- The levels left inside a value that counts for some, if there are so many. -/
def descend (depth levels : Nat) : Except TomlFault Nat :=
  if depth < levels then .error (.beyond (.nested .settings)) else .ok (depth - levels)

mutual

/-- A value; the text starts with it. `depth` is how many more levels there may be: a list counts
for two, a table for three. -/
def readValue (depth : Nat) : Nat -> Text -> Except TomlFault (Value × Text)
  | 0, _ => malformed
  | fuel + 1, text =>
    match text with
    | '[' :: rest => do
      let depth ← descend depth 2
      match ← skipLines (rest.length + 1) rest with
      | ']' :: after => return (.list [], after)
      | items => do
        let (items, after) ← readItems depth fuel items
        return (.list items, after)
    | '\x7b' :: rest => do
      let depth ← descend depth 3
      match skipSpaces rest with
      | '\x7d' :: after => return (.table [], after)
      | fields => do
        let (fields, after) ← readFields depth fuel [] [] fields
        return (.table fields, after)
    | text => readScalar text

/-- The items of a list up to its closing bracket, with a comma after each but the last, where it
may stand too. -/
def readItems (depth : Nat) : Nat -> Text -> Except TomlFault (List Value × Text)
  | 0, _ => malformed
  | fuel + 1, text => do
    let (item, after) ← readValue depth fuel text
    match ← skipLines (after.length + 1) after with
    | ']' :: rest => return ([item], rest)
    | ',' :: rest =>
      match ← skipLines (rest.length + 1) rest with
      | ']' :: rest => return ([item], rest)
      | rest => do
        let (items, after) ← readItems depth fuel rest
        return (item :: items, after)
    | _ => malformed

/-- The fields of a table between braces up to the closing one, with a comma between neighbours. -/
def readFields (depth : Nat) : Nat -> Fields -> List Key -> Text -> Except TomlFault (Fields × Text)
  | 0, _, _, _ => malformed
  | fuel + 1, fields, closed, text => do
    let (key, after) ← readKey (text.length + 1) text
    match after with
    | '=' :: rest => do
      let (value, after) ← readValue depth fuel (skipSpaces rest)
      if isClosed closed key then malformed
      else match within (addField (key.getLast?.getD "") value) key.dropLast fields with
        | none => malformed
        | some fields =>
          match skipSpaces after with
          | '\x7d' :: rest => return (fields, rest)
          | ',' :: rest =>
            readFields depth fuel fields (if isClosedValue value then key :: closed else closed)
              (skipSpaces rest)
          | _ => malformed
    | _ => malformed

end

/-- A document as far as it was read. -/
structure Document where
  fields : Fields := []
  /-- The table that key and value statements now fill. -/
  header : Key := []
  /-- The tables that may get no header any more. -/
  declared : List Key := []
  /-- The tables that dotted keys made in this section; they are declared once it ends. -/
  dotted : List Key := []
  /-- What is closed to later statements. -/
  closed : List Key := []

namespace Document

/-- A document with its fields changed, if the change succeeds. -/
def change (document : Document) (fields : Option Fields) : Except TomlFault Document :=
  match fields with
  | none => malformed
  | some fields => .ok { document with fields }

/-- A document whose section ends. -/
def endSection (document : Document) : Document :=
  { document with declared := document.dotted ++ document.declared, dotted := [] }

/-- A document with the header of a table. -/
def openTable (document : Document) (key : Key) : Except TomlFault Document :=
  if key ∈ document.declared || isClosed document.closed key then malformed
  else
    { document with header := key, declared := key :: document.declared }.change
      (within some key document.fields)

/-- A document with the header of one more table in a list; nothing under it is declared or closed
yet. -/
def openListed (document : Document) (key : Key) : Except TomlFault Document :=
  if isClosed document.closed key then malformed
  else
    { document with
      header := key
      declared := key :: document.declared.filter fun other => !key.isPrefixOf other
      closed := document.closed.filter fun other => !key.isPrefixOf other }.change
      (within (addTable (key.getLast?.getD "")) key.dropLast document.fields)

/-- The tables through which a dotted key leads, from the header on. -/
def waypoints (header key : Key) : List Key :=
  (List.range (key.length - 1)).map fun count => header ++ key.take (count + 1)

/-- A document with a value set in the table under the header. -/
def setValue (document : Document) (key : Key) (value : Value) : Except TomlFault Document :=
  let waypoints := waypoints document.header key
  let place := document.header ++ key
  if waypoints.any (· ∈ document.declared) || isClosed document.closed place.dropLast then malformed
  else
    { document with
      dotted := waypoints ++ document.dotted
      closed := if isClosedValue value then place :: document.closed else document.closed }.change
      (within (addField (place.getLast?.getD "") value) place.dropLast document.fields)

/-- One statement, if there is any before the end of the line. -/
def readStatement (depth : Nat) (document : Document) (text : Text) :
    Except TomlFault (Document × Text) :=
  match text with
  | [] | '\n' :: _ | '#' :: _ => .ok (document, text)
  | '[' :: '[' :: rest => do
    let (key, after) ← readKey (text.length + 1) (skipSpaces rest)
    let document ← document.endSection.openListed key
    match after with
    | ']' :: ']' :: rest => return (document, rest)
    | _ => malformed
  | '[' :: rest => do
    let (key, after) ← readKey (text.length + 1) (skipSpaces rest)
    let document ← document.endSection.openTable key
    match after with
    | ']' :: rest => return (document, rest)
    | _ => malformed
  | text => do
    let (key, after) ← readKey (text.length + 1) text
    match after with
    | '=' :: rest => do
      let (value, after) ← readValue depth (2 * text.length + 2) (skipSpaces rest)
      return (← document.setValue key value, after)
    | _ => malformed

/-- The statements of a text, line by line. -/
def readLines (depth : Nat) : Nat -> Document -> Text -> Except TomlFault Document
  | 0, document, _ => .ok document
  | fuel + 1, document, text => do
    let (document, after) ← readStatement depth document (skipSpaces text)
    match ← skipComment (skipSpaces after) with
    | [] => return document
    | '\n' :: rest => readLines depth fuel document rest
    | _ => malformed

end Document

/-- A text with each carriage return before a newline left out. -/
def joinEndings : Text -> Text
  | '\r' :: '\n' :: rest => '\n' :: joinEndings rest
  | c :: rest => c :: joinEndings rest
  | [] => []

/-- The fields of the document that a text writes; values may be so many levels deep. -/
def read (depth : Nat) (text : Text) : Except TomlFault Fields :=
  let text := joinEndings text
  (Document.readLines depth (text.length + 1) {} text).map Document.fields

end TagOrder.Toml
