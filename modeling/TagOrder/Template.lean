import TagOrder.Template.Item
import TagOrder.Template.NumberShape
import TagOrder.Template.Piece

/-!
# Message templates

A template with the fields `current` and `previous`, filled with two attribute keys. A field may go
on from its key to the members of it, and what it arrives at is shaped; it is put in as it is and
never read again as a template. A template that asks for any other field is passed over for the
standard one. Any other fault is an error.
-/

namespace TagOrder

/-- The keys that a template is filled with. -/
structure MessageKeys where
  current : Text
  previous : Text
  deriving DecidableEq, Repr

namespace Template

/-- A name that may be a number: its number when it is written in digits only. -/
def numeral? (name : Text) : Except FillError (Option Nat) :=
  match name, takeNumeral 0 name with
  | [], _ => .ok none
  | _, none => .error (.fault .tooManyDigits)
  | _, some (number, []) => .ok (some number)
  | _, some _ => .ok none

/-- The key that a field starts from. -/
def lookup (keys : MessageKeys) (name : Text) : Except FillError Text := do
  match ← numeral? name with
  | some _ => throw .missing
  | none =>
    if name = "current".toList then return keys.current
    else if name = "previous".toList then return keys.previous
    else throw .missing

/-- What an item has under an index. -/
def indexed (item : Item) (index : Text) : Except FillError Item := do
  if index = [] then throw (.fault .emptyAccessor)
  match ← numeral? index with
  | some place => item.atIndex (.place place)
  | none => item.atIndex (.name index)

/-- An item after the accessors that follow a name, each a dot with a name or an index in
brackets. -/
def access : Nat -> Item -> Text -> Except FillError Item
  | 0, item, _ => .ok item
  | fuel + 1, item, accessors =>
    match accessors with
    | [] => .ok item
    | '.' :: rest => do
      let name := rest.takeWhile fun c => c != '.' && c != '['
      if name = [] then throw (.fault .emptyAccessor)
      let part ← (item.member (String.ofList name)).mapError .fault
      access fuel part (rest.drop name.length)
    | '[' :: rest =>
      match rest.dropWhile (· != ']') with
      | _ :: after => do
        let part ← indexed item (rest.takeWhile (· != ']'))
        access fuel part after
      | [] => .error (.fault .unclosedBracket)
    | _ => .error (.fault .afterBracket)

/-- A text with everything outside ASCII written by code point. -/
def asciiOnly (text : Text) : Text :=
  text.flatMap fun c =>
    if c.toNat < 128 then [c] else codeEscape (codePoint c)

/-- An item under a conversion: shown for `s`, in detail for `r`, in detail and ASCII for `a`. The
null character converts nothing. -/
def convert (conversion : Option Char) (item : Item) : Except FillError Item :=
  match conversion with
  | none | some '\x00' => .ok item
  | some 's' => .ok (.text item.shown)
  | some 'r' => .ok (.text item.detailed)
  | some 'a' => .ok (.text (asciiOnly item.detailed))
  | some other => .error (.fault (.unknownConversion other))

/-- The item that a field arrives at. -/
def fieldItem (keys : MessageKeys) (field : TemplateField) : Except FillError Item := do
  let stem := field.name.takeWhile fun c => c != '.' && c != '['
  let key ← lookup keys stem
  let item ← access field.name.length (.text key) (field.name.drop stem.length)
  convert field.conversion item

/-- An item in a shape. Only texts and numbers take one that is not empty. -/
def shaped (shape : Text) (item : Item) : Except TemplateFault Text :=
  match item with
  | .text text => FieldShape.apply shape text
  | .number number => NumberShape.apply .number shape number
  | .truth value =>
    if shape = [] then .ok item.shown else NumberShape.apply .truth shape value.toNat
  | item => if shape = [] then .ok item.shown else .error (.shapeless item.kindOf)

/-- Pieces filled in, where `expand` fills the shapes that hold braces. -/
def fillPieces (expand : Text -> Except FillError Text) (keys : MessageKeys) :
    List TemplatePiece -> Except FillError Text
  | [] => .ok []
  | .literal c :: rest => do return c :: (← fillPieces expand keys rest)
  | .fault fault :: _ => .error (.fault fault)
  | .field field :: rest => do
    let item ← fieldItem keys field
    let shape ← if '\x7b' ∈ field.shape then expand field.shape else pure field.shape
    let filled ← (shaped shape item).mapError .fault
    return filled ++ (← fillPieces expand keys rest)

/-- A template filled in; fields in shapes may nest as deep as given. -/
def fillWithin (keys : MessageKeys) : Nat -> Text -> Except FillError Text
  | 0, _ => .error (.fault .tooDeep)
  | depth + 1, template => fillPieces (fillWithin keys depth) keys (piecesOf template)

/-- A template filled in. A shape may hold fields, but the shapes of those may not. -/
def fill (template : Text) (keys : MessageKeys) : Except FillError Text :=
  fillWithin keys 2 template

/-- The template used when none is given. -/
def standard : Text := "Attribute \"\x7bcurrent\x7d\" should go before \"\x7bprevious\x7d\".".toList

/-- The standard template with its keys. -/
def standardMessage (keys : MessageKeys) : Text :=
  "Attribute \"".toList ++ keys.current ++ "\" should go before \"".toList ++ keys.previous
    ++ "\".".toList

/-- The message that a template gives: the standard one when it asks for what is not there. -/
def message (template : Text) (keys : MessageKeys) : Except TemplateFault Text :=
  match fill template keys with
  | .ok text => .ok text
  | .error .missing => .ok (standardMessage keys)
  | .error (.fault fault) => .error fault

end Template

end TagOrder
