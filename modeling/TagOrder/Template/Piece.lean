import TagOrder.Template.Fault
import TagOrder.Text.Slice

/-!
# Pieces of a template

A template is literal text with fields between braces. A doubled brace is a literal brace. A field
has a name, an optional conversion after an exclamation mark and an optional shape after a colon;
the shape may hold fields of its own. Reading stops at the first fault, which then stands as the
last piece.
-/

namespace TagOrder

/-- A field as it stands in a template. -/
structure TemplateField where
  name : Text
  conversion : Option Char := none
  shape : Text := []
  deriving DecidableEq, Repr

/-- A piece of a template. -/
inductive TemplatePiece where
  | literal (c : Char)
  | field (field : TemplateField)
  | fault (fault : TemplateFault)
  deriving DecidableEq, Repr

/-- The name of a field, the mark that ends it and the text after the mark. Between brackets no
character ends a name. -/
def readFieldName (bracketed : Bool) : Text -> Except TemplateFault (Text × Char × Text)
  | [] => .error .unclosedField
  | c :: rest =>
    if !bracketed && c == '\x7b' then .error .openInName
    else if !bracketed && (c == '\x7d' || c == ':' || c == '!') then .ok ([], c, rest)
    else
      match readFieldName (if bracketed then c != ']' else c == '[') rest with
      | .ok (name, mark, after) => .ok (c :: name, mark, after)
      | .error fault => .error fault

/-- The shape of a field up to the brace that closes it, and the text after that brace. -/
def readShape (depth : Nat) : Text -> Except TemplateFault (Text × Text)
  | [] => .error .unclosedShape
  | c :: rest =>
    if c == '\x7d' && depth == 0 then .ok ([], rest)
    else
      let depth := if c == '\x7b' then depth + 1 else if c == '\x7d' then depth - 1 else depth
      match readShape depth rest with
      | .ok (shape, after) => .ok (c :: shape, after)
      | .error fault => .error fault

/-- A field whose name and conversion are read and whose shape follows. -/
def readShaped (name : Text) (conversion : Option Char) (text : Text) :
    Except TemplateFault (TemplateField × Text) :=
  match readShape 0 text with
  | .ok (shape, after) => .ok (⟨name, conversion, shape⟩, after)
  | .error fault => .error fault

/-- A field; the text starts after its opening brace. -/
def readField (text : Text) : Except TemplateFault (TemplateField × Text) :=
  match readFieldName false text with
  | .error fault => .error fault
  | .ok (name, mark, rest) =>
    if mark == '\x7d' then .ok (⟨name, none, []⟩, rest)
    else if mark == ':' then readShaped name none rest
    else match rest with
      | [] => .error .endBeforeConversion
      | [conversion] => readShaped name (some conversion) []
      | conversion :: '\x7d' :: after => .ok (⟨name, some conversion, []⟩, after)
      | conversion :: ':' :: after => readShaped name (some conversion) after
      | _ => .error .noColonAfterConversion

/-- The pieces of a template. -/
def templatePieces : Nat -> Text -> List TemplatePiece
  | 0, _ => []
  | fuel + 1, text =>
    match text with
    | [] => []
    | '\x7b' :: '\x7b' :: rest => .literal '\x7b' :: templatePieces fuel rest
    | '\x7d' :: '\x7d' :: rest => .literal '\x7d' :: templatePieces fuel rest
    | ['\x7b'] => [.fault .loneOpen]
    | '\x7d' :: _ => [.fault .loneClose]
    | '\x7b' :: rest =>
      match readField rest with
      | .ok (field, after) => .field field :: templatePieces fuel after
      | .error fault => [.fault fault]
    | c :: rest => .literal c :: templatePieces fuel rest

/-- The pieces of a template, read to its end or its first fault. -/
def piecesOf (template : Text) : List TemplatePiece := templatePieces template.length template

end TagOrder
