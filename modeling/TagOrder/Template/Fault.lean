import TagOrder.Template.Kind
import TagOrder.Text.Quoted

/-!
# Faults of message templates

Everything that can be wrong with a template, or with how it uses a key, other than asking for a
field that nobody supplies.
-/

namespace TagOrder

/-- What is wrong with a template. -/
inductive TemplateFault where
  | loneOpen
  | loneClose
  | unclosedField
  | openInName
  | endBeforeConversion
  | noColonAfterConversion
  | unclosedShape
  | emptyAccessor
  | unclosedBracket
  | afterBracket
  | tooManyDigits
  | tooDeep
  | unknownConversion (conversion : Char)
  | commaAndUnderscore
  | missingPrecision
  | badShape (shape : List Char) (kind : Kind)
  | grouping (separator code : Char)
  | unknownCode (code : Char) (kind : Kind)
  | space
  | sign
  | negativeZero
  | alternate
  | signAlignment
  | numberNegativeZero
  | numberPrecision
  | characterSign
  | characterAlternate
  /-- A number is to be written as a character and is the code point of none. -/
  | characterRange
  | longPrecision
  /-- A shape is given for an item that takes none. -/
  | shapeless (kind : Kind)
  | noMember (kind : Kind) (name : String)
  | noMemberOfKind (kind : Kind) (name : String)
  | noAbstractMembers
  /-- A text is indexed by something that is no number. -/
  | indexByText
  | tupleIndexByText
  | notIndexable (kind : Kind)
  | kindNotIndexable (kind : Kind)
  /-- A kind with an index is given another one. -/
  | notGeneric (item : Text)
  deriving DecidableEq, Repr

/-- A format code in a message: by its code point when it is no visible ASCII character. -/
def codeText (lower : Nat) (upper : Nat) (code : Char) : String :=
  if lower < code.toNat && code.toNat < upper then String.singleton code
  else "\\x" ++ String.ofList (hexDigits 1 (codePoint code))

namespace TemplateFault

/-- The words for a fault. -/
def message : TemplateFault -> String
  | loneOpen => "Single '\x7b' encountered in format string"
  | loneClose => "Single '\x7d' encountered in format string"
  | unclosedField => "expected '\x7d' before end of string"
  | openInName => "unexpected '\x7b' in field name"
  | endBeforeConversion => "end of string while looking for conversion specifier"
  | noColonAfterConversion => "expected ':' after conversion specifier"
  | unclosedShape => "unmatched '\x7b' in format spec"
  | emptyAccessor => "Empty attribute in format string"
  | unclosedBracket => "Missing ']' in format string"
  | afterBracket => "Only '.' or '[' may follow ']' in format field specifier"
  | tooManyDigits => "Too many decimal digits in format string"
  | tooDeep => "Max string recursion exceeded"
  | unknownConversion conversion =>
    "Unknown conversion specifier " ++ codeText 32 127 conversion
  | commaAndUnderscore => "Cannot specify both ',' and '_'."
  | missingPrecision => "Format specifier missing precision"
  | badShape shape kind =>
    "Invalid format specifier '" ++ String.ofList shape ++ "' for object of type '" ++ kind.name
      ++ "'"
  | grouping separator code =>
    "Cannot specify '" ++ String.singleton separator ++ "' with '" ++ codeText 32 128 code ++ "'."
  | unknownCode code kind =>
    "Unknown format code '" ++ codeText 32 128 code ++ "' for object of type '" ++ kind.name ++ "'"
  | space => "Space not allowed in string format specifier"
  | sign => "Sign not allowed in string format specifier"
  | negativeZero => "Negative zero coercion (z) not allowed in string format specifier"
  | alternate => "Alternate form (#) not allowed in string format specifier"
  | signAlignment => "'=' alignment not allowed in string format specifier"
  | numberNegativeZero =>
    "Negative zero coercion (z) not allowed in integer format specifier"
  | numberPrecision => "Precision not allowed in integer format specifier"
  | characterSign => "Sign not allowed with integer format specifier 'c'"
  | characterAlternate => "Alternate form (#) not allowed with integer format specifier 'c'"
  | characterRange => "%c arg not in range(0x110000)"
  | longPrecision => "precision too big"
  | shapeless kind => "unsupported format string passed to " ++ kind.name ++ ".__format__"
  | noMember kind name => "'" ++ kind.name ++ "' object has no attribute '" ++ name ++ "'"
  | noMemberOfKind kind name =>
    "type object '" ++ kind.name ++ "' has no attribute '" ++ name ++ "'"
  | noAbstractMembers => "__abstractmethods__"
  | indexByText => "string indices must be integers, not 'str'"
  | tupleIndexByText => "tuple indices must be integers or slices, not str"
  | notIndexable kind => "'" ++ kind.name ++ "' object is not subscriptable"
  | kindNotIndexable kind => "type '" ++ kind.name ++ "' is not subscriptable"
  | notGeneric item => String.ofList item ++ " is not a generic class"

end TemplateFault

/-- Why a template cannot be filled. -/
inductive FillError where
  /-- It asks for a field, or a part of an item, that is not there. -/
  | missing
  | fault (fault : TemplateFault)
  deriving DecidableEq, Repr

end TagOrder
