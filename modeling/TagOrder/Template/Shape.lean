import TagOrder.Template.Fault
import TagOrder.Text.Numeral

/-!
# Shapes of fields

The shape of a field says how a text is cut and padded: a fill character and an alignment, a least
width, and after a point the most characters to keep. The parts that make sense for numbers only are
read for texts as well, and refused. However great a width is, there is taken to be memory for it.
-/

namespace TagOrder

/-- A shape as it is written. -/
structure FieldShape where
  fill : Char := ' '
  align : Char := '<'
  sign : Option Char := none
  negativeZero : Bool := false
  alternate : Bool := false
  width : Option Nat := none
  separator : Option Char := none
  precision : Option Nat := none
  code : Char := 's'
  deriving Repr

namespace FieldShape

/-- The characters that stand for an alignment. -/
def isAlignment (c : Char) : Bool := c == '<' || c == '>' || c == '=' || c == '^'

/-- The fill character and the alignment at the start of a shape, if they are given, and what
follows. -/
def readAlignment (text : Text) : Option Char × Option Char × Text :=
  match text with
  | fill :: align :: rest =>
    if isAlignment align then (some fill, some align, rest)
    else if isAlignment fill then (none, some fill, align :: rest)
    else (none, none, text)
  | [align] => if isAlignment align then (none, some align, []) else (none, none, text)
  | [] => (none, none, [])

/-- One of some characters at the start of a text, if it is there, and what follows. -/
def readMark (marks : List Char) (text : Text) : Option Char × Text :=
  match text with
  | c :: rest => if c ∈ marks then (some c, rest) else (none, text)
  | [] => (none, [])

/-- A number at the start of a text, if there is one, and what follows. -/
def readCount (text : Text) : Except TemplateFault (Option Nat × Text) :=
  match takeNumeral 0 text with
  | none => .error .tooManyDigits
  | some (number, rest) =>
    .ok (if rest.length = text.length then none else some number, rest)

/-- The separator of thousands, if there is one, and what follows. -/
def readSeparator (text : Text) : Except TemplateFault (Option Char × Text) :=
  let (comma, rest) := readMark [','] text
  let (underscore, rest) := readMark ['_'] rest
  match comma, underscore, rest with
  | some _, some _, _ => .error .commaAndUnderscore
  | none, some _, ',' :: _ => .error .commaAndUnderscore
  | some _, none, rest => .ok (some ',', rest)
  | none, some _, rest => .ok (some '_', rest)
  | none, none, rest => .ok (none, rest)

/-- The precision after a point, if there is one, and what follows. -/
def readPrecision (text : Text) : Except TemplateFault (Option Nat × Text) :=
  match text with
  | '.' :: rest => do
    match ← readCount rest with
    | (none, _) => throw .missingPrecision
    | found => return found
  | _ => .ok (none, text)

/-- The format code at the end of a shape, or the usual one. -/
def readCode (kind : Kind) (shape text : Text) : Except TemplateFault Char :=
  match text with
  | [] => .ok (if kind = .text then 's' else 'd')
  | [code] => .ok code
  | _ => .error (.badShape shape kind)

/-- The codes of numbers that take a separator. -/
def takesSeparator (separator code : Char) : Bool :=
  code ∈ ['d', 'e', 'f', 'g', 'E', 'G', '%', 'F', '\x00'] ||
    (separator == '_' && code ∈ ['b', 'o', 'x', 'X'])

/-- The alignment of a shape: the one that is given, or the usual one. A number is filled with zeros
after its sign. -/
def alignmentOf (kind : Kind) (given : Option Char) (zeros : Bool) : Char :=
  given.getD (if kind = .text then '<' else if zeros then '=' else '>')

/-- The shape that a text writes for items of a kind. -/
def read (kind : Kind) (text : Text) : Except TemplateFault FieldShape := do
  let (fill, align, rest) := readAlignment text
  let (sign, rest) := readMark [' ', '+', '-'] rest
  let (negativeZero, rest) := readMark ['z'] rest
  let (alternate, rest) := readMark ['#'] rest
  let (zero, rest) := if fill.isSome then (none, rest) else readMark ['0'] rest
  let (width, rest) ← readCount rest
  let (separator, rest) ← readSeparator rest
  let (precision, rest) ← readPrecision rest
  let code ← readCode kind text rest
  match separator with
  | some mark => if !takesSeparator mark code then throw (.grouping mark code)
  | none => pure ()
  return {
    fill := if zero.isSome then '0' else fill.getD ' '
    align := alignmentOf kind align zero.isSome
    sign, negativeZero := negativeZero.isSome, alternate := alternate.isSome, width, separator
    precision, code }

/-- The parts of a shape that a text cannot take. -/
def textFault? (shape : FieldShape) : Option TemplateFault :=
  if shape.code ≠ 's' then some (.unknownCode shape.code .text)
  else match shape.sign with
    | some ' ' => some .space
    | some _ => some .sign
    | none =>
      if shape.negativeZero then some .negativeZero
      else if shape.alternate then some .alternate
      else if shape.align = '=' then some .signAlignment
      else none

/-- A text cut and padded. -/
def pad (shape : FieldShape) (text : Text) : Text :=
  let kept := match shape.precision with
    | some most => text.take most
    | none => text
  let missing := shape.width.getD 0 - kept.length
  let left := if shape.align = '>' then missing else if shape.align = '^' then missing / 2 else 0
  List.replicate left shape.fill ++ kept ++ List.replicate (missing - left) shape.fill

/-- A text in the shape that another text writes; an empty shape leaves it as it is. -/
def apply (shape text : Text) : Except TemplateFault Text :=
  if shape = [] then .ok text
  else do
    let shape ← read .text shape
    match shape.textFault? with
    | some fault => throw fault
    | none => return shape.pad text

end FieldShape

end TagOrder
