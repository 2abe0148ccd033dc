import TagOrder.Text.Digits
import TagOrder.Text.Quoted

/-!
# Parameters of actions

An action in markup takes parameters: a name that handles it, with its arguments in parentheses, or
an expression alone. Here expressions are read only as far as it takes to say what is wrong with
their form: they are cut into tokens, and then operands and operators have to alternate between
brackets that match.
-/

namespace TagOrder

/-- Why the parameters of an action cannot be read. -/
structure ParametersFault where
  /-- The parameters as they are written. -/
  given : Text
  /-- The part of them that was read as an expression, if its form is to blame. -/
  expression : Option Text
  reason : String
  deriving DecidableEq, Repr

/-- The words for a fault. -/
def ParametersFault.message (fault : ParametersFault) : String :=
  let subject := match fault.expression with
    | some expression =>
      String.ofList (quoted expression) ++ " in " ++ String.ofList (quoted fault.given)
    | none => String.ofList (quoted fault.given)
  "error parsing " ++ subject ++ "; " ++ fault.reason

namespace Parameters

/-- A token of an expression. -/
inductive Token where
  | name
  | number
  | quotation
  | opening (bracket : Char)
  | closing (bracket : Char)
  | comma
  | point
  | colon
  | equals
  /-- An operator that may stand before its only operand, or also between two. -/
  | leading (binary : Bool)
  | operator
  /-- A star, which before an operand stands for several at once. -/
  | star
  /-- A backslash inside of a line. -/
  | backslash
  /-- A character that no expression has. -/
  | stray
  deriving DecidableEq, Repr

/-- What the form of an expression is blamed for when there is nothing more to say. -/
def malformed : String := "invalid syntax"

/-- Whether a character may stand in a name. -/
def isNameChar (c : Char) : Bool := c.isAlphanum || c == '_' || 127 < c.toNat

/-- The words that are operators. -/
def wordOperators : List (String × Token) :=
  [("and", .operator), ("or", .operator), ("in", .operator), ("is", .operator),
    ("if", .operator), ("else", .operator), ("not", .leading false), ("lambda", .stray)]

/-- The signs that are operators, longer ones first. -/
def signOperators : List (String × Token) :=
  [("**", .star), ("//", .operator), ("<<", .operator), (">>", .operator),
    ("<=", .operator), (">=", .operator), ("==", .operator), ("!=", .operator), (":=", .operator),
    ("+", .leading true), ("-", .leading true), ("~", .leading false), ("*", .star),
    ("/", .operator), ("%", .operator), ("@", .operator), ("&", .operator), ("|", .operator),
    ("^", .operator), ("<", .operator), (">", .operator), ("=", .equals), (",", .comma),
    (".", .point), (":", .colon)]

/-- The bases that a number may say it is written to, by their marks. -/
def bases : List (Char × Nat × String) :=
  [('x', 16, "hexadecimal"), ('o', 8, "octal"), ('b', 2, "binary")]

/-- Digits at the start of a text, among which single underscores may stand, and what follows. -/
def takeDigits (base : Nat) (text : Text) : Text × Text :=
  text.span fun c => isDigitOf base c || c == '_'

/-- Whether underscores stand between digits only. -/
def isSpaced (digits : Text) : Bool := (Text.splitAt '_' digits).all (· ≠ [])

/-- An exponent at the start of a text left out, if there is one. -/
def skipExponent (text : Text) : Text :=
  match text with
  | mark :: rest =>
    let digits := match rest with
      | sign :: after => if sign == '+' || sign == '-' then after else rest
      | [] => []
    if (mark == 'e' || mark == 'E') && (digits.head?.any Char.isDigit) then (takeDigits 10 digits).2
    else text
  | [] => []

/-- A decimal number at the start of a text, and what follows. -/
def takeDecimal (text : Text) : Except String (Token × Text) :=
  let (whole, rest) := takeDigits 10 text
  let (fraction, rest') := match rest with
    | '.' :: after => takeDigits 10 after
    | _ => ([], rest)
  let after := skipExponent rest'
  let (imaginary, after) := match after with
    | 'j' :: after | 'J' :: after => (true, after)
    | _ => (false, after)
  if (whole ≠ [] && !isSpaced whole) || (fraction ≠ [] && !isSpaced fraction) then
    .error "invalid decimal literal"
  else if after.length = rest.length && whole.head? = some '0'
      && whole.any (fun c => '1' ≤ c && c ≤ '9') then
    .error ("leading zeros in decimal integer literals are not permitted; use an 0o prefix for "
      ++ "octal integers")
  else match after.takeWhile isNameChar with
    | [] => .ok (.number, after)
    | word =>
      if wordOperators.any fun (name, _) => name.toList.isPrefixOf word then .ok (.number, after)
      else if imaginary then .error "invalid imaginary literal"
      else .error "invalid decimal literal"

/-- A number at the start of a text, and what follows. -/
def takeNumber (text : Text) : Except String (Token × Text) :=
  match text with
  | '0' :: mark :: rest =>
    match bases.find? fun (letter, _) => letter = mark.toLower with
    | none => takeDecimal text
    | some (_, base, adjective) =>
      let (digits, after) := takeDigits base rest
      match after with
      | c :: _ =>
        if c.isDigit then
          .error ("invalid digit '" ++ String.singleton c ++ "' in " ++ adjective ++ " literal")
        else if digits = [] || digits.getLast? = some '_' || isNameChar c then
          .error ("invalid " ++ adjective ++ " literal")
        else .ok (.number, after)
      | [] =>
        if digits = [] || digits.getLast? = some '_' then
          .error ("invalid " ++ adjective ++ " literal")
        else .ok (.number, [])
  | text => takeDecimal text

/-- What follows a quotation that has been opened, if it is closed. -/
def skipQuotation (quote : Char) (long : Bool) : Text -> Option Text
  | [] => none
  | ['\\'] => none
  | '\\' :: _ :: rest => skipQuotation quote long rest
  | c :: rest =>
    if long then
      if c = quote && rest.take 2 = [quote, quote] then some (rest.drop 2)
      else skipQuotation quote long rest
    else if c = quote then some rest
    else if c = '\n' then none
    else skipQuotation quote long rest

/-- A quotation at the start of a text, and what follows. -/
def takeQuotation (quote : Char) (rest : Text) : Except String (Token × Text) :=
  let long := rest.take 2 = [quote, quote]
  match skipQuotation quote long (if long then rest.drop 2 else rest) with
  | some after => .ok (.quotation, after)
  | none => .error ((if long then "unterminated triple-quoted string literal"
      else "unterminated string literal") ++ " (detected at line 1)")

/-- The words that may stand right before a quotation. -/
def quotationMarks : List String := ["r", "u", "b", "f", "br", "rb", "fr", "rf"]

/-- A word at the start of a text, and what follows. -/
def takeWord (text : Text) : Except String (Token × Text) :=
  let (word, after) := text.span isNameChar
  match after with
  | quote :: rest =>
    if (quote == '\'' || quote == '"')
        && quotationMarks.contains (String.ofList (word.map Char.toLower)) then
      takeQuotation quote rest
    else .ok ((wordOperators.lookup (String.ofList word)).getD .name, after)
  | [] => .ok ((wordOperators.lookup (String.ofList word)).getD .name, [])

/-- The token at the start of a text that is not blank, and what follows. -/
def takeToken (text : Text) : Except String (Token × Text) :=
  match text with
  | [] => .ok (.stray, [])
  | c :: rest =>
    if c.isDigit || (c = '.' && rest.head?.any Char.isDigit) then takeNumber text
    else if isNameChar c then takeWord text
    else if c = '\'' || c = '"' then takeQuotation c rest
    else if c = '(' || c = '[' || c = '\x7b' then .ok (.opening c, rest)
    else if c = ')' || c = ']' || c = '\x7d' then .ok (.closing c, rest)
    else if c = '\\' then .ok (.backslash, rest)
    else if "...".toList.isPrefixOf text then .ok (.number, rest.drop 2)
    else match signOperators.findSome? fun (sign, token) =>
        (Text.dropLead? text sign.toList).map fun after => (token, after) with
      | some found => .ok found
      | none => .ok (.stray, rest)

/-- Whether a character stands between tokens. -/
def isGap (c : Char) : Bool := c == ' ' || c == '\t' || c == '\n' || c == '\x0c'

/-- The bracket that closes what another opens. -/
def closer (opening : Char) : Char :=
  if opening = '(' then ')' else if opening = '[' then ']' else '\x7d'

/-- The brackets that are open after a token, last one first. -/
def followBracket (brackets : List Char) : Token -> Except String (List Char)
  | .opening bracket => .ok (bracket :: brackets)
  | .closing bracket =>
    match brackets with
    | [] => .error ("unmatched '" ++ String.singleton bracket ++ "'")
    | opening :: others =>
      if closer opening = bracket then .ok others
      else .error ("closing parenthesis '" ++ String.singleton bracket
        ++ "' does not match opening parenthesis '" ++ String.singleton opening ++ "'")
  | _ => .ok brackets

/-- The tokens of an expression, and the brackets left open at its end. Nothing is read after a
backslash. -/
def tokens : Nat -> List Char -> Text -> Except String (List Token × List Char)
  | 0, brackets, _ => .ok ([], brackets)
  | fuel + 1, brackets, text =>
    match text.dropWhile isGap with
    | [] => .ok ([], brackets)
    | '#' :: rest => tokens fuel brackets (rest.dropWhile (· != '\n'))
    | text => do
      let (token, after) ← takeToken text
      if token = .backslash then return ([token], [])
      let brackets ← followBracket brackets token
      let (others, unclosed) ← tokens fuel brackets after
      return (token :: others, unclosed)

/-- What may come next in an expression. -/
inductive Expectation where
  /-- An operand; `optional` says whether the bracket may also close or the expression end. -/
  | operand (optional : Bool)
  /-- The name after a point. -/
  | member
  /-- An operator, or whatever else may follow an operand. -/
  | operator (after : Token)
  deriving DecidableEq, Repr

/-- What may come after a token in brackets of some depth, or what is wrong with the token. -/
def follow (depth : Nat) (token : Token) (expected : Expectation) : Except String Expectation :=
  match expected, token with
  | _, .backslash => .error "unexpected character after line continuation character"
  | .operand optional, token =>
    match token with
    | .name | .number | .quotation => .ok (.operator token)
    | .leading _ => .ok (.operand false)
    | .star => if depth = 0 then .error malformed else .ok (.operand false)
    | .opening _ => .ok (.operand true)
    | .closing _ => if optional then .ok (.operator token) else .error malformed
    | _ => .error malformed
  | .member, .name => .ok (.operator .name)
  | .member, _ => .error malformed
  | .operator after, token =>
    match token with
    | .operator | .star | .leading true => .ok (.operand false)
    | .comma => .ok (.operand true)
    | .point => .ok .member
    | .colon | .equals => if depth = 0 then .error malformed else .ok (.operand true)
    | .opening bracket =>
      if bracket = '\x7b' then .error malformed else .ok (.operand true)
    | .closing _ => .ok (.operator token)
    | .quotation =>
      if after = .quotation then .ok (.operator token)
      else if depth = 0 || after = .name then .error malformed
      else .error (malformed ++ ". Perhaps you forgot a comma?")
    | .name | .number =>
      if depth = 0 then .error malformed
      else .error (malformed ++ ". Perhaps you forgot a comma?")
    | .leading false | .backslash | .stray => .error malformed

/-- How deep in brackets what follows a token stands. -/
def depthAfter (depth : Nat) : Token -> Nat
  | .opening _ => depth + 1
  | .closing _ => depth - 1
  | _ => depth

/-- What is wrong with the form of tokens, of which some brackets are left open at the end. -/
def formFault (unclosed : List Char) : Nat -> Expectation -> List Token -> Option String
  | _, expected, [] =>
    match unclosed, expected with
    | bracket :: _, _ => some ("'" ++ String.singleton bracket ++ "' was never closed")
    | [], .operand false | [], .member => some malformed
    | [], _ => none
  | depth, expected, token :: rest =>
    match follow depth token expected with
    | .ok next => formFault unclosed (depthAfter depth token) next rest
    | .error reason =>
      match unclosed, rest with
      | bracket :: _, [] =>
        some (if reason = malformed then reason
          else "'" ++ String.singleton bracket ++ "' was never closed")
      | _, _ => some reason

/-- What is wrong with the form of an expression. -/
def expressionFault (expression : Text) : Option String :=
  match tokens (expression.length + 1) [] expression with
  | .error reason => some reason
  | .ok (tokens, unclosed) => formFault unclosed 0 (.operand false) tokens

/-- The part of parameters that is read as an expression: the arguments, when a handler is named. -/
def expressionOf (parameters : Text) : Text :=
  match parameters.dropWhile fun c => isNameChar c || c == '.' with
  | [] => "()".toList
  | rest =>
    if rest.head? = some '(' && rest.getLast? = some ')' && '\n' ∉ rest then rest else parameters

/-- What is wrong with parameters that have no blanks around them. -/
def fault? (given parameters : Text) : Option ParametersFault :=
  let expression := expressionOf parameters
  if '\x00' ∈ expression then
    some ⟨given, none, "source code string cannot contain null bytes"⟩
  else (expressionFault expression).map fun reason => ⟨given, some expression, reason⟩

end Parameters

end TagOrder
