import TagOrder.Decimal.Shortest
import TagOrder.Text.Quoted
import TagOrder.Value

/-!
# Writing JSON

Values as JSON text, either on one line with a space after each comma and colon, or with one member
a line and an indentation per level. Characters outside ASCII stand as they are.
-/

namespace TagOrder

namespace Json

/-- A character as it stands in a JSON string. -/
def stringChar (c : Char) : List Char :=
  match c with
  | '"' => ['\\', '"']
  | '\\' => ['\\', '\\']
  | '\n' => ['\\', 'n']
  | '\r' => ['\\', 'r']
  | '\t' => ['\\', 't']
  | '\x08' => ['\\', 'b']
  | '\x0c' => ['\\', 'f']
  | c => if c.toNat < 32 then '\\' :: 'u' :: hexDigits 4 c.toNat else [c]

/-- A JSON string. -/
def stringText (string : String) : String :=
  String.ofList ('"' :: (string.toList.flatMap stringChar ++ ['"']))

/-- The spelling of numbers that are not finite. -/
def decimal : DecimalLayout :=
  { plainDecimal with infinity := "Infinity", notANumber := "NaN" }

/-- A value that has no members. -/
def leafText : Value -> String
  | .bool true => "true"
  | .bool false => "false"
  | .int number => number.repr
  | .float number => decimal.write number
  | .text string => stringText string
  | _ => "null"

mutual

/-- A value on one line. -/
def line : Value -> String
  | .list items => "[" ++ ", ".intercalate (lineItems items) ++ "]"
  | .table fields => "\x7b" ++ ", ".intercalate (lineFields fields) ++ "\x7d"
  | value => leafText value

/-- The items of a list on one line. -/
def lineItems : List Value -> List String
  | [] => []
  | item :: rest => line item :: lineItems rest

/-- The fields of a table on one line. -/
def lineFields : List (String × Value) -> List String
  | [] => []
  | (key, value) :: rest => (stringText key ++ ": " ++ line value) :: lineFields rest

end

/-- A line break and the indentation of a level. -/
def breakAt (level : Nat) : String := String.ofList ('\n' :: List.replicate (2 * level) ' ')

/-- Members between brackets, one a line. -/
def stacked (opening closing : String) (level : Nat) : List String -> String
  | [] => opening ++ closing
  | members =>
    opening ++ breakAt (level + 1) ++ ("," ++ breakAt (level + 1)).intercalate members
      ++ breakAt level ++ closing

mutual

/-- A value with its members on lines of their own. -/
def indented (level : Nat) : Value -> String
  | .list items => stacked "[" "]" level (indentedItems (level + 1) items)
  | .table fields => stacked "\x7b" "\x7d" level (indentedFields (level + 1) fields)
  | value => leafText value

/-- The items of a list at a level. -/
def indentedItems (level : Nat) : List Value -> List String
  | [] => []
  | item :: rest => indented level item :: indentedItems level rest

/-- The fields of a table at a level. -/
def indentedFields (level : Nat) : List (String × Value) -> List String
  | [] => []
  | (key, value) :: rest =>
    (stringText key ++ ": " ++ indented level value) :: indentedFields level rest

end

end Json

end TagOrder
