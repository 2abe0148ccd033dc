import TagOrder.Decimal.Shortest
import TagOrder.Text.Quoted
import TagOrder.Value
import TagOrder.Value.Limit

/-!
# Values in messages

How a message shows a value: texts in quotes, lists and tables in brackets with a comma and a
space between their members, and a moment by its parts.
-/

namespace TagOrder

/-- Numbers between a comma and a space. -/
def commaNumbers (numbers : List Nat) : String :=
  ", ".intercalate (numbers.map Nat.repr)

/-- The parts of a time of day that are written: seconds only when they or smaller parts are not
zero, microseconds only when they are not zero. -/
def Clock.parts (clock : Clock) : List Nat :=
  if clock.microsecond ≠ 0 then [clock.hour, clock.minute, clock.second, clock.microsecond]
  else if clock.second ≠ 0 then [clock.hour, clock.minute, clock.second]
  else [clock.hour, clock.minute]

/-- The parts of a day. -/
def Day.parts (day : Day) : List Nat := [day.year, day.month, day.day]

/-- The offset of a zone; one behind universal time is counted forward from the day before. -/
def zoneLiteral (offset : Int) : String :=
  if offset = 0 then "datetime.timezone.utc"
  else
    let days := if offset < 0 then "days=-1, " else ""
    let seconds := (if offset < 0 then offset + 24 * 60 else offset) * 60
    "datetime.timezone(datetime.timedelta(" ++ days ++ "seconds=" ++ Nat.repr seconds.toNat ++ "))"

/-- A moment by its parts. -/
def Moment.literal : Moment -> String
  | .day date => "datetime.date(" ++ commaNumbers date.parts ++ ")"
  | .clock time => "datetime.time(" ++ commaNumbers time.parts ++ ")"
  | .plain date time => "datetime.datetime(" ++ commaNumbers (date.parts ++ time.parts) ++ ")"
  | .zoned date time offset =>
    "datetime.datetime(" ++ commaNumbers (date.parts ++ time.parts) ++ ", tzinfo="
      ++ zoneLiteral offset ++ ")"

namespace Value

mutual

/-- A value as a message shows it. -/
def literal : Value -> String
  | .null => "None"
  | .bool true => "True"
  | .bool false => "False"
  | .int number => number.repr
  | .float number => plainDecimal.write number
  | .text string => quotedString string
  | .list items => "[" ++ ", ".intercalate (itemLiterals items) ++ "]"
  | .table fields => "\x7b" ++ ", ".intercalate (fieldLiterals fields) ++ "\x7d"
  | .moment point => point.literal

/-- The items of a list as a message shows them. -/
def itemLiterals : List Value -> List String
  | [] => []
  | item :: rest => item.literal :: itemLiterals rest

/-- The fields of a table as a message shows them. -/
def fieldLiterals : List (String × Value) -> List String
  | [] => []
  | (key, value) :: rest => (quotedString key ++ ": " ++ value.literal) :: fieldLiterals rest

end

/-- A value as running text: a text is itself, anything else is shown as in a message. -/
def display : Value -> String
  | .text string => string
  | value => value.literal

mutual

/-- What keeps a value from being shown when it may be so many levels deep: the first part of it, as
it is written, that lies deeper or is a whole number with too many digits. -/
def limitFault? (levels : Nat) (value : Value) : Option LimitFault :=
  if levels = 0 then some (.nested .shown)
  else match value with
    | .int number => if number.natAbs < Nat.pow 10 digitLimit then none else some .shownDigits
    | .list items => limitFaultAmong? (levels - 1) items
    | .table fields => limitFaultOfFields? (levels - 1) fields
    | _ => none

/-- What keeps the items of a list from being shown. -/
def limitFaultAmong? (levels : Nat) : List Value -> Option LimitFault
  | [] => none
  | item :: rest => (item.limitFault? levels).or (limitFaultAmong? levels rest)

/-- What keeps the fields of a table from being shown. -/
def limitFaultOfFields? (levels : Nat) : List (String × Value) -> Option LimitFault
  | [] => none
  | (_, value) :: rest => (value.limitFault? levels).or (limitFaultOfFields? levels rest)

end

/-- Whether a value can be shown that may be so many levels deep: it is not nested deeper, and no
whole number in it has too many digits. -/
def isShowable (levels : Nat) (value : Value) : Bool := (value.limitFault? levels).isNone

end Value

end TagOrder
