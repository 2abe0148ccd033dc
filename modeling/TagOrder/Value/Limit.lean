/-!
# Limits on values

How large a value may be when it is read or shown. What goes beyond is no fault of form, and ends
whatever is being done.
-/

namespace TagOrder

/-- The most decimal digits with which a whole number is read or shown. -/
def digitLimit : Nat := 4300

/-- How deep values may be nested. Each level takes room on the stack of the machine, so a limit
depends on how much it grants and on how much of that is taken when a value comes up. The usual
limits are those of release 3.11 of the reference interpreter as it starts, while a command
runs. -/
structure Limits where
  /-- Lists and tables of a dump. -/
  json : Nat := 987
  /-- The levels of a value in a project file: a list counts for two, a table for three. -/
  settings : Nat := 985
  /-- The levels of a value that a message shows, the value itself counted. -/
  shown : Nat := 985
  deriving DecidableEq, Repr

/-- The usual limits. -/
def Limits.usual : Limits := {}

/-- What is nested too deep. -/
inductive NestedPart where
  | jsonList
  | jsonTable
  | settings
  | shown
  deriving DecidableEq, Repr

/-- How a value goes beyond the limits. -/
inductive LimitFault where
  /-- A whole number that is read has too many digits. -/
  | digits (count : Nat)
  /-- A whole number that is shown has too many digits. -/
  | shownDigits
  | nested (part : NestedPart)
  deriving DecidableEq, Repr

/-- The words for what is nested too deep. -/
def NestedPart.suffix : NestedPart -> String
  | jsonList => " while decoding a JSON array from a unicode string"
  | jsonTable => " while decoding a JSON object from a unicode string"
  | settings => ""
  | shown => " while getting the repr of an object"

/-- The words for a value that goes beyond the limits. -/
def LimitFault.message : LimitFault -> String
  | digits count =>
    "Exceeds the limit (4300 digits) for integer string conversion: value has " ++ Nat.repr count
      ++ " digits; use sys.set_int_max_str_digits() to increase the limit"
  | shownDigits => "Exceeds the limit (4300 digits) for integer string conversion; "
      ++ "use sys.set_int_max_str_digits() to increase the limit"
  | nested part => "maximum recursion depth exceeded" ++ part.suffix

end TagOrder
