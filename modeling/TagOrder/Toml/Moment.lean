import TagOrder.Toml.Fault
import TagOrder.Value

/-!
# TOML moments

A day, a time of day, or both, and with both an offset from universal time. The longest form that
the text allows is taken; a day that the calendar does not have is a fault.
-/

namespace TagOrder.Toml

/-- The number that exactly so many decimal digits write, if it lies in a range. -/
def takeNumber? (width low high : Nat) (text : Text) : Option (Nat × Text) :=
  let digits := text.take width
  if digits.length = width && digits.all Char.isDigit then
    let number := digitsValue digits
    if low ≤ number && number ≤ high then some (number, text.drop width) else none
  else none

/-- The text after a character that has to be there. -/
def takeChar? (expected : Char) : Text -> Option Text
  | c :: rest => if c = expected then some rest else none
  | [] => none

/-- The microseconds of a fraction of a second; digits after the sixth count for nothing. -/
def takeFraction (text : Text) : Nat × Text :=
  match text with
  | '.' :: rest =>
    match rest.span Char.isDigit with
    | ([], _) => (0, text)
    | (digits, after) =>
      let kept := digits.take 6
      (digitsValue kept * Nat.pow 10 (6 - kept.length), after)
  | _ => (0, text)

/-- A time of day. -/
def takeClock? (text : Text) : Option (Clock × Text) := do
  let (hour, text) ← takeNumber? 2 0 23 text
  let text ← takeChar? ':' text
  let (minute, text) ← takeNumber? 2 0 59 text
  let text ← takeChar? ':' text
  let (second, text) ← takeNumber? 2 0 59 text
  let (microsecond, text) := takeFraction text
  return (⟨hour, minute, second, microsecond⟩, text)

/-- A day that may or may not be in the calendar. -/
def takeDay? (text : Text) : Option (Day × Text) := do
  let (year, text) ← takeNumber? 4 0 9999 text
  let text ← takeChar? '-' text
  let (month, text) ← takeNumber? 2 1 12 text
  let text ← takeChar? '-' text
  let (day, text) ← takeNumber? 2 1 31 text
  return (⟨year, month, day⟩, text)

/-- Hours and minutes, in minutes. -/
def takeHourMinute? (text : Text) : Option (Nat × Text) := do
  let (hour, text) ← takeNumber? 2 0 23 text
  let text ← takeChar? ':' text
  let (minute, text) ← takeNumber? 2 0 59 text
  return (60 * hour + minute, text)

/-- An offset from universal time, in minutes. -/
def takeOffset? : Text -> Option (Int × Text)
  | 'Z' :: rest | 'z' :: rest => some (0, rest)
  | '+' :: rest => (takeHourMinute? rest).map fun (minutes, after) => ((minutes : Int), after)
  | '-' :: rest => (takeHourMinute? rest).map fun (minutes, after) => (-(minutes : Int), after)
  | _ => none

/-- Whether a year has a 29th of February. -/
def isLeapYear (year : Nat) : Bool := year % 4 == 0 && (year % 100 != 0 || year % 400 == 0)

/-- The number of days in a month. -/
def daysInMonth (year month : Nat) : Nat :=
  if month = 2 then (if isLeapYear year then 29 else 28)
  else if month = 4 || month = 6 || month = 9 || month = 11 then 30
  else 31

/-- Whether the calendar has a day; it starts with the year one. -/
def inCalendar (day : Day) : Bool := 1 ≤ day.year && day.day ≤ daysInMonth day.year day.month

/-- A day with what follows it: a time of day after one mark, and an offset after that. -/
def takeDated (day : Day) (text : Text) : Moment × Text :=
  match text with
  | mark :: rest =>
    if mark == 'T' || mark == 't' || mark == ' ' then
      match takeClock? rest with
      | none => (.day day, text)
      | some (clock, after) =>
        match takeOffset? after with
        | none => (.plain day clock, after)
        | some (offset, after) => (.zoned day clock offset, after)
    else (.day day, text)
  | [] => (.day day, text)

/-- A moment; none when the text does not start like one. -/
def readMoment? (text : Text) : Option (Except TomlFault (Moment × Text)) :=
  match takeDay? text with
  | some (day, after) => some (if inCalendar day then .ok (takeDated day after) else malformed)
  | none => (takeClock? text).map fun (clock, after) => .ok (.clock clock, after)

end TagOrder.Toml
