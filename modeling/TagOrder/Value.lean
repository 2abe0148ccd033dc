import TagOrder.Decimal.Double

/-!
# Dynamic values

The values that settings, parser dumps and rule registries hold. The fields of a table keep their
order.
-/

namespace TagOrder

/-- A day of the calendar. -/
structure Day where
  year : Nat
  month : Nat
  day : Nat
  deriving DecidableEq, Repr

/-- A time of the day. -/
structure Clock where
  hour : Nat
  minute : Nat
  second : Nat := 0
  microsecond : Nat := 0
  deriving DecidableEq, Repr

/-- A point in time as settings may write it; the offset from universal time is in minutes. -/
inductive Moment where
  | day (day : Day)
  | clock (clock : Clock)
  | plain (day : Day) (clock : Clock)
  | zoned (day : Day) (clock : Clock) (offset : Int)
  deriving DecidableEq, Repr

/-- A dynamic value. -/
inductive Value where
  | null
  | bool (holds : Bool)
  | int (number : Int)
  | float (number : Double)
  | text (text : String)
  | list (items : List Value)
  | table (fields : List (String × Value))
  | moment (moment : Moment)

instance : Inhabited Value := ⟨.null⟩

/-- The fields of a table, in order. -/
abbrev Fields := List (String × Value)

namespace Fields

/-- The value of a key. -/
def get? (fields : Fields) (key : String) : Option Value := fields.lookup key

/-- The value of a key set: in place where the key is present, at the end where it is not. -/
def set (fields : Fields) (key : String) (value : Value) : Fields :=
  match fields with
  | [] => [(key, value)]
  | (name, old) :: rest =>
    if name = key then (key, value) :: rest else (name, old) :: set rest key value

/-- A key that was set has its value. -/
theorem get?_set (fields : Fields) (key : String) (value : Value) :
    Fields.get? (fields.set key value) key = some value := by
  induction fields with
  | nil => simp [set, get?]
  | cons field rest ih =>
    obtain ⟨name, old⟩ := field
    by_cases same : name = key
    · simp [set, get?, same]
    · simpa [set, get?, List.lookup_cons, same, beq_eq_false_iff_ne.mpr (Ne.symm same)] using ih

/-- Setting a key leaves the values of the other keys alone. -/
theorem get?_set_of_ne (fields : Fields) {key other : String} (value : Value)
    (distinct : other ≠ key) :
    Fields.get? (fields.set key value) other = fields.get? other := by
  induction fields with
  | nil => simp [set, get?, List.lookup_cons, beq_eq_false_iff_ne.mpr distinct]
  | cons field rest ih =>
    obtain ⟨name, old⟩ := field
    by_cases same : name = key
    · simp [set, get?, List.lookup_cons, same, beq_eq_false_iff_ne.mpr distinct]
    · cases found : other == name <;> simp_all [set, get?, List.lookup_cons]

end Fields

namespace Value

/-- The fields of a table; nothing else has any. -/
def fields? : Value -> Option Fields
  | .table fields => some fields
  | _ => none

/-- Whether a value counts as true: all do but null, false, zero and what is empty. -/
def isTrue : Value -> Bool
  | .null => false
  | .bool holds => holds
  | .int number => number != 0
  | .float number => !number.isZero
  | .text string => string != ""
  | .list items => !items.isEmpty
  | .table fields => !fields.isEmpty
  | .moment _ => true

/-- The value of a key, when the value is a table that has it. -/
def get? (value : Value) (key : String) : Option Value :=
  match value with
  | .table fields => fields.lookup key
  | _ => none

end Value

end TagOrder
