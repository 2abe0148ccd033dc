/-!
# Sets of characters

A set of characters is written as the ascending list of code points at which membership changes,
starting outside the set. A character belongs to it when an odd number of changes lie at or
before its code point.
-/

namespace TagOrder

/-- A set of characters, given by where membership changes. -/
structure CharSet where
  bounds : List Nat
  deriving Repr

/-- Whether a character belongs to a set. -/
def CharSet.has (set : CharSet) (c : Char) : Bool :=
  (set.bounds.takeWhile (· ≤ c.toNat)).length % 2 == 1

/-- Blank characters: Unicode white space together with the four information separators. -/
def blank : CharSet :=
  ⟨[9, 14, 28, 33, 133, 134, 160, 161, 5760, 5761, 8192, 8203, 8232, 8234, 8239, 8240, 8287,
    8288, 12288, 12289]⟩

/-- A text without the blanks at either end. -/
def trimBlanks (text : List Char) : List Char :=
  ((text.dropWhile blank.has).reverse.dropWhile blank.has).reverse

end TagOrder
