import TagOrder.Category

/-!
# Orders and ranks

An order lists categories and groups of categories. A category's rank is the place of the entry
that names it, so the members of a group share one rank and a category that no entry names has
none.
-/

namespace TagOrder

/-- One entry of an order. -/
inductive OrderEntry where
  | one (category : Category)
  | group (categories : List Category)
  deriving DecidableEq, Repr

/-- The categories that an entry names. -/
def OrderEntry.categories : OrderEntry -> List Category
  | .one category => [category]
  | .group categories => categories

/-- A list of entries, from the front of a tag to its end. -/
abbrev Order := List OrderEntry

namespace Order

/-- The order used when none is configured. -/
def standard : Order :=
  [.one .definition, .one .listRendering, .one .conditionals, .one .renderModifiers, .one .global,
    .group [.unique, .slot], .one .twoWayBinding, .one .otherDirectives, .one .otherAttr,
    .one .events, .one .content]

/-- The rank of a category: the place of the last entry that names it. -/
def rankFrom (place : Nat) : Order -> Category -> Option Nat
  | [], _ => none
  | entry :: rest, category =>
    match rankFrom (place + 1) rest category with
    | some rank => some rank
    | none => if category ∈ entry.categories then some place else none

/-- The rank of a category in an order. -/
def rank (order : Order) (category : Category) : Option Nat := rankFrom 0 order category

end Order

/-- The rank of each category that takes part in an order. -/
structure RankTable where
  rank : Category -> Option Nat

/-- The table of an order. -/
def Order.table (order : Order) : RankTable := ⟨order.rank⟩

/-- The rank that the other attributes share, if they have one. -/
def RankTable.otherRank (table : RankTable) : Option Nat := table.rank .otherAttr

end TagOrder
