import TagOrder.Order

/-!
# Ranked attributes

The attributes of a tag that take part in ordering, each with its place in the tag and its rank.

The merge of `v-bind="object"` with a neighbouring plain attribute or bind depends on which comes
first, so a spread bind with such a neighbour is left out. A spread bind without one stands with
the next attribute that sets a named property and takes its rank. An attribute without a rank is
left out as well.
-/

namespace TagOrder

/-- An attribute that takes part in ordering. -/
structure Ranked where
  place : Nat
  node : Attribute
  rank : Nat
  deriving DecidableEq, Repr

/-- Whether a spread bind stands beside an attribute that sets a value. -/
def coupledBetween (left : Option Attribute) (node : Attribute) (right : Option Attribute) : Bool :=
  node.isSpread && (left.any Attribute.setsValue || right.any Attribute.setsValue)

/-- Whether the attribute at a place is a spread bind coupled to a direct neighbour. -/
def isCoupled (attributes : List Attribute) (place : Nat) : Bool :=
  match attributes[place]? with
  | none => false
  | some node =>
    coupledBetween (if place = 0 then none else attributes[place - 1]?) node attributes[place + 1]?

/-- The attributes that are no coupled spread binds, with their places; `left` stands before the
first of them and `place` is where that first one stands. -/
def uncoupledFrom (left : Option Attribute) (place : Nat) : List Attribute -> List (Nat × Attribute)
  | [] => []
  | node :: rest =>
    if coupledBetween left node rest.head? then uncoupledFrom (some node) (place + 1) rest
    else (place, node) :: uncoupledFrom (some node) (place + 1) rest

/-- The rank of the first attribute that sets a named property. -/
def rankAhead (table : RankTable) : List (Nat × Attribute) -> Option Nat
  | [] => none
  | (_, next) :: rest =>
    if next.setsValue && !next.isSpread then table.rank (Category.of next)
    else rankAhead table rest

/-- The attributes that have a rank where they stand. -/
def rankedAmong (table : RankTable) : List (Nat × Attribute) -> List Ranked
  | [] => []
  | (place, node) :: rest =>
    let rank := if node.isSpread then rankAhead table rest else table.rank (Category.of node)
    match rank with
    | some rank => ⟨place, node, rank⟩ :: rankedAmong table rest
    | none => rankedAmong table rest

/-- The attributes of a tag that take part in ordering, in source order. -/
def ranked (table : RankTable) (attributes : List Attribute) : List Ranked :=
  rankedAmong table (uncoupledFrom none 0 attributes)

end TagOrder
