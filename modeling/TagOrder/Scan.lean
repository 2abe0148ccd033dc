import TagOrder.OnTop
import TagOrder.Text.Order

/-!
# Scanning a tag

Which ranked attribute may follow which, and the single pass that keeps the last attribute
accepted. An attribute that may not follow it is reported against it and does not replace it, so
each misplaced attribute is reported once.
-/

namespace TagOrder

/-- What decides whether one attribute may follow another. -/
structure Policy where
  table : RankTable
  alphabetical : Bool := false
  /-- Plain other attributes come before bound ones. -/
  plainBeforeBound : Bool := false
  onTop : Option OnTop := none

/-- Display names may not go down. Under one name a bind may follow the plain attribute but not
come before it. A computed key is compared with nothing. -/
def inAlphabeticalOrder (previous current : Attribute) : Bool :=
  if previous.hasStaticName && current.hasStaticName then
    if previous.displayName = current.displayName then !previous.isBind || current.isBind
    else precedes previous.displayName current.displayName
  else true

namespace Policy

/-- Whether ranks, and within one rank the alphabet, let `current` follow `previous`. -/
def byRank (policy : Policy) (previous current : Ranked) : Bool :=
  previous.rank ≤ current.rank &&
    (!(policy.alphabetical && previous.rank = current.rank) ||
      inAlphabeticalOrder previous.node current.node)

/-- Whether plain goes before bound, and within each of the two the alphabet holds. -/
def byBinding (policy : Policy) (previous current : Attribute) : Bool :=
  (!previous.directive || current.directive) &&
    (!(policy.alphabetical && previous.directive = current.directive) ||
      inAlphabeticalOrder previous current)

/-- Whether `current` may follow `previous` among the ranked attributes of a tag. -/
def mayFollow (policy : Policy) (items : List Ranked) (previous current : Ranked) : Bool :=
  let otherRank := policy.table.otherRank
  if previous.rank = current.rank && some current.rank = otherRank then
    let base := if policy.plainBeforeBound then policy.byBinding previous.node current.node
      else policy.byRank previous current
    OnTop.adjust policy.onTop otherRank base previous.node current.node items
  else policy.byRank previous current

end Policy

/-- An attribute that should go before the last one accepted. -/
structure Inversion where
  node : Ranked
  previous : Ranked
  deriving DecidableEq, Repr

/-- One pass over attributes, given the last one accepted. -/
def scanFrom (mayFollow : Ranked -> Ranked -> Bool) (previous : Ranked) :
    List Ranked -> List Inversion
  | [] => []
  | current :: rest =>
    if mayFollow previous current then scanFrom mayFollow current rest
    else ⟨current, previous⟩ :: scanFrom mayFollow previous rest

/-- One pass over attributes; the first is accepted. -/
def scan (mayFollow : Ranked -> Ranked -> Bool) : List Ranked -> List Inversion
  | [] => []
  | first :: rest => scanFrom mayFollow first rest

/-- The misplaced attributes of a tag, in source order. -/
def Policy.inversions (policy : Policy) (attributes : List Attribute) : List Inversion :=
  let items := ranked policy.table attributes
  scan (policy.mayFollow items) items

end TagOrder
