import TagOrder.Attribute

/-!
# Links and clusters

Two attributes are linked when one is a spread bind and the other sets a value, for then their
relative order decides which value wins. A cluster is a run of attributes in which every two
neighbours are linked.
-/

namespace TagOrder

/-- Whether the relative order of two attributes decides which value wins. -/
def linked (left right : Attribute) : Bool :=
  (left.isSpread && right.setsValue) || (right.isSpread && left.setsValue)

/-- The place at which the cluster around a place begins. -/
def clusterStart (attributes : List Attribute) : Nat -> Nat
  | 0 => 0
  | place + 1 =>
    match attributes[place]?, attributes[place + 1]? with
    | some left, some right =>
      if linked left right then clusterStart attributes place else place + 1
    | _, _ => place + 1

/-- How many attributes after the first one belong to the cluster of the first one. -/
def linkedRun : List Attribute -> Nat
  | left :: right :: rest => if linked left right then linkedRun (right :: rest) + 1 else 0
  | _ => 0

/-- The place of the last member of the cluster around a place. -/
def clusterEnd (attributes : List Attribute) (place : Nat) : Nat :=
  place + linkedRun (attributes.drop place)

end TagOrder
