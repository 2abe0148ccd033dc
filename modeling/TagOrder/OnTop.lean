import TagOrder.Ranking

/-!
# Attributes on top

Among the other attributes, those named by a list of qualifiers come first and in the order of
that list. A qualifier `foo` names the plain attribute and `:foo` names the bind.
-/

namespace TagOrder

/-- The name of an attribute that comes on top. -/
structure Qualifier where
  name : String
  bound : Bool := false
  deriving DecidableEq, Repr

namespace Qualifier

/-- The qualifier that a text writes: a leading colon asks for the bind. -/
def ofString (text : String) : Qualifier :=
  match text.toList with
  | ':' :: name => ⟨String.ofList name, true⟩
  | _ => ⟨text, false⟩

/-- The text that writes a qualifier. -/
def toString (qualifier : Qualifier) : String :=
  if qualifier.bound then ":" ++ qualifier.name else qualifier.name

/-- Whether an attribute is the one that a qualifier names. -/
def names (qualifier : Qualifier) (node : Attribute) : Bool :=
  qualifier.name == node.displayName && qualifier.bound == node.isBind

end Qualifier

/-- The qualifiers of the attributes that come on top, in their required order. -/
abbrev OnTop := List Qualifier

namespace OnTop

/-- The place of the first qualifier that names an attribute. -/
def index (onTop : OnTop) (node : Attribute) : Option Nat :=
  onTop.findIdx? fun qualifier => qualifier.names node

/-- The qualifiers that name at least one other attribute of the tag at hand. -/
def active (onTop : OnTop) (otherRank : Option Nat) (items : List Ranked) : OnTop :=
  onTop.filter fun qualifier =>
    items.any fun item => some item.rank == otherRank && qualifier.names item.node

/-- Whether `current` may follow `previous`: an attribute on top may be followed by any that is
not, one not on top never by one that is, and two on top keep their required order. The answer for
two that are not on top is the given one. -/
def allows (onTop : OnTop) (otherwise : Bool) (previous current : Attribute) : Bool :=
  match onTop.index previous, onTop.index current with
  | some _, none => true
  | none, none => otherwise
  | none, some _ => false
  | some before, some after => before < after

/-- `allows` among the qualifiers that are active in the tag; without qualifiers the answer is the
given one. -/
def adjust (onTop : Option OnTop) (otherRank : Option Nat) (otherwise : Bool)
    (previous current : Attribute) (items : List Ranked) : Bool :=
  match onTop with
  | none => otherwise
  | some onTop => (onTop.active otherRank items).allows otherwise previous current

end OnTop

end TagOrder
