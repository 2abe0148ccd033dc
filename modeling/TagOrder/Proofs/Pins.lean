import TagOrder.Proofs.Preference

/-!
# Pins and active qualifiers

An attribute is named by one qualifier alone (`Qualifier.names_iff`), and it is pinned at the first
place where that one is listed. A tag is looked at with its active qualifiers alone, those that name
one of its other attributes. Leaving the rest out changes the places but neither which of the other
attributes are pinned (`index_active_eq_none_iff`) nor which of two comes first
(`pin_active_lt_iff`), so what is said by the active qualifiers holds of the qualifiers as they were
declared: whether one of the other attributes may follow another is the same with all of them
(`OnTop.adjust_eq_allows`).
-/

namespace TagOrder

/-- The qualifier that names an attribute. -/
def Qualifier.ofAttribute (node : Attribute) : Qualifier := ⟨node.displayName, node.isBind⟩

/-- No other qualifier names an attribute than the one with its name, bound when it is. -/
theorem Qualifier.names_iff {qualifier : Qualifier} {node : Attribute} :
    qualifier.names node = true ↔ qualifier = ofAttribute node := by
  cases qualifier
  rw [names, Bool.and_eq_true, beq_iff_eq, beq_iff_eq, ofAttribute, mk.injEq]

namespace Policy

variable {onTop : OnTop} {qualifier : Qualifier} {node left right : Attribute} {place : Nat}

theorem pin_cons (qualifier : Qualifier) (onTop : OnTop) (node : Attribute) :
    pin (qualifier :: onTop) node = if qualifier.names node then 0 else pin onTop node + 1 := by
  unfold pin OnTop.index
  rw [List.findIdx?_cons]
  split
  · rfl
  · cases onTop.findIdx? fun qualifier => qualifier.names node <;> rfl

theorem index_eq_none_iff :
    onTop.index node = none ↔ ∀ qualifier ∈ onTop, qualifier.names node = false :=
  List.findIdx?_eq_none_iff

/-- The pin of an attribute that a qualifier names is the place of that qualifier. -/
theorem pin_of_index (found : onTop.index node = some place) : pin onTop node = place := by
  rw [pin, found, Option.getD_some]

theorem pin_lt_length_iff : pin onTop node < onTop.length ↔ (onTop.index node).isSome = true := by
  unfold pin
  cases found : onTop.index node with
  | none => simp
  | some place => simpa using index_lt_length found

section Filter

variable {keep : Qualifier -> Bool}

/-- An attribute whose qualifiers all stay is named by one of the rest when it was before. -/
theorem index_filter_eq_none_iff
    (stays : ∀ qualifier ∈ onTop, qualifier.names node = true → keep qualifier = true) :
    OnTop.index (onTop.filter keep) node = none ↔ onTop.index node = none := by
  rw [index_eq_none_iff, index_eq_none_iff]
  constructor
  · intro unnamed qualifier member
    refine Bool.eq_false_iff.mpr fun named => ?_
    rw [unnamed qualifier (List.mem_filter.mpr ⟨member, stays qualifier member named⟩)] at named
    cases named
  · exact fun unnamed qualifier member => unnamed qualifier (List.mem_filter.mp member).1

/-- Qualifiers that name neither of two attributes do not count for which is pinned first. -/
theorem pin_filter_lt_iff
    (leftStays : ∀ qualifier ∈ onTop, qualifier.names left = true → keep qualifier = true)
    (rightStays : ∀ qualifier ∈ onTop, qualifier.names right = true → keep qualifier = true) :
    pin (onTop.filter keep) left < pin (onTop.filter keep) right ↔
      pin onTop left < pin onTop right := by
  induction onTop with
  | nil => rfl
  | cons qualifier rest ih =>
    have tail := ih (fun other member => leftStays other (List.mem_cons_of_mem _ member))
      (fun other member => rightStays other (List.mem_cons_of_mem _ member))
    rw [pin_cons, pin_cons, List.filter_cons]
    split
    · rw [pin_cons, pin_cons]
      split <;> split <;> simp [tail]
    · rename_i dropped
      have leftApart : ¬ qualifier.names left = true := fun named =>
        dropped (leftStays qualifier List.mem_cons_self named)
      have rightApart : ¬ qualifier.names right = true := fun named =>
        dropped (rightStays qualifier List.mem_cons_self named)
      rw [if_neg leftApart, if_neg rightApart, tail, Nat.add_lt_add_iff_right]

end Filter

section Active

variable {otherRank : Option Nat} {items : List Ranked} {first second : Ranked}

/-- The qualifiers that name one of the other attributes of a tag are active. -/
theorem active_of_names (member : first ∈ items) (other : some first.rank = otherRank)
    (qualifier : Qualifier) (named : qualifier.names first.node = true) :
    (items.any fun item => some item.rank == otherRank && qualifier.names item.node) = true :=
  List.any_eq_true.mpr ⟨first, member, by rw [other, named, beq_self_eq_true, Bool.and_true]⟩

theorem index_active_eq_none_iff (member : first ∈ items) (other : some first.rank = otherRank) :
    (onTop.active otherRank items).index first.node = none ↔ onTop.index first.node = none :=
  index_filter_eq_none_iff fun qualifier _ => active_of_names member other qualifier

/-- Which of two of the other attributes is pinned first does not depend on whether qualifiers that
are not active are left out. -/
theorem pin_active_lt_iff (firstMember : first ∈ items) (secondMember : second ∈ items)
    (firstOther : some first.rank = otherRank) (secondOther : some second.rank = otherRank) :
    pin (onTop.active otherRank items) first.node <
        pin (onTop.active otherRank items) second.node ↔
      pin onTop first.node < pin onTop second.node :=
  pin_filter_lt_iff (fun qualifier _ => active_of_names firstMember firstOther qualifier)
    fun qualifier _ => active_of_names secondMember secondOther qualifier

/-- Two of the other attributes are pinned at one place among the active qualifiers when they are
among all of them. -/
theorem pin_active_eq_iff (firstMember : first ∈ items) (secondMember : second ∈ items)
    (firstOther : some first.rank = otherRank) (secondOther : some second.rank = otherRank) :
    pin (onTop.active otherRank items) first.node =
        pin (onTop.active otherRank items) second.node ↔
      pin onTop first.node = pin onTop second.node := by
  -- They are when neither is pinned first.
  rw [Nat.le_antisymm_iff, Nat.le_antisymm_iff, ← Nat.not_lt, ← Nat.not_lt, ← Nat.not_lt,
    ← Nat.not_lt, pin_active_lt_iff firstMember secondMember firstOther secondOther,
    pin_active_lt_iff secondMember firstMember secondOther firstOther]

end Active

end Policy

/-- Leaving out the qualifiers that are not active changes no answer: whether one of the other
attributes of a tag may follow another is decided by where the first qualifiers that name them stand
in the whole list. -/
theorem OnTop.adjust_eq_allows (onTop : OnTop) (otherRank : Option Nat) (items : List Ranked)
    (otherwise : Bool) {previous current : Ranked} (previousMember : previous ∈ items)
    (currentMember : current ∈ items) (previousOther : some previous.rank = otherRank)
    (currentOther : some current.rank = otherRank) :
    OnTop.adjust (some onTop) otherRank otherwise previous.node current.node items =
      onTop.allows otherwise previous.node current.node := by
  have unpinned : ((onTop.active otherRank items).index previous.node).isNone =
      (onTop.index previous.node).isNone := by
    rw [Bool.eq_iff_iff, Option.isNone_iff_eq_none, Option.isNone_iff_eq_none]
    exact Policy.index_active_eq_none_iff previousMember previousOther
  rw [adjust, Policy.allows_eq, Policy.allows_eq, Bool.eq_iff_iff, lexBy_iff, lexBy_iff, unpinned,
    Policy.pin_active_lt_iff previousMember currentMember previousOther currentOther,
    Policy.pin_active_eq_iff previousMember currentMember previousOther currentOther]

/-- Qualifiers of which the first names nothing in the tag. -/
def sparseOnTop : OnTop := ["lost", ":to", "alt"].map Qualifier.ofString

/-- The ranked attributes of a tag that has the two others in the wrong order. -/
def sparseItems : List Ranked :=
  [⟨0, { name := "id", keyText := "id".toList }, 4⟩,
    ⟨1, { name := "alt", keyText := "alt".toList }, 8⟩,
    ⟨2, { directive := true, name := "bind", argument := some "to", keyText := ":to".toList }, 8⟩]

/-- The places of the two are not those among the active qualifiers, and the answer is the same. -/
theorem OnTop.adjust_eq_allows_sparseItems :
    ∃ alt ∈ sparseItems, ∃ bound ∈ sparseItems, some alt.rank = some 8 ∧ some bound.rank = some 8 ∧
      (sparseOnTop.active (some 8) sparseItems).index alt.node = some 1 ∧
      sparseOnTop.index alt.node = some 2 ∧
      OnTop.adjust (some sparseOnTop) (some 8) true alt.node bound.node sparseItems =
        sparseOnTop.allows true alt.node bound.node ∧
      sparseOnTop.allows true alt.node bound.node = false := by
  have altMember : sparseItems[1] ∈ sparseItems := List.getElem_mem _
  have boundMember : sparseItems[2] ∈ sparseItems := List.getElem_mem _
  exact ⟨_, altMember, _, boundMember, rfl, rfl, by decide +kernel, by decide +kernel,
    OnTop.adjust_eq_allows sparseOnTop (some 8) sparseItems true altMember boundMember rfl rfl,
    by decide +kernel⟩

end TagOrder
