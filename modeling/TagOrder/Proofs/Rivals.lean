import TagOrder.Proofs.Unreported

/-!
# Pairs that no order suits

A qualifier that names two of the other attributes asks each of them to come before the other.
`mayFollow_either_iff` says that there are no other pairs of which neither may follow the other: the
rank, the kind, the alphabet and the qualifiers let any two attributes be ordered that are no
rivals. Of rivals one is reported wherever they stand.
-/

namespace TagOrder

/-- Two of the other attributes that one qualifier names. -/
structure Policy.Rivals (policy : Policy) (left right : Ranked) : Prop where
  leftOther : some left.rank = policy.table.otherRank
  rightOther : some right.rank = policy.table.otherRank
  named : ∃ onTop, policy.onTop = some onTop ∧ ∃ qualifier ∈ onTop,
    qualifier.names left.node = true ∧ qualifier.names right.node = true

/-- A qualifier names an attribute by what it is called and whether it is bound, so attributes that
one qualifier names are named by the same ones. -/
theorem Qualifier.names_congr {qualifier : Qualifier} {left right : Attribute}
    (leftNamed : qualifier.names left = true) (rightNamed : qualifier.names right = true)
    (other : Qualifier) : other.names left = other.names right := by
  have same := (names_iff.mp leftNamed).symm.trans (names_iff.mp rightNamed)
  rw [Bool.eq_iff_iff, names_iff, names_iff, same]

namespace Policy

variable {policy : Policy} {items : List Ranked} {left right : Ranked}

theorem Rivals.symm (rivals : policy.Rivals left right) : policy.Rivals right left := by
  obtain ⟨leftOther, rightOther, onTop, pins, qualifier, member, names⟩ := rivals
  exact ⟨rightOther, leftOther, onTop, pins, qualifier, member, names.symm⟩

/-- Rivals are pinned at one place. -/
theorem Rivals.exists_index (rivals : policy.Rivals left right) :
    ∃ onTop place, policy.onTop = some onTop ∧ onTop.index left.node = some place ∧
      onTop.index right.node = some place := by
  obtain ⟨-, -, onTop, pins, qualifier, member, leftNamed, rightNamed⟩ := rivals
  have same : onTop.index left.node = onTop.index right.node := by
    unfold OnTop.index
    simp only [Qualifier.names_congr leftNamed rightNamed]
  have pinned : onTop.index right.node ≠ none := by
    intro unnamed
    rw [index_eq_none_iff.mp unnamed qualifier member] at rightNamed
    cases rightNamed
  obtain ⟨place, found⟩ := Option.ne_none_iff_exists'.mp pinned
  exact ⟨onTop, place, pins, same.trans found, found⟩

/-- A rival may not follow the other one. -/
theorem Rivals.not_mayFollow (rivals : policy.Rivals left right) (leftMember : left ∈ items)
    (rightMember : right ∈ items) : policy.mayFollow items left right = false := by
  obtain ⟨onTop, place, pins, atLeft, atRight⟩ := rivals.exists_index
  refine Bool.eq_false_iff.mpr fun follows => ?_
  have ahead := pin_lt_of_loosened leftMember rightMember rivals.leftOther rivals.rightOther pins
    (mayFollow_loosened follows) (by rw [atRight]; rfl)
  rw [pin_of_index atLeft, pin_of_index atRight] at ahead
  exact Nat.lt_irrefl place ahead

/-- Of two rivals at least one is reported. -/
theorem pairwise_reported_of_rivals (policy : Policy) (attributes : List Attribute) :
    (ranked policy.table attributes).Pairwise fun left right => policy.Rivals left right →
      ∃ inversion ∈ policy.inversions attributes,
        inversion.node = left ∨ inversion.node = right := by
  have declared := (policy.arranged_unreported attributes).declared
  cases pins : policy.onTop with
  | none =>
    refine List.pairwise_of_forall fun left right rivals => ?_
    obtain ⟨onTop, -, given, -⟩ := rivals.exists_index
    cases pins.symm.trans given
  | some onTop =>
    have unreported := List.pairwise_filter.mp (List.pairwise_filter.mp (declared onTop pins))
    refine unreported.imp fun {left right} ordered rivals => ?_
    by_contra spared
    push Not at spared
    obtain ⟨others, place, given, atLeft, atRight⟩ := rivals.exists_index
    obtain rfl := Option.some.inj (pins.symm.trans given)
    have apart := ordered
      (List.all_eq_true.mpr fun inversion member => bne_iff_ne.mpr (spared inversion member).1)
      (List.all_eq_true.mpr fun inversion member => bne_iff_ne.mpr (spared inversion member).2)
      (beq_iff_eq.mpr rivals.leftOther) (beq_iff_eq.mpr rivals.rightOther) place place atLeft
      atRight
    exact Nat.lt_irrefl place apart

end Policy

/-- Of two ranked attributes one may follow the other unless they are rivals. Rivals are impossible
to order: neither may follow the other, and a check reports one of them wherever they stand. -/
theorem mayFollow_either_iff (policy : Policy) (attributes : List Attribute) :
    let items := ranked policy.table attributes
    (∀ left ∈ items, ∀ right ∈ items,
      (policy.mayFollow items left right = true ∨ policy.mayFollow items right left = true ↔
        ¬ policy.Rivals left right)) ∧
    items.Pairwise fun left right => policy.Rivals left right →
      ∃ inversion ∈ policy.inversions attributes,
        inversion.node = left ∨ inversion.node = right := by
  intro items
  refine ⟨fun left leftMember right rightMember => ⟨fun either rivals => ?_, fun apart => ?_⟩,
    policy.pairwise_reported_of_rivals attributes⟩
  · rw [rivals.not_mayFollow leftMember rightMember,
      rivals.symm.not_mayFollow rightMember leftMember] at either
    exact either.elim nofun nofun
  · refine Policy.mayFollow_either fun leftOther rightOther onTop pins qualifier member names => ?_
    exact apart ⟨leftOther, rightOther, onTop, pins, qualifier, member, names⟩

/-- A table that puts one bind on top. -/
def boundOnTop : Fields :=
  [("otherAttrsExceptions", .table [("onTop", .list [.text ":foo"])])]

/-- The options that it sets. -/
def boundOnTopOptions : Options where
  onTop := some [⟨"foo", true⟩]

/-- A bind that sets a property. -/
def propertyBind : Attribute :=
  { directive := true, name := "bind", argument := some "foo", modifiers := ["prop"]
    text := ":foo.prop=\"x\"".toList, keyText := ":foo.prop".toList }

/-- A bind of the same name that sets an attribute. -/
def attributeBind : Attribute :=
  { directive := true, name := "bind", argument := some "foo", modifiers := ["attr"]
    text := ":foo.attr=\"y\"".toList, keyText := ":foo.attr".toList }

/-- The attributes of a tag that has both binds. -/
def boundTwice : List Attribute :=
  [propertyBind, attributeBind,
    { name := "title", text := "title=\"z\"".toList, keyText := "title".toList }]

/-- The two binds are rivals, and one is reported. The plain attribute is a rival of neither. -/
theorem mayFollow_either_iff_boundTwice :
    let policy := boundOnTopOptions.policy
    ∃ first second plain, ranked policy.table boundTwice = [first, second, plain] ∧
      policy.Rivals first second ∧
      (∃ inversion ∈ policy.inversions boundTwice,
        inversion.node = first ∨ inversion.node = second) ∧
      ¬ policy.Rivals first plain ∧ ¬ policy.Rivals second plain := by
  intro policy
  have items : ranked policy.table boundTwice =
      [⟨0, propertyBind, 8⟩, ⟨1, attributeBind, 8⟩, ⟨2, boundTwice[2], 8⟩] := by decide +kernel
  have rivals : policy.Rivals ⟨0, propertyBind, 8⟩ ⟨1, attributeBind, 8⟩ :=
    ⟨by decide +kernel, by decide +kernel, _, rfl, _, List.mem_singleton_self _,
      by decide +kernel, by decide +kernel⟩
  obtain ⟨either, reported⟩ := mayFollow_either_iff policy boundTwice
  rw [items] at either reported
  refine ⟨_, _, _, items, rivals, ?_, ?_, ?_⟩
  · exact (List.pairwise_cons.mp reported).1 _ List.mem_cons_self rivals
  · exact (either _ (by simp) _ (by simp)).mp (.inl (by decide +kernel))
  · exact (either _ (by simp) _ (by simp)).mp (.inl (by decide +kernel))

/-- The options can be set by a table, and of the two binds neither may follow the other. -/
theorem not_mayFollow_boundTwice :
    Options.read Limits.usual.shown boundOnTop = .ok boundOnTopOptions ∧
      let policy := boundOnTopOptions.policy
      let items := ranked policy.table boundTwice
      ¬ items.Pairwise fun left right =>
        policy.mayFollow items left right = true ∨ policy.mayFollow items right left = true :=
  ⟨eq_ok_of_toOption (by decide +kernel), by decide +kernel⟩

end TagOrder
