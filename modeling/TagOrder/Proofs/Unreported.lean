import Mathlib.Data.List.Destutter
import TagOrder.Proofs.Misplaced
import TagOrder.Proofs.Pins
import TagOrder.Proofs.Rule.Check

/-!
# What a scan does not report

The items that a scan accepts are a chain, each following the one accepted before it
(`filter_scan`). That a chain is in order as a whole does not follow: a computed key is compared
with nothing, so names need not be in order across it. Ranks and qualifiers are: the policy that
looks at nothing else is transitive whatever the names are (`Policy.loosened_trans`). So the
attributes that a check does not report have ascending ranks, and those on top come first and in
their declared order (`unreported_arranged`).
-/

namespace TagOrder

section Scan

variable {mayFollow : Ranked -> Ranked -> Bool} {previous : Ranked} {items : List Ranked}

/-- A scan reports nothing but what it goes over. -/
theorem node_ne_of_not_mem {item : Ranked} (apart : item ∉ items) :
    ((scanFrom mayFollow previous items).all fun inversion => inversion.node != item) = true :=
  List.all_eq_true.mpr fun _ member =>
    bne_iff_ne.mpr fun same => apart (same ▸ (mem_of_mem_scanFrom member).1)

/-- Behind the item accepted before, what a scan does not report is what it accepts. -/
theorem filter_scanFrom (distinct : (previous :: items).Nodup) :
    previous :: items.filter (fun item =>
        (scanFrom mayFollow previous items).all fun inversion => inversion.node != item) =
      items.destutter' (fun left right => mayFollow left right = true) previous := by
  induction items generalizing previous with
  | nil => rfl
  | cons current rest ih =>
    obtain ⟨previousApart, currentDistinct⟩ := List.nodup_cons.mp distinct
    obtain ⟨currentApart, restDistinct⟩ := List.nodup_cons.mp currentDistinct
    rw [scanFrom]
    split
    · rename_i follows
      rw [List.destutter'_cons, if_pos follows, ← ih currentDistinct, List.filter_cons_of_pos]
      exact node_ne_of_not_mem currentApart
    · rename_i wrong
      have previousDistinct : (previous :: rest).Nodup := by
        refine List.nodup_cons.mpr ⟨fun member => ?_, restDistinct⟩
        exact previousApart (List.mem_cons_of_mem _ member)
      rw [List.destutter'_cons, if_neg wrong, ← ih previousDistinct,
        List.filter_cons_of_neg (by simp)]
      congr 1
      refine List.filter_congr fun item member => ?_
      have other : (current != item) = true :=
        bne_iff_ne.mpr fun same => currentApart (same ▸ member)
      rw [List.all_cons, other, Bool.true_and]

/-- What a scan does not report is what it accepts: the first item, and each further one that may
follow the last one accepted. -/
theorem filter_scan (distinct : items.Nodup) :
    items.filter (fun item =>
        (scan mayFollow items).all fun inversion => inversion.node != item) =
      items.destutter fun left right => mayFollow left right = true := by
  cases items with
  | nil => rfl
  | cons first rest =>
    rw [List.destutter_cons', ← filter_scanFrom distinct, scan, List.filter_cons_of_pos]
    exact node_ne_of_not_mem (List.nodup_cons.mp distinct).1

end Scan

namespace Policy

/-- The ranked attributes that a check does not report, in source order. -/
def unreported (policy : Policy) (attributes : List Attribute) : List Ranked :=
  (ranked policy.table attributes).filter fun item =>
    (policy.inversions attributes).all fun inversion => inversion.node != item

/-- The policy that looks at ranks and qualifiers alone. -/
def loosened (policy : Policy) : Policy :=
  { policy with alphabetical := false, plainBeforeBound := false }

/-- Ranked attributes in the order that ranks and qualifiers ask for: ranks do not go down, and of
the attributes of the other rank those that a qualifier names come before all that none names, in
the declared order of their qualifiers. -/
structure Arranged (policy : Policy) (items : List Ranked) : Prop where
  ranks : items.Pairwise fun left right => left.rank ≤ right.rank
  onTop : ∀ onTop, policy.onTop = some onTop →
    (items.filter fun item => some item.rank == policy.table.otherRank).Pairwise fun left right =>
      (onTop.index right.node).isSome = true → (onTop.index left.node).isSome = true
  declared : ∀ onTop, policy.onTop = some onTop →
    (items.filter fun item => some item.rank == policy.table.otherRank).Pairwise fun left right =>
      ∀ before after, onTop.index left.node = some before →
        onTop.index right.node = some after → before < after

variable {policy : Policy} {items : List Ranked} {first second third : Ranked}

/-- What may follow may do so for ranks and qualifiers alone. -/
theorem mayFollow_loosened (follows : policy.mayFollow items first second = true) :
    policy.loosened.mayFollow items first second = true := by
  rw [mayFollow_eq] at follows ⊢
  refine lexBy_imp (fun tied => ?_) follows
  have other : policy.loosened.table.otherRank = policy.table.otherRank := rfl
  unfold withinRank at tied ⊢
  rw [other]
  split
  · rename_i same
    rw [if_pos same] at tied
    unfold byPin at tied ⊢
    have pins : policy.loosened.onTop = policy.onTop := rfl
    rw [pins, other]
    cases given : policy.onTop with
    | none => rfl
    | some onTop =>
      rw [given] at tied
      refine lexBy_imp (fun free => ?_) tied
      exact Bool.and_eq_true_iff.mpr ⟨(Bool.and_eq_true_iff.mp free).1, rfl⟩
  · rfl

/-- For ranks and qualifiers alone, who may follow whom is transitive. -/
theorem loosened_trans (before : policy.loosened.mayFollow items first second = true)
    (after : policy.loosened.mayFollow items second third = true) :
    policy.loosened.mayFollow items first third = true :=
  mayFollow_trans (fun alphabetical => nomatch alphabetical) before after

/-- Of two of the other attributes where one may follow the other for ranks and qualifiers alone,
the first is pinned in front of the second if that one is pinned. -/
theorem pin_lt_of_loosened {onTop : OnTop} (firstMember : first ∈ items)
    (secondMember : second ∈ items) (firstOther : some first.rank = policy.table.otherRank)
    (secondOther : some second.rank = policy.table.otherRank) (pins : policy.onTop = some onTop)
    (follows : policy.loosened.mayFollow items first second = true)
    (pinned : (onTop.index second.node).isSome = true) :
    pin onTop first.node < pin onTop second.node := by
  have same : first.rank = second.rank := Option.some.inj (firstOther.trans secondOther.symm)
  have others : policy.loosened.table.otherRank = policy.table.otherRank := rfl
  have given : policy.loosened.onTop = some onTop := pins
  rw [mayFollow_eq, lexBy_iff] at follows
  obtain below | ⟨-, within⟩ := follows
  · exact absurd same (Nat.ne_of_lt below)
  rw [withinRank, others, if_pos secondOther, byPin, given, others] at within
  obtain before | ⟨tied, free⟩ := lexBy_iff.mp within
  · exact (pin_active_lt_iff firstMember secondMember firstOther secondOther).mp before
  · -- The first is not pinned, so the second at the same pin is not pinned either.
    have unpinned := Option.isNone_iff_eq_none.mp (Bool.and_eq_true_iff.mp free).1
    have stillPinned : ((onTop.active policy.table.otherRank items).index second.node).isSome :=
      Option.isSome_iff_ne_none.mpr
        ((index_active_eq_none_iff secondMember secondOther).not.mpr
          (Option.isSome_iff_ne_none.mp pinned))
    have placed := pin_lt_length_iff.mpr stillPinned
    rw [← tied, pin_lt_length_iff, unpinned] at placed
    cases placed

/-- A list in which every attribute may follow those in front of it for ranks and qualifiers alone
is arranged. -/
theorem Arranged.of_pairwise {whole : List Ranked} (members : ∀ item ∈ items, item ∈ whole)
    (ordered : items.Pairwise fun left right =>
      policy.loosened.mayFollow whole left right = true) : policy.Arranged items := by
  have pinned : ∀ onTop, policy.onTop = some onTop →
      (items.filter fun item => some item.rank == policy.table.otherRank).Pairwise
        fun left right => (onTop.index right.node).isSome = true →
          pin onTop left.node < pin onTop right.node := by
    intro onTop pins
    refine (ordered.filter _).imp_of_mem fun {left right} leftMember rightMember follows => ?_
    obtain ⟨leftIn, leftOther⟩ := List.mem_filter.mp leftMember
    obtain ⟨rightIn, rightOther⟩ := List.mem_filter.mp rightMember
    exact pin_lt_of_loosened (members left leftIn) (members right rightIn)
      (beq_iff_eq.mp leftOther) (beq_iff_eq.mp rightOther) pins follows
  refine ⟨ordered.imp fun {left right} follows => ?_, fun onTop pins => ?_, fun onTop pins => ?_⟩
  · rw [mayFollow_eq, lexBy_iff] at follows
    exact follows.elim Nat.le_of_lt fun tied => Nat.le_of_eq tied.1
  · refine (pinned onTop pins).imp fun {left right} before named => ?_
    exact pin_lt_length_iff.mp (Nat.lt_trans (before named) (pin_lt_length_iff.mpr named))
  · refine (pinned onTop pins).imp fun {left right} ahead before after leftFound rightFound => ?_
    have named : (onTop.index right.node).isSome = true := by rw [rightFound]; rfl
    have ordered := ahead named
    rwa [pin_of_index leftFound, pin_of_index rightFound] at ordered

/-- What a check does not report is arranged, whichever attributes are reported. -/
theorem arranged_unreported (policy : Policy) (attributes : List Attribute) :
    policy.Arranged (policy.unreported attributes) := by
  let items := ranked policy.table attributes
  have accepted : policy.unreported attributes =
      items.destutter fun left right => policy.mayFollow items left right = true :=
    filter_scan (nodup_ranked policy.table attributes)
  have chain : (policy.unreported attributes).IsChain fun left right =>
      policy.loosened.mayFollow items left right = true := by
    rw [accepted]
    exact (List.isChain_destutter _ items).imp fun _ _ => mayFollow_loosened
  have transitive : Trans (fun left right => policy.loosened.mayFollow items left right = true)
      (fun left right => policy.loosened.mayFollow items left right = true)
      fun left right => policy.loosened.mayFollow items left right = true := ⟨loosened_trans⟩
  exact .of_pairwise (fun item member => (List.mem_filter.mp member).1) chain.pairwise

theorem unreported_eq_ranked {attributes : List Attribute}
    (clean : policy.inversions attributes = []) :
    policy.unreported attributes = ranked policy.table attributes := by
  rw [unreported, clean]
  exact List.filter_eq_self.mpr fun _ _ => rfl

end Policy

/-- Under any policy the attributes that are not reported have ascending ranks, and those on top
come first and in their declared order. Where a check reports nothing, this holds of all ranked
attributes of the tag. -/
theorem unreported_arranged :
    (∀ (policy : Policy) (attributes : List Attribute),
      policy.Arranged (policy.unreported attributes)) ∧
    ∀ (rule : Rule) (tag : Tag), rule.check tag = .ok [] →
      rule.options.policy.Arranged (ranked rule.options.policy.table tag.attributes) := by
  refine ⟨Policy.arranged_unreported, fun rule tag checked => ?_⟩
  rw [← Policy.unreported_eq_ranked (Rule.check_eq_nil_iff.mp checked)]
  exact Policy.arranged_unreported _ _

/-- Names go by the alphabet, and a bind and a plain attribute come on top. -/
def onTopRule : Rule where
  options :=
    { alphabetical := true
      onTop := some ([":b", "missing", "a"].map Qualifier.ofString) }

/-- A tag with the two on top, and a computed key between two names that are not in order. -/
def computedTag : Tag where
  name := "p"
  attributes :=
    [{ directive := true, name := "bind", argument := some "b", keyText := ":b".toList },
      { name := "a", keyText := "a".toList },
      { name := "zeta", keyText := "zeta".toList },
      { directive := true, name := "bind", argument := some "key", dynamic := true
        keyText := ":[key]".toList },
      { name := "alpha", keyText := "alpha".toList }]

/-- Nothing is reported of the tag although its names are not in order across the computed key; the
ranks and those on top are. -/
theorem unreported_arranged_computedTag :
    let items := ranked onTopRule.options.policy.table computedTag.attributes
    onTopRule.check computedTag = .ok [] ∧
      ¬ items.Pairwise (fun left right =>
        onTopRule.options.policy.mayFollow items left right = true) ∧
      onTopRule.options.policy.Arranged items := by
  have checked : onTopRule.check computedTag = .ok [] := eq_ok_of_toOption (by decide +kernel)
  exact ⟨checked, by decide +kernel, unreported_arranged.2 onTopRule computedTag checked⟩

end TagOrder
