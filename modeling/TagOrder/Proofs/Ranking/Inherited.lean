import TagOrder.Proofs.Spread

/-!
# Own and inherited ranks

The rule by which attributes are ranked, told on the attributes as they stand (`RanksAt`): whatever
is no spread bind has the rank of its category, and a spread bind without a neighbour that sets a
value has the rank of the first attribute behind it that sets a named property. Ranking leaves out
the coupled spread binds first and looks ahead in what remains, where places have shifted. It comes
to the same, since a spread bind sets no named property (`ranked_eq_filterMap`, `ranked_declared`).
-/

namespace TagOrder

/-- A plain attribute, or a bind with an argument: what sets a property that is named. -/
def Attribute.SetsNamed (node : Attribute) : Prop :=
  node.directive = false ∨ node.isBind = true ∧ node.argument ≠ none

/-- The first attribute behind a place that sets a named property. -/
structure FirstNamed (attributes : List Attribute) (place : Nat) (next : Attribute) : Prop where
  named : next.SetsNamed
  first : ∃ there, place < there ∧ attributes[there]? = some next ∧
    ∀ between node, place < between → between < there → attributes[between]? = some node →
      ¬ node.SetsNamed

/-- The ranks of the attribute at a place: its own one, or for a spread bind an inherited one. -/
inductive RanksAt (table : RankTable) (attributes : List Attribute) (place : Nat)
    (node : Attribute) (rank : Nat) : Prop where
  | own (plain : node.isSpread = false) (given : table.rank (Category.of node) = some rank)
  | inherited {next} (spread : node.isSpread = true)
      (apart : ∀ neighbour, Beside attributes place neighbour → neighbour.setsValue = false)
      (first : FirstNamed attributes place next) (given : table.rank (Category.of next) = some rank)

section Rule

variable {table : RankTable} {attributes : List Attribute} {place : Nat} {node next : Attribute}

theorem setsNamed_iff : node.SetsNamed ↔ (node.setsValue && !node.isSpread) = true := by
  unfold Attribute.SetsNamed Attribute.setsValue Attribute.isSpread Attribute.isBind
  cases node.directive <;> cases node.name == "bind" <;> cases node.argument <;> simp

theorem find?_drop_eq_some_iff :
    ((attributes.drop (place + 1)).find? fun next => next.setsValue && !next.isSpread) =
      some next ↔ FirstNamed attributes place next := by
  rw [List.find?_eq_some_iff_getElem]
  constructor
  · rintro ⟨named, ahead, inside, rfl, skipped⟩
    refine ⟨setsNamed_iff.mpr named, place + 1 + ahead, by omega, ?_, ?_⟩
    · rw [← List.getElem?_drop, List.getElem?_eq_getElem inside]
    · intro between node after before stands naming
      have spot : (attributes.drop (place + 1))[between - (place + 1)]? = some node := by
        rw [List.getElem?_drop, Nat.add_sub_cancel' after, stands]
      obtain ⟨bound, here⟩ := List.getElem?_eq_some_iff.mp spot
      have passed := skipped (between - (place + 1)) (by omega)
      rw [here, setsNamed_iff.mp naming] at passed
      cases passed
  · rintro ⟨named, there, behind, stands, unnamed⟩
    have spot : (attributes.drop (place + 1))[there - (place + 1)]? = some next := by
      rw [List.getElem?_drop, Nat.add_sub_cancel' behind, stands]
    obtain ⟨inside, here⟩ := List.getElem?_eq_some_iff.mp spot
    refine ⟨setsNamed_iff.mp named, there - (place + 1), inside, here, fun ahead before => ?_⟩
    rw [Bool.not_eq_true', Bool.eq_false_iff]
    intro naming
    refine unnamed (place + 1 + ahead) _ (by omega) (by omega) ?_ (setsNamed_iff.mpr naming)
    rw [← List.getElem?_drop, List.getElem?_eq_getElem]

/-- The ranks at a place are what looking ahead in the whole list finds there. -/
theorem ranksAt_iff (stands : attributes[place]? = some node) {rank : Nat} :
    RanksAt table attributes place node rank ↔
      isCoupled attributes place = false ∧
        table.rankFacing node (attributes.drop (place + 1)) = some rank := by
  cases spread : node.isSpread with
  | false =>
    rw [isCoupled_of_not_isSpread stands spread, rankFacing_of_not_isSpread table spread,
      eq_self, true_and]
    constructor
    · rintro (⟨-, given⟩ | ⟨other, -⟩)
      · exact given
      · exact absurd (spread.symm.trans other) Bool.false_ne_true
    · exact .own spread
  | true =>
    rw [isCoupled_eq_false_iff stands spread, RankTable.rankFacing, if_pos spread,
      Option.bind_eq_some_iff]
    constructor
    · rintro (⟨other, -⟩ | ⟨-, apart, first, given⟩)
      · exact absurd (other.symm.trans spread) Bool.false_ne_true
      · exact ⟨apart, _, find?_drop_eq_some_iff.mpr first, given⟩
    · rintro ⟨apart, next, found, given⟩
      exact .inherited spread apart (find?_drop_eq_some_iff.mp found) given

end Rule

/-- The ranked attributes are those that the rule gives a rank, with that rank, each once and in
source order. They are the same when the look-ahead is made in the whole list, so leaving out the
coupled spread binds before it changes no inherited rank. -/
theorem ranked_declared (table : RankTable) (attributes : List Attribute) :
    (∀ item : Ranked, item ∈ ranked table attributes ↔
      attributes[item.place]? = some item.node ∧
        RanksAt table attributes item.place item.node item.rank) ∧
    ((ranked table attributes).Pairwise fun left right => left.place < right.place) ∧
    ranked table attributes =
      (enumerate 0 attributes).filterMap (table.rankWithin attributes) :=
  ⟨fun _ => mem_ranked_iff.trans (and_congr_right fun stands => (ranksAt_iff stands).symm),
    pairwise_place_ranked table attributes, ranked_eq_filterMap table attributes⟩

/-- A spread bind in front of a directive has the rank of the plain attribute behind that. -/
example :
    (ranked Order.standard.table
      [{ directive := true, name := "bind", keyText := "v-bind".toList },
        { directive := true, name := "if", keyText := "v-if".toList },
        { name := "id", keyText := "id".toList }]).map (fun item => (item.place, item.rank)) =
      [(0, 4), (1, 2), (2, 4)] := by
  decide +kernel

end TagOrder
