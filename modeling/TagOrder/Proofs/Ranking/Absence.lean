import TagOrder.Proofs.Ranking.Inherited

/-!
# Attributes without a rank

An attribute whose category is absent from the order is not ranked. It can still matter to a spread
bind: as a neighbour to which that is coupled, or as the first attribute behind it that sets a named
property, from which it takes no rank then (`Lends`). Where it is neither, the ranked attributes are
the same without it, with the same ranks (`map_anywhere_ranked_append`), and so is what a check
finds misplaced (`inversions_without_absent`).
-/

namespace TagOrder

/-- A ranked attribute apart from its place. -/
def Ranked.anywhere (item : Ranked) : Ranked := { item with place := 0 }

/-- The attribute of an inversion, and the one that it should go before. -/
def Inversion.nodes (inversion : Inversion) : Attribute × Attribute :=
  (inversion.node.node, inversion.previous.node)

/-- The attribute at a place is the one from which an uncoupled spread bind takes its rank: the
first one behind it that sets a named property. -/
structure Lends (attributes : List Attribute) (place spread : Nat) : Prop where
  bound : ∃ node, attributes[spread]? = some node ∧ node.isSpread = true
  uncoupled : isCoupled attributes spread = false
  behind : spread < place
  named : ∃ node, attributes[place]? = some node ∧ node.SetsNamed
  first : ∀ between node, spread < between → between < place →
    attributes[between]? = some node → ¬ node.SetsNamed

theorem Order.rankFrom_eq_none_iff {order : Order} {place : Nat} {category : Category} :
    order.rankFrom place category = none ↔ ∀ entry ∈ order, category ∉ entry.categories := by
  induction order generalizing place with
  | nil => simp [rankFrom]
  | cons entry rest ih =>
    rw [rankFrom, List.forall_mem_cons, ← @ih (place + 1)]
    cases rankFrom (place + 1) rest category with
    | none => simp
    | some rank => simp

/-- A category has no rank exactly when no entry of the order names it. -/
theorem Order.rank_eq_none_iff {order : Order} {category : Category} :
    order.rank category = none ↔ ∀ entry ∈ order, category ∉ entry.categories :=
  rankFrom_eq_none_iff

theorem enumerate_append (place : Nat) (front back : List Attribute) :
    enumerate place (front ++ back) =
      enumerate place front ++ enumerate (place + front.length) back := by
  rw [enumerate, List.zipIdx_append, List.map_append]
  rfl

theorem enumerate_succ (place : Nat) (attributes : List Attribute) :
    enumerate (place + 1) attributes =
      (enumerate place attributes).map fun entry => (entry.1 + 1, entry.2) := by
  induction attributes generalizing place with
  | nil => rfl
  | cons node rest ih => rw [enumerate_cons, enumerate_cons, ih, List.map_cons]

/-- An entry of an enumeration tells what stands in front of it and behind. -/
theorem exists_append_of_mem_enumerate {start place : Nat} {attributes : List Attribute}
    {node : Attribute} (listed : (place, node) ∈ enumerate start attributes) :
    ∃ lead rest, attributes = lead ++ node :: rest ∧ place = start + lead.length := by
  obtain ⟨before, after, whole⟩ := List.append_of_mem listed
  have nodes := congrArg (List.map Prod.snd) whole
  rw [map_snd_enumerate, List.map_append, List.map_cons] at nodes
  refine ⟨_, _, nodes, ?_⟩
  rw [List.length_map]
  exact fst_of_enumerate_eq whole

section Absent

variable {table : RankTable} {front back : List Attribute} {node : Attribute}

/-- The rank that an attribute has between others, apart from its place. -/
theorem rankWithin_append (table : RankTable) (lead : List Attribute) (node : Attribute)
    (rest : List Attribute) :
    (table.rankWithin (lead ++ node :: rest) (lead.length, node)).map Ranked.anywhere =
      if coupledBetween lead.getLast? node rest.head? then none
      else (table.rankFacing node rest).map fun rank => ⟨0, node, rank⟩ := by
  have behind : (lead ++ node :: rest).drop (lead.length + 1) = rest := by simp
  unfold RankTable.rankWithin
  dsimp only
  rw [isCoupled_append_cons, behind]
  split
  · rfl
  · rw [Option.map_map]
    rfl

/-- An attribute matters to the ranks in front only where it is the first that sets a named
property. -/
theorem rankFacing_append_cons {earlier : Attribute} {rest : List Attribute}
    (shadowed : node.SetsNamed → ¬ ∀ other ∈ rest, ¬ other.SetsNamed) :
    table.rankFacing earlier (rest ++ node :: back) = table.rankFacing earlier (rest ++ back) := by
  unfold RankTable.rankFacing
  rw [List.find?_append, List.find?_append]
  cases found : rest.find? fun next => next.setsValue && !next.isSpread with
  | some next => rfl
  | none =>
    have unnamed : ¬ (node.setsValue && !node.isSpread) = true := by
      rw [← setsNamed_iff]
      refine fun named => shadowed named fun other member naming => ?_
      exact List.find?_eq_none.mp found other member (setsNamed_iff.mp naming)
    rw [List.find?_cons, Bool.eq_false_iff.mpr unnamed]

/-- What stands in front of an attribute has the same rank without it, unless that lends it one. -/
theorem rankWithin_front
    (apart : ∀ neighbour, Beside (front ++ node :: back) front.length neighbour →
      neighbour.isSpread = false)
    (unlent : ∀ spread, ¬ Lends (front ++ node :: back) front.length spread)
    {lead rest : List Attribute} {earlier : Attribute} (split : front = lead ++ earlier :: rest) :
    (table.rankWithin (front ++ node :: back) (lead.length, earlier)).map Ranked.anywhere =
      (table.rankWithin (front ++ back) (lead.length, earlier)).map Ranked.anywhere := by
  subst split
  rw [List.append_assoc, List.append_assoc, List.cons_append, List.cons_append, rankWithin_append,
    rankWithin_append]
  cases spread : earlier.isSpread with
  | false =>
    simp only [coupledBetween, spread, Bool.false_and, rankFacing_of_not_isSpread table spread]
  | true =>
    cases rest with
    | nil =>
      have plain := apart earlier (.inl ⟨lead.length, by simp, by simp⟩)
      rw [spread] at plain
      cases plain
    | cons second others =>
      rw [List.cons_append, List.cons_append, List.head?_cons, List.head?_cons]
      split
      · rfl
      · rename_i uncoupled
        rw [← List.cons_append, ← List.cons_append, rankFacing_append_cons fun named nothing => ?_]
        refine unlent lead.length ⟨⟨earlier, by simp, spread⟩, ?_, by simp, ⟨node, by simp, named⟩,
          fun between other after before stands naming => ?_⟩
        · rw [List.append_assoc, List.cons_append, isCoupled_append_cons]
          exact Bool.eq_false_iff.mpr uncoupled
        · refine nothing other ?_ naming
          obtain ⟨ahead, rfl⟩ := Nat.exists_eq_add_of_lt after
          rw [List.append_assoc, Nat.add_assoc, List.getElem?_append_right (by omega),
            Nat.add_sub_cancel_left, List.cons_append, List.getElem?_cons_succ,
            List.getElem?_append_left (by simp at before ⊢; omega)] at stands
          exact List.mem_of_getElem? stands

/-- What stands behind an attribute has the same rank without it. -/
theorem rankWithin_back
    (apart : ∀ neighbour, Beside (front ++ node :: back) front.length neighbour →
      neighbour.isSpread = false)
    {lead rest : List Attribute} {later : Attribute} (split : back = lead ++ later :: rest) :
    (table.rankWithin (front ++ node :: back) (front.length + lead.length + 1, later)).map
        Ranked.anywhere =
      (table.rankWithin (front ++ back) (front.length + lead.length, later)).map
        Ranked.anywhere := by
  subst split
  have whole : front ++ node :: (lead ++ later :: rest) =
      (front ++ node :: lead) ++ later :: rest := by simp
  have place : front.length + lead.length + 1 = (front ++ node :: lead).length := by
    rw [List.length_append, List.length_cons]
    omega
  rw [whole, place, ← List.append_assoc, ← List.length_append, rankWithin_append,
    rankWithin_append]
  cases lead with
  | nil =>
    have plain : later.isSpread = false := apart later (.inr (by simp))
    simp only [coupledBetween, plain, Bool.false_and]
  | cons second others =>
    have last : (front ++ node :: second :: others).getLast? =
        (front ++ second :: others).getLast? := by simp
    rw [last]

/-- The ranked attributes are the same, with the same ranks, without one that has no rank, stands
beside no spread bind and lends no rank to one. -/
theorem map_anywhere_ranked_append (plain : node.isSpread = false)
    (rankless : table.rank (Category.of node) = none)
    (apart : ∀ neighbour, Beside (front ++ node :: back) front.length neighbour →
      neighbour.isSpread = false)
    (unlent : ∀ spread, ¬ Lends (front ++ node :: back) front.length spread) :
    (ranked table (front ++ node :: back)).map Ranked.anywhere =
      (ranked table (front ++ back)).map Ranked.anywhere := by
  have here : (table.rankWithin (front ++ node :: back) (front.length, node)).map
      Ranked.anywhere = none := by
    rw [rankWithin_append, rankFacing_of_not_isSpread table plain, rankless, Option.map_none,
      ite_self]
  rw [ranked_eq_filterMap, ranked_eq_filterMap, List.map_filterMap, List.map_filterMap,
    enumerate_append, enumerate_append, List.filterMap_append, List.filterMap_append,
    enumerate_cons, List.filterMap_cons_none (by rw [Nat.zero_add, here]), enumerate_succ,
    List.filterMap_map]
  congr 1
  · refine List.filterMap_congr fun ⟨place, earlier⟩ listed => ?_
    obtain ⟨lead, rest, split, rfl⟩ := exists_append_of_mem_enumerate listed
    rw [Nat.zero_add]
    exact rankWithin_front apart unlent split
  · refine List.filterMap_congr fun ⟨place, later⟩ listed => ?_
    obtain ⟨lead, rest, split, rfl⟩ := exists_append_of_mem_enumerate listed
    rw [Nat.zero_add]
    exact rankWithin_back apart split

end Absent

section Inversions

/-- The nodes of inversions do not depend on the places of the ranked attributes. -/
theorem Policy.map_nodes_scan (policy : Policy) (items : List Ranked) :
    (scan (policy.mayFollow (items.map Ranked.anywhere)) (items.map Ranked.anywhere)).map
        Inversion.nodes =
      (scan (policy.mayFollow items) items).map Inversion.nodes := by
  have follows : ∀ left right : Ranked,
      policy.mayFollow (items.map Ranked.anywhere) left.anywhere right.anywhere =
        policy.mayFollow items left right := by
    intro left right
    rw [← policy.mayFollow_map_bare, List.map_map, ← policy.mayFollow_map_bare items]
    rfl
  cases items with
  | nil => rfl
  | cons first rest =>
    rw [List.map_cons] at follows ⊢
    rw [scan, scan, scanFrom_map follows, List.map_map]
    rfl

/-- Attributes that are ranked alike apart from their places have the same inversions. -/
theorem Policy.map_nodes_inversions_congr (policy : Policy) {attributes others : List Attribute}
    (alike : (ranked policy.table attributes).map Ranked.anywhere =
      (ranked policy.table others).map Ranked.anywhere) :
    (policy.inversions attributes).map Inversion.nodes =
      (policy.inversions others).map Inversion.nodes := by
  unfold Policy.inversions
  dsimp only
  rw [← policy.map_nodes_scan, alike, policy.map_nodes_scan]

/-- Without spread binds the ranked attributes are those whose categories have a rank. -/
theorem map_anywhere_ranked_of_spreadless (table : RankTable) {attributes : List Attribute}
    (spreadless : Spreadless attributes) :
    (ranked table attributes).map Ranked.anywhere = standing table attributes := by
  have here : ∀ entry : Nat × Attribute,
      (table.rankAt entry).map Ranked.anywhere = table.rankAt (0, entry.2) := by
    intro entry
    unfold RankTable.rankAt
    rw [Option.map_map]
    rfl
  rw [ranked_of_spreadless table spreadless, List.map_filterMap, standing]
  conv => rhs; rw [← map_snd_enumerate 0 attributes, List.filterMap_map]
  exact List.filterMap_congr fun entry _ => here entry

/-- Attributes whose categories have no rank are not among the standing ones. -/
theorem standing_filter (order : Order) (attributes : List Attribute) :
    standing order.table
        (attributes.filter fun node => ∃ entry ∈ order, Category.of node ∈ entry.categories) =
      standing order.table attributes := by
  rw [standing, List.filterMap_filter, standing]
  refine List.filterMap_congr fun node _ => ?_
  split
  · rfl
  · rename_i unnamed
    have rankless : order.rank (Category.of node) = none := by
      rw [Order.rank_eq_none_iff]
      intro entry listed names
      exact unnamed (decide_eq_true ⟨entry, listed, names⟩)
    change none = (order.rank (Category.of node)).map _
    rw [rankless]
    rfl

end Inversions

/-- An attribute whose category is absent from the order can be left out: where it is no spread
bind, stands beside none and lends none its rank, a check finds the same attributes misplaced, in
front of the same ones, without it. In a tag without spread binds all such attributes can be left
out at once. -/
theorem inversions_without_absent (options : Options) :
    (∀ attributes place node, attributes[place]? = some node → node.isSpread = false →
      (∀ entry ∈ options.order, Category.of node ∉ entry.categories) →
      (∀ neighbour, Beside attributes place neighbour → neighbour.isSpread = false) →
      (∀ spread, ¬ Lends attributes place spread) →
        (options.policy.inversions (attributes.eraseIdx place)).map Inversion.nodes =
          (options.policy.inversions attributes).map Inversion.nodes) ∧
    ∀ attributes, Spreadless attributes →
      (options.policy.inversions (attributes.filter fun node =>
          ∃ entry ∈ options.order, Category.of node ∈ entry.categories)).map Inversion.nodes =
        (options.policy.inversions attributes).map Inversion.nodes := by
  refine ⟨fun attributes place node stands plain absent apart unlent => ?_,
    fun attributes spreadless => ?_⟩
  · obtain ⟨front, back, rfl, same⟩ :=
      exists_append_of_mem_enumerate (mem_enumerate_zero.mpr stands)
    obtain rfl : place = front.length := by omega
    have fewer : (front ++ node :: back).eraseIdx front.length = front ++ back := by
      rw [List.eraseIdx_append_of_length_le (Nat.le_refl _), Nat.sub_self, List.eraseIdx_cons_zero]
    rw [fewer]
    exact options.policy.map_nodes_inversions_congr
      (map_anywhere_ranked_append plain (Order.rank_eq_none_iff.mpr absent) apart unlent).symm
  · have fewer : Spreadless (attributes.filter fun node =>
        ∃ entry ∈ options.order, Category.of node ∈ entry.categories) :=
      fun node member => spreadless node (List.mem_filter.mp member).1
    refine options.policy.map_nodes_inversions_congr ?_
    rw [map_anywhere_ranked_of_spreadless _ fewer, map_anywhere_ranked_of_spreadless _ spreadless]
    exact standing_filter options.order attributes

/-- Two categories alone have a rank. -/
def sparseOptions : Options where
  order := [.one .conditionals, .one .otherAttr]

def directiveNode (name : String) : Attribute where
  directive := true
  name := name
  keyText := ("v-" ++ name).toList

def plainNode (name : String) : Attribute where
  name := name
  keyText := name.toList

/-- A spread bind that takes its rank from the class, and an id without a rank behind that. -/
def lentSample : List Attribute :=
  [directiveNode "bind", directiveNode "if", plainNode "class", plainNode "id",
    directiveNode "show"]

/-- Attributes without a rank in a tag without spread binds. -/
def bareSample : List Attribute :=
  [plainNode "ref", plainNode "class", plainNode "id", directiveNode "if"]

/-- The id is left out of a tag in which the spread bind is ranked; and all that has no rank is left
out of the other tag. -/
theorem inversions_without_absent_lentSample :
    let inversions := sparseOptions.policy.inversions
    let fewer := [directiveNode "bind", directiveNode "if", plainNode "class", directiveNode "show"]
    (inversions fewer).map Inversion.nodes = (inversions lentSample).map Inversion.nodes ∧
      (inversions lentSample).map Inversion.nodes =
        [(directiveNode "if", directiveNode "bind"), (directiveNode "show", plainNode "class")] ∧
      (inversions [plainNode "class", directiveNode "if"]).map Inversion.nodes =
        (inversions bareSample).map Inversion.nodes := by
  intro inversions fewer
  obtain ⟨single, together⟩ := inversions_without_absent sparseOptions
  refine ⟨single lentSample 3 (plainNode "id") rfl rfl (by decide) ?_ ?_, by decide +kernel, ?_⟩
  · rintro neighbour (⟨earlier, here, stands⟩ | stands)
    · obtain rfl : earlier = 2 := by omega
      obtain rfl := Option.some.inj stands
      rfl
    · obtain rfl := Option.some.inj stands
      rfl
  · rintro spread ⟨⟨node, stands, bound⟩, -, behind, -, first⟩
    -- The class stands between every spread bind and the id.
    have early : spread < 2 := by
      refine Nat.lt_of_le_of_ne (Nat.le_of_lt_succ behind) ?_
      rintro rfl
      obtain rfl := Option.some.inj stands
      cases bound
    exact first 2 (plainNode "class") early (by decide) rfl (.inl rfl)
  · exact together bareSample (by decide)

end TagOrder
