import Mathlib.Data.List.Nodup
import Mathlib.Data.Option.Basic
import TagOrder.Options
import TagOrder.Proofs.Answer

/-!
# Reading an order

Which values make an order is told of their names alone (`Options.IsOrder`): no entry is empty,
every name calls a category, and no two names call the same one, whatever their spellings.
`Options.isOrder_iff` says that these and no others are read. The table of an order that is
read ranks each category by the place of the entry that names it
(`Options.rank_eq_some_iff_namesAt`), from which `Options.ranksAs_of_readOrder` tells how any two
ranks compare.
-/

namespace TagOrder

namespace Options

/-- The category that a value calls by its name. -/
def categoryOf? : Value -> Option Category
  | .text name => Category.ofName? name
  | _ => none

/-- The names in an entry of an order: its members when it is a list, or the entry itself. -/
def namesIn : Value -> List Value
  | .list members => members
  | name => [name]

/-- Whether an entry of an order names a category. -/
def Names (entry : Value) (category : Category) : Prop :=
  ∃ name ∈ namesIn entry, categoryOf? name = some category

/-- Whether the entry at a place of an order names a category. -/
def NamesAt (entries : List Value) (place : Nat) (category : Category) : Prop :=
  ∃ entry, entries[place]? = some entry ∧ Names entry category

/-- The entries of an order as they may be set. -/
structure IsOrder (entries : List Value) : Prop where
  filled : ∀ entry ∈ entries, namesIn entry ≠ []
  known : ∀ entry ∈ entries, ∀ name ∈ namesIn entry, ∃ category, categoryOf? name = some category
  once : (entries.flatMap namesIn).Pairwise fun first second =>
    categoryOf? first ≠ categoryOf? second

/-- A table that ranks what an order names, by where it names it. -/
structure RanksAs (table : RankTable) (entries : List Value) : Prop where
  ranked : ∀ category, (table.rank category).isSome ↔ ∃ place, NamesAt entries place category
  together : ∀ first second before after, table.rank first = some before →
    table.rank second = some after →
      (before = after ↔ ∃ place, NamesAt entries place first ∧ NamesAt entries place second)
  ascending : ∀ first second before after, table.rank first = some before →
    table.rank second = some after →
      (before < after ↔ ∃ place later, place < later ∧ NamesAt entries place first ∧
        NamesAt entries later second)

/-- The entry of an order that a value lists. -/
inductive ListsEntry : Value -> OrderEntry -> Prop where
  | one {name category} (named : categoryOf? name = some category) :
      ListsEntry name (.one category)
  | group {members categories} (filled : members ≠ [])
      (named : List.Forall₂ (fun name category => categoryOf? name = some category) members
        categories) :
      ListsEntry (.list members) (.group categories)

/-- Categories of which none is among those seen and none comes twice. -/
def Fresh (seen categories : List Category) : Prop :=
  categories.Nodup ∧ ∀ category ∈ categories, category ∉ seen

/-- Names that call categories, one each. -/
theorem forall₂_categoryOf?_iff {names : List Value} {categories : List Category} :
    List.Forall₂ (fun name category => categoryOf? name = some category) names categories ↔
      names.map categoryOf? = categories.map some := by
  rw [← List.forall₂_eq_eq_eq, List.forall₂_map_left_iff, List.forall₂_map_right_iff]

section Entries

variable {value : Value} {entry : OrderEntry} {category : Category}

/-- What calls a category is no list, so it is the one name in itself. -/
theorem namesIn_of_categoryOf? (named : categoryOf? value = some category) :
    namesIn value = [value] := by
  cases value with
  | list members => cases named
  | _ => rfl

/-- The names in a value call the categories of the entry that it lists, in order. -/
theorem ListsEntry.forall₂ (lists : ListsEntry value entry) :
    List.Forall₂ (fun name category => categoryOf? name = some category) (namesIn value)
      entry.categories := by
  cases lists with
  | one named =>
    rw [namesIn_of_categoryOf? named]
    exact .cons named .nil
  | group filled named => exact named

/-- A value names the categories of the entry that it lists. -/
theorem ListsEntry.names_iff (lists : ListsEntry value entry) :
    Names value category ↔ category ∈ entry.categories := by
  have called := forall₂_categoryOf?_iff.mp lists.forall₂
  rw [Names, ← List.mem_map, called, List.mem_map_of_injective (Option.some_injective _)]

/-- A value lists an entry when there are names in it and each calls a category. -/
theorem exists_listsEntry_iff :
    (∃ entry, ListsEntry value entry) ↔
      namesIn value ≠ [] ∧
        ∀ name ∈ namesIn value, ∃ category, categoryOf? name = some category := by
  constructor
  · rintro ⟨entry, lists⟩
    refine ⟨?_, exists_forall₂_iff.mp ⟨_, lists.forall₂⟩⟩
    cases lists with
    | one named =>
      rw [namesIn_of_categoryOf? named]
      exact List.cons_ne_nil _ _
    | group filled named => exact filled
  · rintro ⟨filled, known⟩
    cases value with
    | list members =>
      obtain ⟨categories, named⟩ := exists_forall₂_iff.mpr known
      exact ⟨.group categories, .group filled named⟩
    | _ =>
      obtain ⟨category, named⟩ := known _ List.mem_cons_self
      exact ⟨.one category, .one named⟩

end Entries

section Readers

variable {levels : Nat} {seen categories : List Category} {value : Value} {values : List Value}

/-- Categories come fresh one after another. -/
theorem fresh_append {others : List Category} :
    Fresh seen (categories ++ others) ↔
      Fresh seen categories ∧ Fresh (categories ++ seen) others := by
  unfold Fresh
  simp only [List.nodup_append', List.mem_append, not_or, List.disjoint_right]
  grind

theorem fresh_singleton {category : Category} : Fresh seen [category] ↔ category ∉ seen := by
  simp [Fresh]

/-- A reader of lists that reads them item by item, each with the categories in mind that were
named before it. -/
structure ReadsEach {α : Type} (read : List Category -> Value -> Except OptionsError α)
    (named : α -> List Category)
    (readAll : List Category -> List Value -> Except OptionsError (List α)) : Prop where
  nil : ∀ seen, readAll seen [] = .ok []
  cons : ∀ seen value rest, readAll seen (value :: rest) = do
    let first ← read seen value
    let others ← readAll (named first ++ seen) rest
    return first :: others

section Each

variable {α : Type} {read : List Category -> Value -> Except OptionsError α}
  {named : α -> List Category}
  {readAll : List Category -> List Value -> Except OptionsError (List α)}

/-- Items that name fresh categories each name fresh categories together. -/
theorem ReadsEach.eq_ok_iff (each : ReadsEach read named readAll) {lists : Value -> α -> Prop}
    (item : ∀ {seen value result},
      read seen value = .ok result ↔ lists value result ∧ Fresh seen (named result))
    {results : List α} :
    readAll seen values = .ok results ↔
      List.Forall₂ lists values results ∧ Fresh seen (results.flatMap named) := by
  induction values generalizing seen results with
  | nil =>
    simp only [each.nil, Except.ok.injEq, List.forall₂_nil_left_iff]
    constructor
    · rintro rfl
      exact ⟨rfl, List.nodup_nil, nofun⟩
    · rintro ⟨rfl, -⟩
      rfl
  | cons value rest ih =>
    simp only [each.cons, bind_eq_ok_iff, item, ih, List.forall₂_cons_left_iff]
    constructor
    · rintro ⟨first, ⟨here, new⟩, others, ⟨later, fresh⟩, same⟩
      obtain rfl := Except.ok.inj same
      exact ⟨⟨first, others, here, later, rfl⟩, fresh_append.mpr ⟨new, fresh⟩⟩
    · rintro ⟨⟨first, others, here, later, rfl⟩, fresh⟩
      obtain ⟨new, fresh⟩ := fresh_append.mp fresh
      exact ⟨first, ⟨here, new⟩, others, ⟨later, fresh⟩, rfl⟩

/-- A list is refused for one of its items. -/
theorem ReadsEach.exists_of_eq_error (each : ReadsEach read named readAll) {error : OptionsError}
    (refused : readAll seen values = .error error) :
    ∃ value ∈ values, ∃ seen, read seen value = .error error := by
  induction values generalizing seen with
  | nil =>
    rw [each.nil] at refused
    cases refused
  | cons value rest ih =>
    rw [each.cons, bind_eq_error_iff] at refused
    obtain here | ⟨first, -, refused⟩ := refused
    · exact ⟨value, List.mem_cons_self, seen, here⟩
    · obtain later | ⟨others, -, done⟩ := bind_eq_error_iff.mp refused
      · obtain ⟨bad, member, faulty⟩ := ih later
        exact ⟨bad, List.mem_cons_of_mem value member, faulty⟩
      · cases done

end Each

theorem readCategory_eq_ok_iff {category : Category} :
    readCategory levels seen value = .ok category ↔
      categoryOf? value = some category ∧ Fresh seen [category] := by
  rw [fresh_singleton]
  unfold readCategory categoryOf?
  cases value with
  | text name =>
    dsimp only
    cases Category.ofName? name with
    | none => simp
    | some called =>
      by_cases known : called ∈ seen
      · simp only [if_pos known, Option.some.injEq]
        grind
      · simp only [if_neg known, Except.ok.injEq, Option.some.injEq]
        grind
  | _ => simp

theorem readsEach_categories (levels : Nat) :
    ReadsEach (readCategory levels) (fun category => [category]) (readCategories levels) :=
  ⟨fun _ => rfl, fun _ _ _ => rfl⟩

/-- The categories that are read are the ones that are called, each fresh. -/
theorem readCategories_eq_ok_iff :
    readCategories levels seen values = .ok categories ↔
      List.Forall₂ (fun name category => categoryOf? name = some category) values categories ∧
        Fresh seen categories := by
  rw [(readsEach_categories levels).eq_ok_iff readCategory_eq_ok_iff, List.flatMap_singleton']

/-- The entry that is read is the one that is listed, with fresh categories. -/
theorem readEntry_eq_ok_iff {entry : OrderEntry} :
    readEntry levels seen value = .ok entry ↔
      ListsEntry value entry ∧ Fresh seen entry.categories := by
  unfold readEntry
  split
  · constructor
    · nofun
    · rintro ⟨lists, -⟩
      cases lists with
      | one named => cases named
      | group filled named => exact absurd rfl filled
  · rename_i members filled
    simp only [map_eq_ok_iff, readCategories_eq_ok_iff]
    constructor
    · rintro ⟨categories, ⟨named, fresh⟩, rfl⟩
      exact ⟨.group filled named, fresh⟩
    · rintro ⟨lists, fresh⟩
      cases lists with
      | one named => cases named
      | group filled named => exact ⟨_, ⟨named, fresh⟩, rfl⟩
  · rename_i empty plain
    simp only [map_eq_ok_iff, readCategory_eq_ok_iff]
    constructor
    · rintro ⟨category, ⟨named, new⟩, rfl⟩
      exact ⟨.one named, new⟩
    · rintro ⟨lists, fresh⟩
      cases lists with
      | one named => exact ⟨_, ⟨named, fresh⟩, rfl⟩
      | group filled named => exact absurd rfl (plain _)

theorem readsEach_entries (levels : Nat) :
    ReadsEach (readEntry levels) OrderEntry.categories (readEntries levels) :=
  ⟨fun _ => rfl, fun _ _ _ => rfl⟩

/-- The entries that are read are the ones that are listed, with fresh categories. -/
theorem readEntries_eq_ok_iff {order : Order} :
    readEntries levels seen values = .ok order ↔
      List.Forall₂ ListsEntry values order ∧ Fresh seen (order.flatMap OrderEntry.categories) :=
  (readsEach_entries levels).eq_ok_iff readEntry_eq_ok_iff

/-- An order that is read lists its entries, and no category comes twice. -/
theorem readOrder_eq_ok_iff {order : Order} :
    readOrder levels (.list values) = .ok order ↔
      List.Forall₂ ListsEntry values order ∧ (order.flatMap OrderEntry.categories).Nodup := by
  rw [readOrder, readEntries_eq_ok_iff, Fresh, and_iff_left fun _ _ => List.not_mem_nil]

/-- The names in some entries call the categories of the order that they list. -/
theorem forall₂_flatMap_namesIn {order : Order} (lists : List.Forall₂ ListsEntry values order) :
    List.Forall₂ (fun name category => categoryOf? name = some category)
      (values.flatMap namesIn) (order.flatMap OrderEntry.categories) := by
  induction lists with
  | nil => exact .nil
  | cons here _ ih => exact List.rel_append here.forall₂ ih

/-- Names that call categories call none twice when the categories are different. -/
theorem pairwise_categoryOf?_iff
    (named : List.Forall₂ (fun name category => categoryOf? name = some category) values
      categories) :
    (values.Pairwise fun first second => categoryOf? first ≠ categoryOf? second) ↔
      categories.Nodup := by
  rw [← List.pairwise_map (f := categoryOf?), forall₂_categoryOf?_iff.mp named]
  exact List.nodup_map_iff (Option.some_injective _)

/-- The entries of an order are read, and nothing else is. -/
theorem isOrder_iff (levels : Nat) :
    IsOrder values ↔ ∃ order, readOrder levels (.list values) = .ok order := by
  simp only [readOrder_eq_ok_iff]
  constructor
  · rintro ⟨filled, known, once⟩
    obtain ⟨order, lists⟩ := exists_forall₂_iff.mpr fun value member =>
      exists_listsEntry_iff.mpr ⟨filled value member, known value member⟩
    exact ⟨order, lists, (pairwise_categoryOf?_iff (forall₂_flatMap_namesIn lists)).mp once⟩
  · rintro ⟨order, lists, distinct⟩
    have listed := exists_forall₂_iff.mp ⟨order, lists⟩
    exact
      { filled := fun value member => (exists_listsEntry_iff.mp (listed value member)).1
        known := fun value member => (exists_listsEntry_iff.mp (listed value member)).2
        once := (pairwise_categoryOf?_iff (forall₂_flatMap_namesIn lists)).mpr distinct }

end Readers

end Options

/-- In an order that names no category twice, the rank of a category is the place of the entry that
names it. -/
theorem Order.rankFrom_eq_some_iff {order : Order} {start rank : Nat} {category : Category}
    (once : (order.flatMap OrderEntry.categories).Nodup) :
    Order.rankFrom start order category = some rank ↔
      ∃ place entry, order[place]? = some entry ∧ category ∈ entry.categories ∧
        rank = start + place := by
  induction order generalizing start rank with
  | nil => simp [rankFrom]
  | cons entry rest ih =>
    obtain ⟨-, others, apart⟩ := List.nodup_append'.mp once
    -- The entry that names the category is the first one or one of the rest, and never both.
    have split : (∃ place named, (entry :: rest)[place]? = some named ∧
          category ∈ named.categories ∧ rank = start + place) ↔
        (category ∈ entry.categories ∧ rank = start) ∨
          ∃ place named, rest[place]? = some named ∧ category ∈ named.categories ∧
            rank = start + 1 + place := by
      refine Nat.or_exists_add_one.symm.trans (or_congr (by simp) ?_)
      simp only [List.getElem?_cons_succ, Nat.add_right_comm start, Nat.add_assoc start]
    rw [split, ← ih others, rankFrom]
    cases later : rankFrom (start + 1) rest category with
    | none => by_cases here : category ∈ entry.categories <;> simp [here, eq_comm]
    | some found =>
      obtain ⟨place, named, stands, names, -⟩ := (ih others).mp later
      have elsewhere : category ∉ entry.categories := fun here =>
        apart here (List.mem_flatMap.mpr ⟨named, List.mem_of_getElem? stands, names⟩)
      simp [elsewhere]

namespace Options

variable {levels : Nat} {entries : List Value} {order : Order}

/-- In the table of an order that is read, the rank of a category is the place that names it. -/
theorem rank_eq_some_iff_namesAt (read : readOrder levels (.list entries) = .ok order)
    {category : Category} {place : Nat} :
    order.table.rank category = some place ↔ NamesAt entries place category := by
  obtain ⟨lists, once⟩ := readOrder_eq_ok_iff.mp read
  refine (Order.rankFrom_eq_some_iff once).trans ?_
  simp only [Nat.zero_add]
  constructor
  · rintro ⟨place, entry, stands, names, rfl⟩
    obtain ⟨value, listed, lists⟩ := exists_getElem?_of_forall₂ lists.flip stands
    exact ⟨value, listed, lists.names_iff.mpr names⟩
  · rintro ⟨value, listed, names⟩
    obtain ⟨entry, stands, lists⟩ := exists_getElem?_of_forall₂ lists listed
    exact ⟨place, entry, stands, lists.names_iff.mp names, rfl⟩

/-- The table of an order that is read ranks what the order names, by where it names it. -/
theorem ranksAs_of_readOrder (read : readOrder levels (.list entries) = .ok order) :
    RanksAs order.table entries := by
  have ranks : ∀ {category place},
      order.table.rank category = some place ↔ NamesAt entries place category :=
    rank_eq_some_iff_namesAt read
  refine ⟨fun category => ?_, ?_, ?_⟩
  · rw [Option.isSome_iff_exists]
    exact exists_congr fun place => ranks
  · intro first second before after ranked ranked'
    constructor
    · rintro rfl
      exact ⟨before, ranks.mp ranked, ranks.mp ranked'⟩
    · rintro ⟨place, named, named'⟩
      have same := (ranks.mpr named).symm.trans ranked
      have same' := (ranks.mpr named').symm.trans ranked'
      exact (Option.some.inj same).symm.trans (Option.some.inj same')
  · intro first second before after ranked ranked'
    constructor
    · intro less
      exact ⟨before, after, less, ranks.mp ranked, ranks.mp ranked'⟩
    · rintro ⟨place, later, less, named, named'⟩
      obtain rfl := Option.some.inj ((ranks.mpr named).symm.trans ranked)
      obtain rfl := Option.some.inj ((ranks.mpr named').symm.trans ranked')
      exact less

end Options

end TagOrder
