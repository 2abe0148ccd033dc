import TagOrder.Edit

/-!
# Scripts that are merged

Of several scripts those are kept that reach over no span kept before them, so no two that are kept
overlap (`Script.disjointFrom_apart`), and one that holds edits and is dropped overlaps one that is
kept and listed before it (`Script.exists_overlap_of_dropped`). Items that do not overlap are all
kept (`Script.disjointFrom_eq_self`), so choosing once more changes nothing
(`Script.disjoint_greedy`). The edits of a merge are edits of the scripts
(`Script.exists_of_mem_merge`), and all of them when the scripts are edits that do not overlap
(`Script.merge_singletons`).
-/

namespace TagOrder

/-- Which of two spans is named first does not matter. -/
theorem Span.overlaps_comm (left right : Span) : left.overlaps right = right.overlaps left :=
  Bool.and_comm _ _

namespace Script

/-- A character of an edited text was there or was put in. -/
theorem mem_or_exists_of_mem_apply {script : Script} {text : Text} {c : Char}
    (member : c ∈ script.apply text) : c ∈ text ∨ ∃ edit ∈ script, c ∈ edit.replacement := by
  have folded : ∀ (edits : Script) (text : Text),
      c ∈ edits.foldl (fun result edit => edit.apply result) text →
        c ∈ text ∨ ∃ edit ∈ edits, c ∈ edit.replacement := by
    intro edits
    induction edits with
    | nil => exact fun text inside => .inl inside
    | cons edit rest ih =>
      intro text inside
      rcases ih _ inside with applied | ⟨other, later, put⟩
      · rcases List.mem_append.mp applied with front | behind
        · rcases List.mem_append.mp front with before | put
          · exact .inl (List.mem_of_mem_take before)
          · exact .inr ⟨edit, List.mem_cons_self, put⟩
        · exact .inl (List.mem_of_mem_drop behind)
      · exact .inr ⟨other, List.mem_cons_of_mem _ later, put⟩
  rcases folded _ _ member with inside | ⟨edit, sorted, put⟩
  · exact .inl inside
  · exact .inr ⟨edit, (List.mergeSort_perm script _).subset sorted, put⟩

/-- A script reaches over a span when it holds an edit. -/
theorem exists_span_iff {script : Script} : (∃ reach, script.span = some reach) ↔ script ≠ [] := by
  cases script <;> simp [span]

/-- The items to keep are listed as they were. -/
theorem disjointFrom_sublist {α : Type} (script : α -> Script) (taken : List Span)
    (items : List α) : (disjointFrom script taken items).Sublist items := by
  fun_induction disjointFrom script taken items with
  | case1 => exact .slnil
  | case2 taken item rest none ih => exact ih.cons item
  | case3 taken item rest reach spans overlaps ih => exact ih.cons item
  | case4 taken item rest reach spans clear ih => exact ih.cons_cons item

/-- What is kept holds an edit. -/
theorem ne_nil_of_mem_disjointFrom {α : Type} {script : α -> Script} {taken : List Span}
    {items : List α} {item : α} (kept : item ∈ disjointFrom script taken items) :
    script item ≠ [] := by
  fun_induction disjointFrom script taken items with
  | case1 => cases kept
  | case2 taken other rest none ih => exact ih kept
  | case3 taken other rest reach spans overlaps ih => exact ih kept
  | case4 taken other rest reach spans clear ih =>
    rcases List.mem_cons.mp kept with rfl | later
    · exact exists_span_iff.mp ⟨reach, spans⟩
    · exact ih later

/-- The edits of a merge are edits of the scripts. -/
theorem exists_of_mem_merge {scripts : List Script} {edit : Edit}
    (member : edit ∈ merge scripts) : ∃ script ∈ scripts, edit ∈ script := by
  obtain ⟨script, kept, inside⟩ := List.mem_flatten.mp member
  exact ⟨script, (disjointFrom_sublist id [] scripts).mem kept, inside⟩

/-- The items to keep are the images of those to keep. -/
theorem disjointFrom_map {α β : Type} (script : β -> Script) (change : α -> β) (taken : List Span)
    (items : List α) :
    disjointFrom script taken (items.map change) =
      (disjointFrom (script ∘ change) taken items).map change := by
  induction items generalizing taken with
  | nil => rfl
  | cons item rest ih =>
    simp only [List.map_cons, disjointFrom, Function.comp_apply, ih]
    cases (script (change item)).span with
    | none => rfl
    | some reach =>
      dsimp only
      split <;> rfl

/-- What is kept overlaps neither what was taken nor one another. -/
theorem disjointFrom_apart {α : Type} (script : α -> Script) (taken : List Span)
    (items : List α) :
    (∀ item ∈ disjointFrom script taken items, ∀ reach ∈ (script item).span,
        taken.any reach.overlaps = false) ∧
      (disjointFrom script taken items).Pairwise fun left right =>
        ∀ first ∈ (script left).span, ∀ second ∈ (script right).span,
          second.overlaps first = false := by
  fun_induction disjointFrom script taken items with
  | case1 => exact ⟨nofun, .nil⟩
  | case2 taken item rest none ih => exact ih
  | case3 taken item rest reach spans overlaps ih => exact ih
  | case4 taken item rest reach spans clear ih =>
    obtain ⟨apart, pairwise⟩ := ih
    simp only [List.any_append, List.any_cons, List.any_nil, Bool.or_false,
      Bool.or_eq_false_iff] at apart
    constructor
    · refine List.forall_mem_cons.mpr ⟨fun first found => ?_, fun other member second found =>
        (apart other member second found).1⟩
      obtain rfl := Option.some.inj (spans.symm.trans found)
      exact Bool.eq_false_iff.mpr clear
    · refine .cons (fun other member first found second later => ?_) pairwise
      obtain rfl := Option.some.inj (spans.symm.trans found)
      exact (apart other member second later).2

/-- Merging scripts of one edit each keeps edits as items. -/
theorem merge_map_singleton (edits : List Edit) :
    merge (edits.map fun edit => [edit]) = disjointFrom (fun edit => [edit]) [] edits := by
  rw [merge, disjoint, disjointFrom_map, List.flatten_eq_flatMap, List.flatMap_map]
  exact List.flatMap_singleton' _

/-- No two edits that are kept overlap. -/
theorem pairwise_merge_singletons (edits : List Edit) :
    (merge (edits.map fun edit => [edit])).Pairwise fun left right =>
      right.range.overlaps left.range = false := by
  rw [merge_map_singleton]
  exact (disjointFrom_apart _ [] edits).2.imp fun apart => apart _ rfl _ rfl

/-- Items that hold edits are all kept when none overlaps another or what is taken. -/
theorem disjointFrom_eq_self {α : Type} {script : α -> Script} {items : List α} {taken : List Span}
    (filled : ∀ item ∈ items, script item ≠ [])
    (apart : items.Pairwise fun left right =>
      ∀ first ∈ (script left).span, ∀ second ∈ (script right).span, second.overlaps first = false)
    (clear : ∀ item ∈ items, ∀ reach ∈ (script item).span, taken.any reach.overlaps = false) :
    disjointFrom script taken items = items := by
  induction items generalizing taken with
  | nil => rfl
  | cons item rest ih =>
    obtain ⟨here, later⟩ := List.forall_mem_cons.mp filled
    obtain ⟨first, others⟩ := List.pairwise_cons.mp apart
    obtain ⟨reach, spans⟩ := exists_span_iff.mpr here
    have free := clear item List.mem_cons_self reach spans
    have stillClear : ∀ other ∈ rest, ∀ second ∈ (script other).span,
        (taken ++ [reach]).any second.overlaps = false := fun other member second found => by
      rw [List.any_append, clear other (List.mem_cons_of_mem _ member) second found, List.any_cons,
        first other member reach spans second found]
      rfl
    rw [disjointFrom, spans]
    dsimp only
    rw [if_neg (Bool.eq_false_iff.mp free), ih later others stillClear]

/-- An item that holds edits and is dropped overlaps what is taken, or an item that is kept and
listed before it. -/
theorem exists_overlap_of_dropped {α : Type} {script : α -> Script} {taken : List Span}
    {items : List α} {item : α} {reach : Span} (listed : item ∈ items)
    (dropped : item ∉ disjointFrom script taken items) (spans : (script item).span = some reach) :
    taken.any reach.overlaps = true ∨
      ∃ other ∈ disjointFrom script taken items, [other, item].Sublist items ∧
        ∃ first ∈ (script other).span, reach.overlaps first = true := by
  fun_induction disjointFrom script taken items with
  | case1 => cases listed
  | case2 taken head rest none ih =>
    rcases List.mem_cons.mp listed with rfl | later
    · cases none.symm.trans spans
    · refine (ih later dropped).imp_right ?_
      rintro ⟨other, kept, before, overlap⟩
      exact ⟨other, kept, before.cons head, overlap⟩
  | case3 taken head rest own found overlaps ih =>
    rcases List.mem_cons.mp listed with rfl | later
    · obtain rfl := Option.some.inj (found.symm.trans spans)
      exact .inl overlaps
    · refine (ih later dropped).imp_right ?_
      rintro ⟨other, kept, before, overlap⟩
      exact ⟨other, kept, before.cons head, overlap⟩
  | case4 taken head rest own found clear ih =>
    have droppedLater := List.not_mem_of_not_mem_cons dropped
    have later := (List.mem_cons.mp listed).resolve_left (List.ne_of_not_mem_cons dropped)
    rcases ih later droppedLater with met | ⟨other, kept, before, overlap⟩
    · rw [List.any_append, Bool.or_eq_true, List.any_cons, List.any_nil, Bool.or_false] at met
      refine met.imp_right fun overlap => ⟨head, List.mem_cons_self, ?_, own, found, overlap⟩
      exact (List.singleton_sublist.mpr later).cons_cons head
    · exact .inr ⟨other, List.mem_cons_of_mem _ kept, before.cons head, overlap⟩

/-- Edits are all kept when none overlaps another. -/
theorem disjointFrom_singletons {edits : List Edit}
    (apart : edits.Pairwise fun left right => right.range.overlaps left.range = false) :
    disjointFrom (fun edit => [edit]) [] edits = edits := by
  refine disjointFrom_eq_self (fun edit _ => List.cons_ne_nil edit []) ?_ fun _ _ _ _ => rfl
  refine apart.imp fun {left right} clear first found second foundToo => ?_
  obtain rfl := Option.some.inj found
  obtain rfl := Option.some.inj foundToo
  exact clear

/-- Merging scripts of one edit each, none of which overlaps another, keeps all edits. -/
theorem merge_singletons {edits : List Edit}
    (apart : edits.Pairwise fun left right => right.range.overlaps left.range = false) :
    merge (edits.map fun edit => [edit]) = edits := by
  rw [merge_map_singleton, disjointFrom_singletons apart]

/-- Whether two scripts reach over common ground. -/
def Overlap (left right : Script) : Prop :=
  ∃ first ∈ left.span, ∃ second ∈ right.span, first.overlaps second = true

/-- A choice of scripts with their places in a list, such as one makes who goes through the list and
takes what can still be taken. -/
structure IsGreedy (scripts : List Script) (kept : List (Script × Nat)) : Prop where
  listed : kept.Sublist scripts.zipIdx
  filled : ∀ entry ∈ kept, entry.1 ≠ []
  apart : kept.Pairwise fun left right => ¬ Overlap left.1 right.1
  dropped : ∀ entry ∈ scripts.zipIdx, entry.1 ≠ [] → entry ∉ kept →
    ∃ other ∈ kept, other.2 < entry.2 ∧ Overlap other.1 entry.1

/-- Entries of an enumerated list that are listed one before the other have ascending places. -/
theorem lt_of_sublist_zipIdx {α : Type} {items : List α} {left right : α × Nat}
    (listed : [left, right].Sublist items.zipIdx) : left.2 < right.2 := by
  have places := listed.map Prod.snd
  rw [List.zipIdx_map_snd] at places
  have ascending := List.Pairwise.sublist places List.pairwise_lt_range'
  exact List.rel_of_pairwise_cons ascending (List.mem_singleton_self _)

/-- What is kept of a list when the scripts are told apart by their places. -/
theorem isGreedy_disjointFrom (scripts : List Script) :
    IsGreedy scripts (disjointFrom Prod.fst [] scripts.zipIdx) where
  listed := disjointFrom_sublist Prod.fst [] scripts.zipIdx
  filled _ := ne_nil_of_mem_disjointFrom
  apart := by
    refine (disjointFrom_apart Prod.fst [] scripts.zipIdx).2.imp fun {left right} apart => ?_
    rintro ⟨first, found, second, foundToo, overlap⟩
    rw [Span.overlaps_comm, apart first found second foundToo] at overlap
    cases overlap
  dropped entry listed filled dropped := by
    obtain ⟨reach, spans⟩ := exists_span_iff.mpr filled
    obtain ⟨other, kept, before, first, found, overlap⟩ :=
      (exists_overlap_of_dropped listed dropped spans).resolve_left Bool.false_ne_true
    rw [Span.overlaps_comm] at overlap
    exact ⟨other, kept, lt_of_sublist_zipIdx before, first, found, reach, spans, overlap⟩

/-- The scripts that are kept are a greedy and maximal choice: they are listed as they were, each
holds an edit, no two overlap, and a script that holds an edit and is dropped overlaps one that is
kept and listed before it. Choosing once more among them keeps them all. -/
theorem disjoint_greedy (scripts : List Script) :
    (∃ kept, IsGreedy scripts kept ∧ disjoint scripts = kept.map Prod.fst) ∧
      disjoint (disjoint scripts) = disjoint scripts := by
  refine ⟨⟨_, isGreedy_disjointFrom scripts, ?_⟩, ?_⟩
  · have mapped := disjointFrom_map id Prod.fst [] scripts.zipIdx
    rwa [List.zipIdx_map_fst] at mapped
  · exact disjointFrom_eq_self (fun _ => ne_nil_of_mem_disjointFrom)
      (disjointFrom_apart id [] scripts).2 fun _ _ _ _ => rfl

/-- Overlapping is not transitive: the third script overlaps only the second, which is dropped. -/
example : disjoint [[⟨⟨0, 3⟩, []⟩], [⟨⟨2, 5⟩, []⟩], [], [⟨⟨4, 6⟩, []⟩]] =
    [[⟨⟨0, 3⟩, []⟩], [⟨⟨4, 6⟩, []⟩]] := by decide

end Script

end TagOrder
