import TagOrder.Storage.Path

/-!
# Paths written and read

The text of a path is read as the same path (`Path.Tidy.ofString_toString`), so a path that is
written without what says nothing leads to where it led before (`Path.ofString_tidyPath`).
-/

namespace TagOrder

/-- A text is cut the way lists are. -/
theorem Text.splitAt_eq_splitOn (separator : Char) (text : Text) :
    Text.splitAt separator text = List.splitOn separator text := by
  induction text with
  | nil => rfl
  | cons c rest ih =>
    rw [Text.splitAt, ih, List.splitOn_cons_eq_if_modifyHead]
    by_cases here : c = separator
    · rw [if_pos here, if_pos (beq_iff_eq.mpr here)]
    · rw [if_neg here, if_neg (mt beq_iff_eq.mp here)]
      cases cut : List.splitOn separator rest with
      | nil => exact absurd cut (List.splitOn_ne_nil separator rest)
      | cons first others => rfl

/-- No piece of a cut text holds the separator. -/
theorem Text.not_mem_of_mem_splitAt {separator : Char} {text piece : Text}
    (member : piece ∈ Text.splitAt separator text) : separator ∉ piece := by
  induction text generalizing piece with
  | nil =>
    obtain rfl := List.mem_singleton.mp member
    exact List.not_mem_nil
  | cons c rest ih =>
    rw [Text.splitAt] at member
    by_cases here : c = separator
    · rw [if_pos here] at member
      rcases List.mem_cons.mp member with rfl | later
      · exact List.not_mem_nil
      · exact ih later
    · rw [if_neg here] at member
      cases cut : Text.splitAt separator rest with
      | nil =>
        rw [cut] at member
        obtain rfl := List.mem_singleton.mp member
        exact fun inside => here (List.mem_singleton.mp inside).symm
      | cons first others =>
        rw [cut] at ih member
        rcases List.mem_cons.mp member with rfl | later
        · exact List.not_mem_cons_of_ne_of_not_mem (Ne.symm here) (ih List.mem_cons_self)
        · exact ih (List.mem_cons_of_mem _ later)

namespace Path

/-- A name that is worth keeping, and in one piece. -/
structure IsName (name : String) : Prop where
  nonempty : name ≠ ""
  noDot : name ≠ "."
  whole : '/' ∉ name.toList

/-- A path of such names, with one of the roots. -/
structure Tidy (path : Path) : Prop where
  names : ∀ name ∈ path.names, IsName name
  root : path.root = "" ∨ path.root = "/" ∨ path.root = "//"

/-- Every text is read as such a path. -/
theorem tidy_ofString (text : String) : (ofString text).Tidy where
  names := by
    intro name member
    obtain ⟨piece, kept⟩ := List.mem_filter.mp member
    obtain ⟨letters, cut, rfl⟩ := List.mem_map.mp piece
    rw [Bool.and_eq_true, bne_iff_ne, bne_iff_ne] at kept
    refine ⟨kept.1, kept.2, ?_⟩
    rw [String.toList_ofList]
    exact Text.not_mem_of_mem_splitAt cut
  root := by
    change rootOf text.toList = _ ∨ rootOf text.toList = _ ∨ rootOf text.toList = _
    unfold rootOf
    split <;> simp

/-- The names between slashes are read off them. -/
theorem namesOf_intercalate {names : List String} (kept : ∀ name ∈ names, IsName name) :
    namesOf ("/".intercalate names).toList = names := by
  cases names with
  | nil => rfl
  | cons name others =>
    have apart : ∀ letters ∈ (name :: others).map String.toList, '/' ∉ letters := by
      intro letters member
      obtain ⟨other, listed, rfl⟩ := List.mem_map.mp member
      exact (kept other listed).whole
    have cut : Text.splitAt '/' ("/".intercalate (name :: others)).toList =
        (name :: others).map String.toList := by
      rw [Text.splitAt_eq_splitOn, String.toList_intercalate]
      exact List.splitOn_intercalate '/' apart (List.cons_ne_nil _ _)
    have written : ((name :: others).map String.toList).map String.ofList = name :: others := by
      simp
    unfold namesOf
    rw [cut, written]
    refine List.filter_eq_self.mpr fun other member => ?_
    rw [Bool.and_eq_true, bne_iff_ne, bne_iff_ne]
    exact ⟨(kept other member).nonempty, (kept other member).noDot⟩

/-- The names between slashes start with none. -/
theorem head?_intercalate_ne {names : List String} (kept : ∀ name ∈ names, IsName name) :
    ("/".intercalate names).toList.head? ≠ some '/' := by
  cases names with
  | nil => decide
  | cons name others =>
    obtain ⟨nonempty, -, whole⟩ := kept name List.mem_cons_self
    rw [String.toList_intercalate, List.map_cons]
    cases letters : name.toList with
    | nil => exact absurd (String.toList_eq_nil_iff.mp letters) nonempty
    | cons c rest =>
      rw [letters] at whole
      have first : c ≠ '/' := fun same => whole (same ▸ List.mem_cons_self)
      cases others with
      | nil => simpa using first
      | cons second more => simpa using first

/-- The root in front of names is read off them. -/
theorem rootOf_append {root : String} {text : Text}
    (roots : root = "" ∨ root = "/" ∨ root = "//") (apart : text.head? ≠ some '/') :
    rootOf (root.toList ++ text) = root := by
  cases text with
  | nil => rcases roots with rfl | rfl | rfl <;> rfl
  | cons c rest =>
    have first : c ≠ '/' := fun same => apart (congrArg some same)
    rcases roots with rfl | rfl | rfl <;> simp [rootOf, first]

/-- The text of a path is read as the path. -/
theorem Tidy.ofString_toString {path : Path} (tidy : path.Tidy) :
    ofString path.toString = path := by
  obtain ⟨root, names⟩ := path
  obtain ⟨kept, roots⟩ := tidy
  dsimp only at kept roots
  unfold toString
  dsimp only
  split
  · rename_i nowhere
    rw [Bool.and_eq_true, decide_eq_true_iff, decide_eq_true_iff] at nowhere
    obtain ⟨rfl, rfl⟩ := nowhere
    rfl
  · unfold ofString
    rw [String.toList_append, rootOf_append roots (head?_intercalate_ne kept)]
    -- The slashes of a root enclose no name.
    have same : namesOf (root.toList ++ ("/".intercalate names).toList) = names := by
      rcases roots with rfl | rfl | rfl <;> exact namesOf_intercalate kept
    rw [same]

/-- A path without what says nothing is the same path. -/
theorem ofString_tidyPath (text : String) : ofString (tidyPath text) = ofString text :=
  (tidy_ofString text).ofString_toString

end Path

end TagOrder
