import Mathlib.Data.List.Infix
import TagOrder.Proofs.Storage.Tree

/-!
# What a search finds

A search finds nothing twice (`Volume.nodup_glob`). In a volume that is a tree, and when it comes to
its end, it finds exactly the dumps for which the place that the path is resolved to stands
(`Volume.mem_glob_iff`): those at and below a directory, or the place itself.
-/

namespace TagOrder

theorem nodup_eraseDups {α : Type} [BEq α] [LawfulBEq α] (list : List α) :
    list.eraseDups.Nodup := by
  induction length : list.length using Nat.strongRecOn generalizing list with
  | _ length ih =>
    cases list with
    | nil => exact .nil
    | cons first rest =>
      rw [List.eraseDups_cons, List.nodup_cons, List.mem_eraseDups]
      refine ⟨fun member => ?_, ih _ ?_ _ rfl⟩
      · simpa using (List.mem_filter.mp member).2
      · have shorter := List.length_filter_le (fun other => !other == first) rest
        simp only [List.length_cons] at length
        omega

theorem sortStrings_perm (strings : List String) : (sortStrings strings).Perm strings :=
  List.mergeSort_perm _ _

section Filter

variable {ε α : Type} {keep : α -> Except ε Bool} {items kept result : List α} {item : α}

/-- What a filter with answers that may be errors keeps, when it comes to its end. -/
theorem filterAuxM_eq_ok (filtered : List.filterAuxM keep items kept = .ok result) :
    (∀ item ∈ items, ∃ flag, keep item = .ok flag) ∧
      ∀ item, item ∈ result ↔ item ∈ kept ∨ item ∈ items ∧ keep item = .ok true := by
  induction items generalizing kept with
  | nil =>
    obtain rfl := Except.ok.inj filtered
    simp
  | cons first rest ih =>
    obtain ⟨flag, answered, filtered⟩ := bind_eq_ok_iff.mp filtered
    obtain ⟨answers, members⟩ := ih filtered
    refine ⟨List.forall_mem_cons.mpr ⟨⟨flag, answered⟩, answers⟩, fun item => ?_⟩
    rw [members]
    cases flag with
    | true =>
      rw [cond_true, List.mem_cons, List.mem_cons]
      constructor
      · rintro ((rfl | before) | later)
        · exact .inr ⟨.inl rfl, answered⟩
        · exact .inl before
        · exact .inr ⟨.inr later.1, later.2⟩
      · rintro (before | ⟨rfl | later, keeps⟩)
        · exact .inl (.inr before)
        · exact .inl (.inl rfl)
        · exact .inr ⟨later, keeps⟩
    | false =>
      rw [cond_false, List.mem_cons]
      constructor
      · rintro (before | later)
        · exact .inl before
        · exact .inr ⟨.inr later.1, later.2⟩
      · rintro (before | ⟨rfl | later, keeps⟩)
        · exact .inl before
        · rw [answered] at keeps
          cases keeps
        · exact .inr ⟨later, keeps⟩

theorem exists_of_filterM (filtered : items.filterM keep = .ok result) (member : item ∈ items) :
    ∃ flag, keep item = .ok flag := by
  obtain ⟨kept, inner, -⟩ := bind_eq_ok_iff.mp filtered
  exact (filterAuxM_eq_ok inner).1 item member

theorem mem_filterM (filtered : items.filterM keep = .ok result) :
    item ∈ result ↔ item ∈ items ∧ keep item = .ok true := by
  obtain ⟨kept, inner, turned⟩ := bind_eq_ok_iff.mp filtered
  obtain rfl := Except.ok.inj turned
  rw [List.mem_reverse, (filterAuxM_eq_ok inner).2]
  simp

end Filter

namespace Glob

/-- Literal elements match the text that they spell. -/
theorem matches_literals {ending text : Text} :
    «matches» (ending.map .literal) text = true ↔ text = ending := by
  induction ending generalizing text with
  | nil => simp [«matches»]
  | cons c rest ih =>
    cases text with
    | nil => simp [«matches»]
    | cons first others => simp [«matches», GlobElement.has, ih]

theorem mem_tails {text rest : Text} : rest ∈ tails text ↔ rest <:+ text := by
  induction text with
  | nil => simp [tails]
  | cons c text ih => rw [tails, List.mem_cons, ih, List.suffix_cons_iff]

/-- A star and literal elements match what ends as the elements spell. -/
theorem matches_star_literals {ending text : Text} :
    «matches» (.star :: ending.map .literal) text = true ↔ ending <:+ text := by
  rw [«matches», List.any_eq_true]
  simp only [mem_tails, matches_literals, exists_eq_right]

theorem parts?_dumps : parts? (Volume.patternOf dumpEnding) =
    some [.subtree, .pattern (.star :: dumpEnding.toList.map .literal)] := by
  decide +kernel

end Glob

namespace Volume

variable {volume : Volume} {place spot : Place}

/-- A name ends in a certain way. -/
theorem endsWith_iff {text ending : String} :
    endsWith text ending = true ↔ ending.toList <:+ text.toList := by
  rw [endsWith, List.isPrefixOf_iff_prefix, List.reverse_prefix]

/-- Lists that are found one by one and joined. -/
theorem mapM_flatten_eq_ok {ε α β : Type} (items : List α) (found : α -> List β) :
    (do return (← items.mapM fun item => (.ok (found item) : Except ε (List β))).flatten) =
      .ok (items.flatMap found) := by
  have each : items.mapM (fun item => (.ok (found item) : Except ε (List β))) =
      .ok (items.map found) := List.mapM_pure
  rw [each]
  rfl

/-- What a pattern for names finds in a directory. -/
theorem select_pattern (elements : List GlobElement) (names : List String) :
    volume.select [.pattern elements] names =
      .ok (((((volume.placeOf? names).map volume.children).getD []).filter fun child =>
        Glob.matches elements child.1.toList).map fun child => names ++ [child.1]) := by
  simp only [select, List.isEmpty_nil, Bool.or_true, Bool.true_and]
  rw [mapM_flatten_eq_ok, ← List.map_eq_flatMap]

/-- What a pattern for names finds in a directory and in all directories under it. -/
theorem select_subtree (elements : List GlobElement) (names : List String) :
    volume.select [.subtree, .pattern elements] names =
      .ok ((((volume.placeOf? names).map volume.directoriesUnder).getD []).flatMap fun below =>
        ((((volume.placeOf? (names ++ below)).map volume.children).getD []).filter fun child =>
          Glob.matches elements child.1.toList).map fun child => names ++ below ++ [child.1]) := by
  rw [select]
  simp only [select_pattern]
  exact mapM_flatten_eq_ok _ _

namespace Tree

theorem placeOf?_eq (tree : volume.Tree) (directory : volume.get? place = some .directory) :
    volume.placeOf? place = some place := by
  rw [placeOf?, tree.walk_of_get? directory]
  rfl

/-- The directories under a directory, by the names that lead to them from there. -/
theorem mem_directoriesUnder (tree : volume.Tree)
    (directory : volume.get? place = some .directory) {below : List String} :
    below ∈ volume.directoriesUnder place ↔
      volume.get? (place ++ below) = some .directory := by
  rw [directoriesUnder, List.mem_cons, List.mem_filterMap]
  constructor
  · rintro (rfl | ⟨⟨other, entry⟩, stored, found⟩)
    · rwa [List.append_nil]
    · dsimp only at found
      split at found
      · rename_i kept
        rw [Bool.and_eq_true, Bool.and_eq_true, beq_iff_eq, List.isPrefixOf_iff_prefix] at kept
        obtain ⟨⟨rfl, ⟨rest, rfl⟩⟩, -⟩ := kept
        obtain rfl := Option.some.inj found
        rw [List.drop_left]
        exact tree.stands _ stored
      · cases found
  · intro stands
    by_cases here : below = []
    · exact .inl here
    · refine .inr ⟨_, mem_entries stands (List.append_ne_nil_of_right_ne_nil _ here), ?_⟩
      have other : place ≠ place ++ below := fun same =>
        here (List.append_cancel_left ((List.append_nil place).trans same)).symm
      simp [other]

/-- What stands in a directory, by name. -/
theorem mem_children (tree : volume.Tree) {name : String} :
    (∃ flag, (name, flag) ∈ volume.children place) ↔
      ∃ entry, volume.get? (place ++ [name]) = some entry := by
  simp only [children, List.mem_filterMap]
  constructor
  · rintro ⟨flag, ⟨other, entry⟩, stored, found⟩
    dsimp only at found
    split at found
    · rename_i last ends
      split at found
      · rename_i inside
        obtain ⟨rfl, rfl⟩ := Prod.mk.inj (Option.some.inj found)
        refine ⟨entry, ?_⟩
        rw [← inside, List.dropLast_append_getLast? last ends]
        exact tree.stands _ stored
      · cases found
    · cases found
  · rintro ⟨entry, stands⟩
    refine ⟨entry == .directory, _, mem_entries stands ?_, ?_⟩
    · exact List.append_ne_nil_of_right_ne_nil _ (List.cons_ne_nil _ _)
    · simp

end Tree

/-- The name that a place ends in is that of a dump. -/
def NamesDump (place : Place) : Prop := endsWith (place.getLast?.getD "") dumpEnding = true

instance (place : Place) : Decidable (NamesDump place) := inferInstanceAs (Decidable (_ = _))

/-- The dumps for which a path stands that is resolved to a place: a directory stands for the files
in it and below it that have the name of a dump, any other place for itself when it has one. -/
inductive StandsFor (volume : Volume) (place : Place) : Place -> Prop where
  | inside {spot octets} (directory : volume.get? place = some .directory) (below : place <+: spot)
      (file : volume.get? spot = some (.file octets)) (named : NamesDump spot) :
      StandsFor volume place spot
  | itself (other : volume.get? place ≠ some .directory) (named : NamesDump place) :
      StandsFor volume place place

theorem namesDump_append {name : String} :
    NamesDump (place ++ [name]) ↔ dumpEnding.toList <:+ name.toList := by
  rw [NamesDump, List.getLast?_append, endsWith_iff]
  rfl

/-- What the search for dumps selects under a directory. -/
theorem mem_select (tree : volume.Tree) (directory : volume.get? place = some .directory)
    {names : List (List String)}
    (selected : volume.select [.subtree, .pattern (.star :: dumpEnding.toList.map .literal)] place =
      .ok names) :
    spot ∈ names ↔ ∃ below name, spot = place ++ below ++ [name] ∧ NamesDump spot ∧
      volume.get? (place ++ below) = some .directory ∧ ∃ entry, volume.get? spot = some entry := by
  rw [select_subtree] at selected
  obtain rfl := Except.ok.inj selected
  rw [tree.placeOf?_eq directory, Option.map_some, Option.getD_some, List.mem_flatMap]
  refine exists_congr fun below => ?_
  rw [tree.mem_directoriesUnder directory]
  constructor
  · rintro ⟨inner, found⟩
    rw [tree.placeOf?_eq inner] at found
    obtain ⟨⟨name, flag⟩, matching, rfl⟩ := List.mem_map.mp found
    obtain ⟨child, ends⟩ := List.mem_filter.mp matching
    exact ⟨name, rfl, namesDump_append.mpr (Glob.matches_star_literals.mp ends), inner,
      tree.mem_children.mp ⟨flag, child⟩⟩
  · rintro ⟨name, rfl, named, inner, stands⟩
    refine ⟨inner, ?_⟩
    obtain ⟨flag, child⟩ := tree.mem_children.mpr stands
    have ends := Glob.matches_star_literals.mpr (namesDump_append.mp named)
    rw [tree.placeOf?_eq inner]
    exact List.mem_map.mpr ⟨(name, flag), List.mem_filter.mpr ⟨child, ends⟩, rfl⟩

/-- The files that parts of a pattern find, with no one twice. -/
theorem filesFound_eq_ok {parts : List GlobPart} {found : List String}
    (searched : volume.filesFound parts place = .ok found) :
    found.Nodup ∧ ∃ names files, volume.select parts place = .ok names ∧
      names.filterM (fun spot => volume.isFile (placeText spot)) = .ok files ∧
      ∀ path, path ∈ found ↔ ∃ spot ∈ files, placeText spot = path := by
  obtain ⟨names, selected, searched⟩ := bind_eq_ok_iff.mp searched
  obtain ⟨files, filtered, searched⟩ := bind_eq_ok_iff.mp searched
  obtain rfl := Except.ok.inj searched
  have sorted := sortStrings_perm (files.map placeText).eraseDups
  refine ⟨sorted.nodup_iff.mpr (nodup_eraseDups _), names, files, selected, filtered,
    fun path => ?_⟩
  rw [sorted.mem_iff, List.mem_eraseDups, List.mem_map]

/-- The ways in which a search comes to its end. -/
theorem glob_eq_ok {path ending : String} {found : List String}
    (globbed : volume.glob path ending = .ok found) :
    ∃ place answer, volume.resolve path = .ok place ∧
      volume.isDirectory (placeText place) = .ok answer ∧
      (answer = true ∧ (∃ parts, Glob.parts? (patternOf ending) = some parts ∧
          volume.filesFound parts place = .ok found) ∨
        answer = false ∧ found =
          if endsWith (place.getLast?.getD "") ending then [placeText place] else []) := by
  obtain ⟨place, resolved, globbed⟩ := bind_eq_ok_iff.mp globbed
  obtain ⟨answer, asked, globbed⟩ := bind_eq_ok_iff.mp globbed
  refine ⟨place, answer, resolved, asked, ?_⟩
  cases answer with
  | true =>
    rw [if_pos rfl] at globbed
    split at globbed
    · rename_i parts split
      exact .inl ⟨rfl, parts, split, globbed⟩
    · cases globbed
  | false =>
    rw [if_neg Bool.false_ne_true] at globbed
    refine .inr ⟨rfl, ?_⟩
    split at globbed
    · rw [if_pos ‹_›]
      exact (Except.ok.inj globbed).symm
    · rw [if_neg ‹_›]
      exact (Except.ok.inj globbed).symm

/-- A search finds nothing twice. -/
theorem nodup_glob {path ending : String} {found : List String}
    (globbed : volume.glob path ending = .ok found) : found.Nodup := by
  obtain ⟨place, answer, -, -, ⟨-, parts, -, searched⟩ | ⟨-, rfl⟩⟩ := glob_eq_ok globbed
  · exact (filesFound_eq_ok searched).1
  · split
    · exact List.pairwise_singleton _ _
    · exact List.nodup_nil

/-- The files found in and below a directory are the dumps for which it stands. -/
theorem mem_filesFound_iff (tree : volume.Tree) (directory : volume.get? place = some .directory)
    {dump : String} {found : List String}
    (searched : volume.filesFound
      [.subtree, .pattern (.star :: dumpEnding.toList.map .literal)] place = .ok found) :
    dump ∈ found ↔ ∃ spot, volume.StandsFor place spot ∧ placeText spot = dump := by
  obtain ⟨-, names, files, selected, filtered, members⟩ := filesFound_eq_ok searched
  have selects (spot : Place) := @mem_select volume place spot tree directory names selected
  rw [members]
  refine exists_congr fun spot => and_congr_left fun _ => ?_
  rw [mem_filterM filtered]
  constructor
  · rintro ⟨member, isFile⟩
    obtain ⟨below, name, rfl, named, -, entry, stands⟩ := (selects spot).mp member
    obtain ⟨octets, file⟩ := (isFile_placeText tree (tree.legal_of_get? stands) isFile).mp rfl
    exact .inside directory ⟨below ++ [name], (List.append_assoc ..).symm⟩ file named
  · intro stands
    cases stands with
    | itself other => exact absurd directory other
    | @inside _ octets _ below file named =>
      obtain ⟨rest, rfl⟩ := below
      rcases List.eq_nil_or_concat rest with rfl | ⟨below, name, rfl⟩
      · rw [List.append_nil, directory] at file
        cases file
      · rw [List.concat_eq_append, ← List.append_assoc] at file named ⊢
        have member := (selects (place ++ below ++ [name])).mpr
          ⟨below, name, rfl, named, tree.directory_of_get? file, _, file⟩
        obtain ⟨flag, asked⟩ := exists_of_filterM filtered member
        have isFile := (isFile_placeText tree (tree.legal_of_get? file) asked).mpr ⟨_, file⟩
        exact ⟨member, isFile ▸ asked⟩

/-- A search in a tree that comes to its end finds the dumps for which its path stands. -/
theorem mem_glob_iff (tree : volume.Tree) {path dump : String} {found : List String}
    (resolved : volume.resolve path = .ok place)
    (globbed : volume.glob path dumpEnding = .ok found) :
    dump ∈ found ↔ ∃ spot, volume.StandsFor place spot ∧ placeText spot = dump := by
  have legal := tree.legal_of_resolve resolved
  obtain ⟨other, answer, same, asked, ended⟩ := glob_eq_ok globbed
  obtain rfl := Except.ok.inj (resolved.symm.trans same)
  have isDirectory := isDirectory_placeText tree legal asked
  rcases ended with ⟨rfl, parts, pattern, searched⟩ | ⟨rfl, rfl⟩
  · obtain rfl := Option.some.inj (Glob.parts?_dumps.symm.trans pattern)
    exact mem_filesFound_iff tree (isDirectory.mp rfl) searched
  · have noDirectory : volume.get? place ≠ some .directory := fun directory => by
      cases isDirectory.mpr directory
    constructor
    · intro member
      split at member
      · exact ⟨place, .itself noDirectory ‹_›, (List.mem_singleton.mp member).symm⟩
      · cases member
    · rintro ⟨spot, stands, rfl⟩
      cases stands with
      | inside directory => exact absurd directory noDirectory
      | itself other named =>
        rw [NamesDump] at named
        rw [if_pos named]
        exact List.mem_singleton_self _

/-- Dumps lie under legal names. -/
theorem StandsFor.legal (stands : volume.StandsFor place spot) (tree : volume.Tree)
    (legal : ∀ name ∈ place, IsLegal name) : ∀ name ∈ spot, IsLegal name := by
  cases stands with
  | inside _ _ file => exact tree.legal_of_get? file
  | itself => exact legal

/-- The dumps for which a path stands lie at or below the place to which it is resolved. -/
theorem StandsFor.below (stands : volume.StandsFor place spot) : place <+: spot := by
  cases stands with
  | inside directory below => exact below
  | itself => exact List.prefix_rfl

/-- Two paths stand for one dump only when one of them is resolved to a place at or below that of
the other. -/
theorem StandsFor.nested {other : Place} (stands : volume.StandsFor place spot)
    (too : volume.StandsFor other spot) : place <+: other ∨ other <+: place :=
  List.prefix_or_prefix_of_prefix stands.below too.below

/-- A directory stands for every dump that is there and for which a place below it stands. -/
theorem StandsFor.of_below {other : Place} {octets : List UInt8}
    (directory : volume.get? place = some .directory) (nested : place <+: other)
    (stands : volume.StandsFor other spot) (file : volume.get? spot = some (.file octets)) :
    volume.StandsFor place spot := by
  refine .inside directory (nested.trans stands.below) file ?_
  cases stands with
  | inside _ _ _ named => exact named
  | itself _ named => exact named

end Volume

end TagOrder
