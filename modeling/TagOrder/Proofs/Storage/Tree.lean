import TagOrder.Proofs.Storage.Volume

/-!
# Volumes that are trees

Whatever stands in a volume that is a tree stands where its names lead (`Volume.Tree`). There a
place and its text say the same: the text is read as the names of the place
(`Volume.ofString_placeText`), and asking for it tells what stands at the place
(`Volume.entryAt?_placeText`). Resolving a path gives a place of legal names, however the path is
spelled (`Volume.Tree.legal_of_resolve`).
-/

namespace TagOrder

/-- No piece of a cut text holds a character that the text does not. -/
theorem Text.mem_of_mem_splitAt {separator c : Char} {text piece : Text}
    (member : piece ∈ Text.splitAt separator text) (inside : c ∈ piece) : c ∈ text := by
  induction text generalizing piece with
  | nil =>
    obtain rfl := List.mem_singleton.mp member
    exact inside
  | cons first rest ih =>
    rw [Text.splitAt] at member
    by_cases here : first = separator
    · rw [if_pos here] at member
      rcases List.mem_cons.mp member with rfl | later
      · cases inside
      · exact List.mem_cons_of_mem _ (ih later inside)
    · rw [if_neg here] at member
      cases cut : Text.splitAt separator rest with
      | nil =>
        rw [cut] at member
        obtain rfl := List.mem_singleton.mp member
        exact List.mem_singleton.mp inside ▸ List.mem_cons_self
      | cons head others =>
        rw [cut] at ih member
        rcases List.mem_cons.mp member with rfl | later
        · rcases List.mem_cons.mp inside with rfl | inside
          · exact List.mem_cons_self
          · exact List.mem_cons_of_mem _ (ih List.mem_cons_self inside)
        · exact List.mem_cons_of_mem _ (ih (List.mem_cons_of_mem _ later) inside)

/-- Joined texts hold nothing but what the texts and the separator hold. -/
theorem mem_of_mem_intercalate {separator : Text} {texts : List Text} {c : Char}
    (member : c ∈ separator.intercalate texts) : c ∈ separator ∨ ∃ text ∈ texts, c ∈ text := by
  induction texts with
  | nil => cases member
  | cons text rest ih =>
    cases rest with
    | nil =>
      rw [List.intercalate_singleton] at member
      exact .inr ⟨text, List.mem_cons_self, member⟩
    | cons next others =>
      rw [List.intercalate_cons_cons, List.mem_append, List.mem_append] at member
      rcases member with (here | between) | later
      · exact .inr ⟨text, List.mem_cons_self, here⟩
      · exact .inl between
      · exact (ih later).imp_right fun ⟨other, listed, inside⟩ =>
          ⟨other, List.mem_cons_of_mem _ listed, inside⟩

namespace Volume

/-- A character that can stand in a path: no NUL, and half of a surrogate pair only where it stands
for an octet. -/
def IsSpelled (c : Char) : Prop :=
  (isSurrogate c = true → 0xDC80 ≤ codePoint c ∧ codePoint c ≤ 0xDCFF) ∧ c ≠ '\x00'

instance (c : Char) : Decidable (IsSpelled c) := inferInstanceAs (Decidable (_ ∧ _))

/-- A name that an entry can have. -/
structure IsLegal (name : String) : Prop extends Path.IsName name where
  upward : name ≠ ".."
  spelled : ∀ c ∈ name.toList, IsSpelled c

instance (name : String) : Decidable (IsLegal name) :=
  decidable_of_iff
    ((name ≠ "" ∧ name ≠ "." ∧ '/' ∉ name.toList) ∧ name ≠ ".." ∧
      (name.toList.all fun c => decide (IsSpelled c)) = true)
    (by
      rw [List.all_eq_true]
      simp only [decide_eq_true_eq]
      exact ⟨fun ⟨⟨nonempty, noDot, whole⟩, upward, spelled⟩ =>
          ⟨⟨nonempty, noDot, whole⟩, upward, spelled⟩,
        fun legal => ⟨⟨legal.nonempty, legal.noDot, legal.whole⟩, legal.upward, legal.spelled⟩⟩)

theorem encodeFaultFrom_eq_none_iff {spares : Char -> Bool} {start : Nat} {text : Text} :
    Utf8.encodeFaultFrom spares start text = none ↔
      ∀ c ∈ text, isSurrogate c = true → spares c = true := by
  induction text generalizing start with
  | nil => simp [Utf8.encodeFaultFrom]
  | cons c rest ih =>
    rw [Utf8.encodeFaultFrom, List.forall_mem_cons]
    by_cases faulty : (isSurrogate c && !spares c) = true
    · rw [if_pos faulty]
      rw [Bool.and_eq_true, Bool.not_eq_true'] at faulty
      simp [faulty.1, faulty.2]
    · rw [if_neg faulty, ih, and_iff_right]
      intro half
      simpa [half] using faulty

/-- A text is a path just when each of its characters can stand in one. -/
theorem pathFault?_eq_none_iff {given : String} :
    pathFault? given = none ↔ ∀ c ∈ given.toList, IsSpelled c := by
  have apart : (∀ c ∈ given.toList, IsSpelled c) ↔
      (∀ c ∈ given.toList, isSurrogate c = true →
        (decide (0xDC80 ≤ codePoint c) && decide (codePoint c ≤ 0xDCFF)) = true) ∧
      '\x00' ∉ given.toList := by
    constructor
    · intro spelled
      refine ⟨fun c member half => ?_, fun member => (spelled _ member).2 rfl⟩
      obtain ⟨low, high⟩ := (spelled c member).1 half
      simp [low, high]
    · rintro ⟨halves, noNul⟩ c member
      refine ⟨fun half => ?_, fun same => noNul (same ▸ member)⟩
      simpa using halves c member half
  rw [apart, ← @encodeFaultFrom_eq_none_iff _ 0]
  unfold pathFault?
  dsimp only
  split
  · rename_i error faulty
    simp [faulty]
  · rename_i faultless
    simp [faultless]

variable {volume : Volume} {place : Place}

section Text

/-- The text of a place is read as the names of the place. -/
theorem ofString_placeText (legal : ∀ name ∈ place, IsLegal name) :
    Path.ofString (placeText place) = ⟨"/", place⟩ := by
  have tidy : Path.Tidy ⟨"/", place⟩ :=
    ⟨fun name member => (legal name member).toIsName, .inr (.inl rfl)⟩
  exact tidy.ofString_toString

theorem placeText_injective {other : Place} (legal : ∀ name ∈ place, IsLegal name)
    (otherLegal : ∀ name ∈ other, IsLegal name) (same : placeText place = placeText other) :
    place = other := by
  have paths := congrArg Path.ofString same
  rw [ofString_placeText legal, ofString_placeText otherLegal] at paths
  exact (Path.mk.inj paths).2

theorem tidyPath_placeText (legal : ∀ name ∈ place, IsLegal name) :
    tidyPath (placeText place) = placeText place := by
  rw [tidyPath, ofString_placeText legal]
  rfl

theorem pathFault?_placeText (legal : ∀ name ∈ place, IsLegal name) :
    pathFault? (placeText place) = none := by
  rw [pathFault?_eq_none_iff]
  intro c member
  rw [placeText, String.toList_append, String.toList_intercalate, List.mem_append] at member
  have slash : ∀ c, c ∈ "/".toList → IsSpelled c := by
    intro c member
    obtain rfl : c = '/' := List.mem_singleton.mp member
    decide +kernel
  rcases member with first | inside
  · exact slash c first
  · rcases mem_of_mem_intercalate inside with between | ⟨letters, listed, within⟩
    · exact slash c between
    · obtain ⟨name, member, rfl⟩ := List.mem_map.mp listed
      exact (legal name member).spelled c within

/-- The text of a place ends in its last name, which does not ask for a directory. -/
theorem asksDirectory_placeText (legal : ∀ name ∈ place, IsLegal name) (below : place ≠ []) :
    asksDirectory (placeText place) = false := by
  have apart : ∀ letters ∈ [] :: place.map String.toList, '/' ∉ letters := by
    intro letters member
    rcases List.mem_cons.mp member with rfl | listed
    · exact List.not_mem_nil
    · obtain ⟨name, inside, rfl⟩ := List.mem_map.mp listed
      exact (legal name inside).whole
  have letters : (placeText place).toList =
      "/".toList.intercalate ([] :: place.map String.toList) := by
    obtain ⟨name, others, rfl⟩ := List.exists_cons_of_ne_nil below
    rw [placeText, String.toList_append, String.toList_intercalate, List.map_cons,
      List.intercalate_cons_cons]
    rfl
  have cut : Text.splitAt '/' (placeText place).toList = [] :: place.map String.toList := by
    rw [Text.splitAt_eq_splitOn, letters]
    exact List.splitOn_intercalate '/' apart (List.cons_ne_nil _ _)
  have last : baseName (placeText place) = place.getLast below := by
    rw [baseName, cut, List.getLast?_cons, List.getLast?_map, List.getLast?_eq_some_getLast below]
    simp
  have name := legal _ (List.getLast_mem below)
  rw [asksDirectory, last, beq_eq_false_iff_ne.mpr name.nonempty,
    beq_eq_false_iff_ne.mpr name.noDot]
  rfl

end Text

/-- Names are followed one after the other. -/
theorem walk_append (start : Place) (names others : List String) :
    volume.walk start (names ++ others) =
      (volume.walk start names).bind fun place => volume.walk place others := by
  induction names generalizing start with
  | nil => rfl
  | cons name rest ih =>
    rw [List.cons_append, walk, walk]
    split
    · split
      · exact ih _
      · split
        · rfl
        · exact ih _
    · rfl
    · rfl

/-- Names that do not lead back lead to what they name. -/
theorem eq_of_walk {start other : Place} {names : List String}
    (onward : ∀ name ∈ names, name ≠ "..")
    (led : volume.walk start names = .ok other) : other = start ++ names := by
  induction names generalizing start with
  | nil => rw [← Except.ok.inj led, List.append_nil]
  | cons name rest ih =>
    rw [List.forall_mem_cons] at onward
    rw [walk] at led
    split at led
    · rw [if_neg onward.1] at led
      split at led
      · cases led
      · rw [ih onward.2 led, List.append_assoc, List.singleton_append]
    · cases led
    · cases led

/-- What a name leads on from is a directory. -/
theorem directory_of_walk {start other : Place} {name : String}
    (led : volume.walk start [name] = .ok other) : volume.get? start = some .directory := by
  rw [walk] at led
  split at led
  · assumption
  · cases led
  · cases led

/-- A volume in which everything stands where its names lead, under names that it can have. -/
structure Tree (volume : Volume) : Prop where
  legal : ∀ stored ∈ volume.entries, ∀ name ∈ stored.1, IsLegal name
  reached : ∀ stored ∈ volume.entries, volume.walk [] stored.1 = .ok stored.1
  stands : ∀ stored ∈ volume.entries, volume.get? stored.1 = some stored.2
  here : ∀ name ∈ volume.here, IsLegal name

namespace Tree

variable {entry : Entry}

theorem mem_entries (stands : volume.get? place = some entry) (below : place ≠ []) :
    (place, entry) ∈ volume.entries := by
  rw [get?, if_neg below] at stands
  obtain ⟨before, after, whole, -⟩ := List.lookup_eq_some_iff.mp stands
  rw [whole]
  exact List.mem_append_right _ List.mem_cons_self

theorem legal_of_get? (tree : volume.Tree) (stands : volume.get? place = some entry) :
    ∀ name ∈ place, IsLegal name := by
  by_cases below : place = []
  · subst below
    exact fun name member => by cases member
  · exact tree.legal _ (mem_entries stands below)

theorem walk_of_get? (tree : volume.Tree) (stands : volume.get? place = some entry) :
    volume.walk [] place = .ok place := by
  by_cases below : place = []
  · subst below
    rfl
  · exact tree.reached _ (mem_entries stands below)

/-- What stands below a place stands in a directory. -/
theorem directory_of_get? (tree : volume.Tree) {name : String}
    (stands : volume.get? (place ++ [name]) = some entry) :
    volume.get? place = some .directory := by
  have legal := tree.legal_of_get? stands
  have led := tree.walk_of_get? stands
  rw [walk_append] at led
  cases before : volume.walk [] place with
  | error fault =>
    rw [before] at led
    cases led
  | ok other =>
    rw [before] at led
    have onward : ∀ name ∈ place, name ≠ ".." := fun name member =>
      (legal name (List.mem_append_left _ member)).upward
    obtain rfl : other = place := eq_of_walk onward before
    exact directory_of_walk led

end Tree

/-- Where something stands, its text leads, unless it is too long to be asked for. -/
theorem locate_placeText (legal : ∀ name ∈ place, IsLegal name)
    (led : volume.walk [] place = .ok place) (short : ¬ pathLimit ≤ octetCount (placeText place)) :
    volume.locate (placeText place) = .ok place := by
  refine locate_eq_ok_iff.mpr ⟨pathFault?_placeText legal, ?_, short, ?_, ?_⟩
  · intro none
    have paths := congrArg Path.ofString none
    rw [ofString_placeText legal] at paths
    have rooted : "/" ≠ (Path.ofString "").root := by decide
    exact rooted (congrArg Path.root paths)
  · rw [ofString_placeText legal]
    exact led
  · intro asks octets stands
    by_cases below : place = []
    · subst below
      cases stands
    · rw [asksDirectory_placeText legal below] at asks
      cases asks

/-- A path that takes too many octets is not looked up. -/
theorem locate_of_long {given : String} (faultless : pathFault? given = none)
    (long : pathLimit ≤ octetCount given) : volume.locate given = .error (.tooLong given) := by
  have named : given ≠ "" := by
    rintro rfl
    exact absurd long (by decide)
  rw [locate, faultless]
  dsimp only
  rw [if_neg named, if_pos long]

/-- Asking for the text of a place tells what stands there. -/
theorem entryAt?_placeText (tree : volume.Tree) (legal : ∀ name ∈ place, IsLegal name)
    {entry : Option Entry} (asked : volume.entryAt? (placeText place) = .ok entry) :
    entry = volume.get? place := by
  -- The equation of this definition is slow to derive.
  delta entryAt? at asked
  rw [tidyPath_placeText legal] at asked
  cases located : volume.locate (placeText place) with
  | ok other =>
    rw [located] at asked
    have led := (locate_eq_ok_iff.mp located).found
    rw [ofString_placeText legal] at led
    obtain rfl : other = place := eq_of_walk (fun name member => (legal name member).upward) led
    exact (Except.ok.inj asked).symm
  | error error =>
    by_contra different
    rw [located] at asked
    by_cases long : pathLimit ≤ octetCount (placeText place)
    · rw [locate_of_long (pathFault?_placeText legal) long] at located
      obtain rfl := Except.error.inj located
      cases asked
    · cases stands : volume.get? place with
      | some found =>
        rw [locate_placeText legal (tree.walk_of_get? stands) long] at located
        cases located
      | none =>
        rw [stands] at different
        cases error with
        | tooLong path => cases asked
        | _ => exact different (Except.ok.inj asked).symm

theorem isDirectory_placeText (tree : volume.Tree) (legal : ∀ name ∈ place, IsLegal name)
    {answer : Bool} (asked : volume.isDirectory (placeText place) = .ok answer) :
    answer = true ↔ volume.get? place = some .directory := by
  rw [isDirectory] at asked
  obtain ⟨entry, found, rfl⟩ := map_eq_ok_iff.mp asked
  rw [entryAt?_placeText tree legal found, beq_iff_eq]

theorem isFile_placeText (tree : volume.Tree) (legal : ∀ name ∈ place, IsLegal name)
    {answer : Bool} (asked : volume.isFile (placeText place) = .ok answer) :
    answer = true ↔ ∃ octets, volume.get? place = some (.file octets) := by
  rw [isFile] at asked
  obtain ⟨entry, found, rfl⟩ := map_eq_ok_iff.mp asked
  rw [entryAt?_placeText tree legal found]
  cases volume.get? place with
  | none => simp
  | some entry => cases entry <;> simp

/-- Folding names keeps to legal ones. -/
theorem legal_foldNames {names : List String} (legal : ∀ name ∈ place, IsLegal name)
    (given : ∀ name ∈ names, Path.IsName name ∧ ∀ c ∈ name.toList, IsSpelled c) :
    ∀ name ∈ foldNames place names, IsLegal name := by
  induction names generalizing place with
  | nil => exact legal
  | cons name rest ih =>
    rw [List.forall_mem_cons] at given
    refine ih ?_ given.2
    by_cases upward : name = ".."
    · rw [if_pos upward]
      exact fun other member => legal other ((List.dropLast_sublist place).subset member)
    · rw [if_neg upward]
      exact List.forall_mem_append.mpr ⟨legal, List.forall_mem_singleton.mpr
        ⟨given.1.1, upward, given.1.2⟩⟩

/-- However a path is spelled, it is resolved to a place of legal names. -/
theorem Tree.legal_of_resolve (tree : volume.Tree) {path : String}
    (resolved : volume.resolve path = .ok place) : ∀ name ∈ place, IsLegal name := by
  unfold resolve at resolved
  cases fault : pathFault? path with
  | some error =>
    rw [fault] at resolved
    cases resolved
  | none =>
    rw [fault] at resolved
    obtain rfl := Except.ok.inj resolved
    refine legal_foldNames ?_ fun name member => ⟨(Path.tidy_ofString path).names name member, ?_⟩
    · unfold origin
      split
      · exact tree.here
      · exact fun name member => by cases member
    · intro c inside
      obtain ⟨piece, -⟩ := List.mem_filter.mp member
      obtain ⟨letters, cut, rfl⟩ := List.mem_map.mp piece
      rw [String.toList_ofList] at inside
      exact pathFault?_eq_none_iff.mp fault c (Text.mem_of_mem_splitAt cut inside)

end Volume

end TagOrder
