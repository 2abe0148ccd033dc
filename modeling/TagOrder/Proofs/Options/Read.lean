import Mathlib.Data.List.Induction
import TagOrder.Fault
import TagOrder.Proofs.Options.Order

/-!
# Which options are accepted

Options are accepted exactly when each is set to a value of its form or not at all
(`Options.IsSet`). Of the fields that spell one option the last decides (`Options.settingOf`). Any
other options are refused as configuration, unless the value to be shown in the refusal is beyond
the limits of what can be shown: that ends the reading in its own way
(`Options.read_accepts`, `Options.read_longNumber`).
-/

namespace TagOrder

namespace Fields

variable {fields : Fields} {key name : String} {value : Value}

/-- Setting a key adds no other key. -/
theorem mem_keys_set :
    name ∈ (fields.set key value).map Prod.fst ↔ name = key ∨ name ∈ fields.map Prod.fst := by
  induction fields with
  | nil => simp [set]
  | cons field rest ih =>
    obtain ⟨other, old⟩ := field
    unfold set
    by_cases same : other = key
    · simp [same]
    · rw [if_neg same, List.map_cons, List.mem_cons, ih, List.map_cons, List.mem_cons]
      exact or_left_comm

end Fields

namespace Value

mutual

/-- What can be shown so many levels deep can be shown when more levels are allowed. -/
theorem limitFault?_mono {levels more : Nat} (le : levels ≤ more) (value : Value)
    (clear : value.limitFault? levels = none) : value.limitFault? more = none := by
  unfold limitFault? at clear ⊢
  by_cases ground : levels = 0
  · rw [if_pos ground] at clear
    cases clear
  · rw [if_neg ground] at clear
    rw [if_neg (by omega)]
    cases value with
    | list items => exact limitFaultAmong?_mono (by omega) items clear
    | table fields => exact limitFaultOfFields?_mono (by omega) fields clear
    | _ => exact clear

theorem limitFaultAmong?_mono {levels more : Nat} (le : levels ≤ more) (items : List Value)
    (clear : limitFaultAmong? levels items = none) : limitFaultAmong? more items = none := by
  cases items with
  | nil => rfl
  | cons item rest =>
    obtain ⟨here, later⟩ := Option.or_eq_none_iff.mp clear
    exact Option.or_eq_none_iff.mpr
      ⟨limitFault?_mono le item here, limitFaultAmong?_mono le rest later⟩

theorem limitFaultOfFields?_mono {levels more : Nat} (le : levels ≤ more)
    (fields : List (String × Value)) (clear : limitFaultOfFields? levels fields = none) :
    limitFaultOfFields? more fields = none := by
  cases fields with
  | nil => rfl
  | cons field rest =>
    obtain ⟨name, value⟩ := field
    obtain ⟨here, later⟩ := Option.or_eq_none_iff.mp clear
    exact Option.or_eq_none_iff.mpr
      ⟨limitFault?_mono le value here, limitFaultOfFields?_mono le rest later⟩

end

theorem limitFault?_of_mem {levels : Nat} {items : List Value} {item : Value}
    (clear : limitFaultAmong? levels items = none) (member : item ∈ items) :
    item.limitFault? levels = none := by
  induction items with
  | nil => cases member
  | cons first rest ih =>
    obtain ⟨here, later⟩ := Option.or_eq_none_iff.mp clear
    rcases List.mem_cons.mp member with rfl | member
    · exact here
    · exact ih later member

/-- The items of a list that can be shown can be shown. -/
theorem isShowable_of_mem {levels : Nat} {items : List Value} {item : Value}
    (shown : (Value.list items).isShowable levels) (member : item ∈ items) :
    item.isShowable levels := by
  unfold isShowable at shown ⊢
  rw [Option.isNone_iff_eq_none] at shown ⊢
  unfold limitFault? at shown
  split at shown
  · cases shown
  · exact limitFault?_mono (Nat.sub_le levels 1) item (limitFault?_of_mem shown member)

end Value

namespace Options

/-- What fields set an option to: the last of its spellings decides. -/
def settingOf (fields : Fields) (key : String) : Option Value :=
  (fields.reverse.find? fun field => canonicalKey field.1 == key).map Prod.snd

/-- An order, or null for the standard one. -/
def IsOrderValue (value : Value) : Prop :=
  value = .null ∨ ∃ entries, value = .list entries ∧ IsOrder entries

/-- A boolean. -/
def IsBoolean (value : Value) : Prop := ∃ holds, value = .bool holds

/-- A table with a list of different texts under its one key, or null for none. -/
def IsExceptions (value : Value) : Prop :=
  value = .null ∨ ∃ fields, ∃ names : List String, value = .table fields ∧
    (∀ field ∈ fields, canonicalKey field.1 = "ontop") ∧
    settingOf fields "ontop" = some (.list (names.map .text)) ∧ names.Nodup

/-- A positive number, or null for the usual one. -/
def IsPassCount (value : Value) : Prop :=
  value = .null ∨ ∃ count : Nat, 0 < count ∧ value = .int count

/-- Fields in which every option that is set has a value of its form. -/
structure IsSet (fields : Fields) : Prop where
  order : ∀ value ∈ settingOf fields "order", IsOrderValue value
  alphabetical : ∀ value ∈ settingOf fields "alphabetical", IsBoolean value
  plainBeforeBound : ∀ value ∈ settingOf fields "otherattrsbind", IsBoolean value
  exceptions : ∀ value ∈ settingOf fields "otherattrsexceptions", IsExceptions value
  maxPasses : ∀ value ∈ settingOf fields "maxfixpasses", IsPassCount value

section Fields

variable {fields : Fields} {key name : String} {value : Value}

theorem canonicalFields_concat (fields : Fields) (key : String) (value : Value) :
    canonicalFields (fields ++ [(key, value)]) =
      (canonicalFields fields).set (canonicalKey key) value := by
  simp [canonicalFields, List.foldl_append]

/-- Under a canonical key stands what fields set it to. -/
theorem get?_canonicalFields (fields : Fields) (key : String) :
    (canonicalFields fields).get? key = settingOf fields key := by
  induction fields using List.reverseRecOn with
  | nil => rfl
  | append_singleton fields field ih =>
    obtain ⟨name, value⟩ := field
    rw [canonicalFields_concat, settingOf, List.reverse_concat, List.find?_cons]
    by_cases same : canonicalKey name = key
    · subst same
      simp [Fields.get?_set]
    · rw [beq_eq_false_iff_ne.mpr same, Fields.get?_set_of_ne _ _ (Ne.symm same), ih]
      rfl

theorem mem_keys_canonicalFields :
    name ∈ (canonicalFields fields).map Prod.fst ↔
      ∃ field ∈ fields, canonicalKey field.1 = name := by
  induction fields using List.reverseRecOn with
  | nil => simp [canonicalFields]
  | append_singleton fields field ih =>
    obtain ⟨other, value⟩ := field
    rw [canonicalFields_concat, Fields.mem_keys_set, ih]
    simp only [List.mem_append, List.mem_singleton, or_and_right, exists_or, exists_eq_left]
    rw [or_comm, eq_comm]

/-- What an option is set to stands in one of the fields. -/
theorem exists_field_of_mem_settingOf (given : value ∈ settingOf fields key) :
    ∃ field ∈ fields, field.2 = value := by
  obtain ⟨field, found, rfl⟩ := Option.map_eq_some_iff.mp given
  exact ⟨field, List.mem_reverse.mp (List.mem_of_find?_eq_some found), rfl⟩

end Fields

section Readers

variable {levels : Nat} {value : Value}

theorem readTexts_eq_some_iff {values : List Value} {names : List String} :
    readTexts values = some names ↔ values = names.map .text := by
  induction values generalizing names with
  | nil => simp [readTexts, eq_comm]
  | cons value rest ih =>
    cases value with
    | text name =>
      simp only [readTexts, Option.map_eq_some_iff, ih]
      constructor
      · rintro ⟨others, rfl, rfl⟩
        rfl
      · intro same
        obtain ⟨first, others, rfl, named, later⟩ := List.map_eq_cons_iff.mp same.symm
        obtain rfl := Value.text.inj named
        exact ⟨others, later.symm, rfl⟩
    | _ =>
      simp only [readTexts, reduceCtorEq, false_iff]
      intro same
      obtain ⟨first, others, -, named, -⟩ := List.map_eq_cons_iff.mp same.symm
      cases named

theorem exists_readOrder_iff (levels : Nat) :
    (∃ order, readOrder levels value = .ok order) ↔ IsOrderValue value := by
  unfold IsOrderValue
  cases value with
  | list entries => simp [← isOrder_iff levels]
  | _ => simp [readOrder]

theorem exists_readBoolean_iff (levels : Nat) (key : String) :
    (∃ holds, readBoolean levels key value = .ok holds) ↔ IsBoolean value := by
  unfold IsBoolean
  cases value with
  | bool holds => simp [readBoolean]
  | _ => simp [readBoolean]

theorem exists_readMaxPasses_iff (levels : Nat) :
    (∃ count, readMaxPasses levels value = .ok count) ↔ IsPassCount value := by
  unfold IsPassCount
  constructor
  · rintro ⟨count, read⟩
    unfold readMaxPasses at read
    split at read
    · exact .inl rfl
    · exact .inr ⟨_, Nat.succ_pos _, rfl⟩
    · cases read
  · rintro (rfl | ⟨count, positive, rfl⟩)
    · exact ⟨10, rfl⟩
    · obtain ⟨count, rfl⟩ := Nat.exists_eq_add_one.mpr positive
      exact ⟨count + 1, rfl⟩

/-- The qualifiers are read from a list of different texts, each from one of them. -/
theorem readOnTop_eq_ok_iff {given : Option Value} {onTop : OnTop} :
    readOnTop given = .ok onTop ↔
      ∃ names : List String, given = some (.list (names.map .text)) ∧ names.Nodup ∧
        names.map Qualifier.ofString = onTop := by
  constructor
  · intro read
    unfold readOnTop at read
    split at read
    · split at read
      · cases read
      · rename_i names texts
        split at read
        · rename_i distinct
          exact ⟨names, by rw [readTexts_eq_some_iff.mp texts], distinct, Except.ok.inj read⟩
        · cases read
    · cases read
  · rintro ⟨names, rfl, distinct, rfl⟩
    rw [readOnTop, readTexts_eq_some_iff.mpr rfl]
    exact if_pos distinct

/-- No key is unknown when every one spells the one that is known. -/
theorem unknown_eq_nil_iff {fields : Fields} {known : String} :
    ((canonicalFields fields).map Prod.fst).filter (· != known) = [] ↔
      ∀ field ∈ fields, canonicalKey field.1 = known := by
  rw [List.filter_eq_nil_iff]
  constructor
  · intro clear field member
    simpa using clear _ (mem_keys_canonicalFields.mpr ⟨field, member, rfl⟩)
  · intro spelled name member
    obtain ⟨field, inside, rfl⟩ := mem_keys_canonicalFields.mp member
    simp [spelled field inside]

/-- The exceptions are read from a table of the form they have, or are none for null. -/
theorem readExceptions_eq_ok_iff {onTop : Option OnTop} :
    readExceptions levels value = .ok onTop ↔
      (value = .null ∧ onTop = none) ∨
        ∃ fields, ∃ names : List String, value = .table fields ∧
          (∀ field ∈ fields, canonicalKey field.1 = "ontop") ∧
          settingOf fields "ontop" = some (.list (names.map .text)) ∧ names.Nodup ∧
          some (names.map Qualifier.ofString) = onTop := by
  constructor
  · intro read
    cases value with
    | null => exact .inl ⟨rfl, (Except.ok.inj read).symm⟩
    | table fields =>
      dsimp only [readExceptions] at read
      split at read
      · rename_i clear
        obtain ⟨inner, listed, rfl⟩ := map_eq_ok_iff.mp read
        rw [get?_canonicalFields] at listed
        obtain ⟨names, given, distinct, rfl⟩ := readOnTop_eq_ok_iff.mp listed
        exact .inr ⟨fields, names, rfl, unknown_eq_nil_iff.mp clear, given, distinct, rfl⟩
      · cases read
    | _ => cases read
  · rintro (⟨rfl, rfl⟩ | ⟨fields, names, rfl, spelled, given, distinct, rfl⟩)
    · rfl
    · dsimp only [readExceptions]
      rw [unknown_eq_nil_iff.mpr spelled, get?_canonicalFields,
        readOnTop_eq_ok_iff.mpr ⟨names, given, distinct, rfl⟩]
      rfl

theorem exists_readExceptions_iff (levels : Nat) :
    (∃ onTop, readExceptions levels value = .ok onTop) ↔ IsExceptions value := by
  simp only [readExceptions_eq_ok_iff]
  constructor
  · rintro ⟨onTop, ⟨null, -⟩ | ⟨fields, names, table, spelled, given, distinct, -⟩⟩
    · exact .inl null
    · exact .inr ⟨fields, names, table, spelled, given, distinct⟩
  · rintro (null | ⟨fields, names, table, spelled, given, distinct⟩)
    · exact ⟨none, .inl ⟨null, rfl⟩⟩
    · exact ⟨_, .inr ⟨fields, names, table, spelled, given, distinct, rfl⟩⟩

end Readers

section Limits

variable {levels : Nat} {value : Value} {limit : LimitFault}

/-- A refusal goes beyond the limits only when the value that it shows does. -/
theorem unshowable_of_refusing {cause : Value -> OptionsError}
    (refused : OptionsError.refusing levels cause value = .beyond limit)
    (plain : ∀ value, cause value ≠ .beyond limit) : value.isShowable levels = false := by
  unfold OptionsError.refusing at refused
  unfold Value.isShowable
  split at refused
  · exact absurd refused (plain value)
  · rename_i found
    rw [found]
    rfl

theorem unshowable_of_readCategory {seen : List Category}
    (read : readCategory levels seen value = .error (.beyond limit)) :
    value.isShowable levels = false := by
  unfold readCategory at read
  split at read
  · split at read
    · cases read
    · split at read <;> cases read
  · exact unshowable_of_refusing (Except.error.inj read) nofun

/-- A list that holds what cannot be shown cannot be shown. -/
theorem unshowable_list_of_mem {items : List Value} (member : value ∈ items)
    (large : value.isShowable levels = false) : (Value.list items).isShowable levels = false := by
  refine Bool.eq_false_iff.mpr fun shown => ?_
  exact Bool.false_ne_true (large.symm.trans (Value.isShowable_of_mem shown member))

theorem unshowable_of_readEntry {seen : List Category}
    (read : readEntry levels seen value = .error (.beyond limit)) :
    value.isShowable levels = false := by
  unfold readEntry at read
  split at read
  · cases read
  · obtain ⟨name, member, seen, read⟩ :=
      (readsEach_categories levels).exists_of_eq_error (map_eq_error_iff.mp read)
    exact unshowable_list_of_mem member (unshowable_of_readCategory read)
  · exact unshowable_of_readCategory (map_eq_error_iff.mp read)

theorem unshowable_of_readOrder (read : readOrder levels value = .error (.beyond limit)) :
    value.isShowable levels = false := by
  unfold readOrder at read
  split at read
  · cases read
  · obtain ⟨entry, member, seen, read⟩ := (readsEach_entries levels).exists_of_eq_error read
    exact unshowable_list_of_mem member (unshowable_of_readEntry read)
  · exact unshowable_of_refusing (Except.error.inj read) nofun

theorem unshowable_of_readBoolean {key : String}
    (read : readBoolean levels key value = .error (.beyond limit)) :
    value.isShowable levels = false := by
  unfold readBoolean at read
  split at read
  · cases read
  · exact unshowable_of_refusing (Except.error.inj read) nofun

theorem unshowable_of_readMaxPasses (read : readMaxPasses levels value = .error (.beyond limit)) :
    value.isShowable levels = false := by
  unfold readMaxPasses at read
  split at read
  · cases read
  · cases read
  · exact unshowable_of_refusing (Except.error.inj read) nofun

theorem readOnTop_ne_beyond {given : Option Value} :
    readOnTop given ≠ .error (.beyond limit) := by
  intro read
  unfold readOnTop at read
  split at read
  · split at read
    · cases read
    · split at read <;> cases read
  · cases read

theorem unshowable_of_readExceptions (read : readExceptions levels value = .error (.beyond limit)) :
    value.isShowable levels = false := by
  unfold readExceptions at read
  split at read
  · cases read
  · dsimp only at read
    split at read
    · exact absurd (map_eq_error_iff.mp read) readOnTop_ne_beyond
    · cases read
  · exact unshowable_of_refusing (Except.error.inj read) nofun

end Limits

section Read

variable {levels : Nat} {fields : Fields} {options : Options}

/-- What is set, or the value that stands for it where nothing is, has a form which the latter
has exactly when what is set has it. -/
theorem getD_iff {given : Option Value} {absent : Value} {form : Value -> Prop}
    (usual : form absent) : form (given.getD absent) ↔ ∀ value ∈ given, form value := by
  cases given with
  | none => simpa using usual
  | some value => simp

/-- Options are read by reading each of them. -/
theorem read_eq_ok_iff :
    read levels fields = .ok options ↔
      readOrder levels ((settingOf fields "order").getD .null) = .ok options.order ∧
      readBoolean levels "alphabetical" ((settingOf fields "alphabetical").getD (.bool false)) =
        .ok options.alphabetical ∧
      readBoolean levels "otherAttrsBind"
        ((settingOf fields "otherattrsbind").getD (.bool false)) = .ok options.plainBeforeBound ∧
      readExceptions levels ((settingOf fields "otherattrsexceptions").getD .null) =
        .ok options.onTop ∧
      readMaxPasses levels ((settingOf fields "maxfixpasses").getD .null) =
        .ok options.maxPasses := by
  simp only [read, bind_eq_ok_iff, get?_canonicalFields]
  constructor
  · rintro ⟨order, first, alphabetical, second, plainBeforeBound, third, onTop, fourth, maxPasses,
      fifth, same⟩
    obtain rfl := Except.ok.inj same
    exact ⟨first, second, third, fourth, fifth⟩
  · rintro ⟨first, second, third, fourth, fifth⟩
    exact ⟨_, first, _, second, _, third, _, fourth, _, fifth, rfl⟩

/-- Options are read from fields in which each has a value of its form. -/
theorem exists_read_iff : (∃ options, read levels fields = .ok options) ↔ IsSet fields := by
  simp only [read_eq_ok_iff]
  constructor
  · rintro ⟨options, order, alphabetical, plainBeforeBound, exceptions, maxPasses⟩
    exact
      { order := (getD_iff (.inl rfl)).mp ((exists_readOrder_iff levels).mp ⟨_, order⟩)
        alphabetical :=
          (getD_iff ⟨_, rfl⟩).mp ((exists_readBoolean_iff levels _).mp ⟨_, alphabetical⟩)
        plainBeforeBound :=
          (getD_iff ⟨_, rfl⟩).mp ((exists_readBoolean_iff levels _).mp ⟨_, plainBeforeBound⟩)
        exceptions :=
          (getD_iff (.inl rfl)).mp ((exists_readExceptions_iff levels).mp ⟨_, exceptions⟩)
        maxPasses :=
          (getD_iff (.inl rfl)).mp ((exists_readMaxPasses_iff levels).mp ⟨_, maxPasses⟩) }
  · intro set
    obtain ⟨order, first⟩ := (exists_readOrder_iff levels).mpr ((getD_iff (.inl rfl)).mpr set.order)
    obtain ⟨alphabetical, second⟩ :=
      (exists_readBoolean_iff levels _).mpr ((getD_iff ⟨_, rfl⟩).mpr set.alphabetical)
    obtain ⟨plainBeforeBound, third⟩ :=
      (exists_readBoolean_iff levels _).mpr ((getD_iff ⟨_, rfl⟩).mpr set.plainBeforeBound)
    obtain ⟨onTop, fourth⟩ :=
      (exists_readExceptions_iff levels).mpr ((getD_iff (.inl rfl)).mpr set.exceptions)
    obtain ⟨maxPasses, fifth⟩ :=
      (exists_readMaxPasses_iff levels).mpr ((getD_iff (.inl rfl)).mpr set.maxPasses)
    exact ⟨{ order, alphabetical, plainBeforeBound, onTop, maxPasses },
      first, second, third, fourth, fifth⟩

/-- What an option is read from is refused only when it is what one of the fields holds. -/
theorem exists_field_of_refused {α : Type} (reader : Value -> Except OptionsError α) {key : String}
    {absent : Value} {result : α} {error : OptionsError} (usual : reader absent = .ok result)
    (refused : reader ((settingOf fields key).getD absent) = .error error) :
    ∃ field ∈ fields, reader field.2 = .error error := by
  cases given : settingOf fields key with
  | none =>
    rw [given, Option.getD_none, usual] at refused
    cases refused
  | some value =>
    obtain ⟨field, member, rfl⟩ := exists_field_of_mem_settingOf given
    rw [given] at refused
    exact ⟨field, member, refused⟩

/-- Reading goes beyond the limits only when one of the fields does. -/
theorem exists_unshowable_of_read {limit : LimitFault}
    (refused : read levels fields = .error (.beyond limit)) :
    ∃ field ∈ fields, field.2.isShowable levels = false := by
  simp only [read, bind_eq_error_iff, get?_canonicalFields] at refused
  obtain order | ⟨_, -, alphabetical | ⟨_, -, plainBeforeBound | ⟨_, -, exceptions |
    ⟨_, -, maxPasses | ⟨_, -, done⟩⟩⟩⟩⟩ := refused
  · obtain ⟨field, member, here⟩ := exists_field_of_refused (readOrder levels) rfl order
    exact ⟨field, member, unshowable_of_readOrder here⟩
  · obtain ⟨field, member, here⟩ := exists_field_of_refused (readBoolean levels _) rfl alphabetical
    exact ⟨field, member, unshowable_of_readBoolean here⟩
  · obtain ⟨field, member, here⟩ :=
      exists_field_of_refused (readBoolean levels _) rfl plainBeforeBound
    exact ⟨field, member, unshowable_of_readBoolean here⟩
  · obtain ⟨field, member, here⟩ := exists_field_of_refused (readExceptions levels) rfl exceptions
    exact ⟨field, member, unshowable_of_readExceptions here⟩
  · obtain ⟨field, member, here⟩ := exists_field_of_refused (readMaxPasses levels) rfl maxPasses
    exact ⟨field, member, unshowable_of_readMaxPasses here⟩
  · cases done

/-- What options are accepted, and what their order means. Fields give options exactly when each is
set to a value of its form; otherwise they are refused as configuration, unless a field holds what
cannot be shown, however many levels deep values may be for that. A value other than null is an
order exactly when it is a list of entries, none of them empty, of names that call different
categories; its table then ranks the categories that are named, alike when one entry names both, and
lower when an earlier entry does. -/
theorem read_accepts (levels : Nat) (fields : Fields) (raw : Value) (set : raw ≠ .null) :
    ((∃ options, read levels fields = .ok options) ↔ IsSet fields) ∧
      (∀ error, read levels fields = .error error →
        (Fault.options error).isConfiguration ∨
          ∃ field ∈ fields, field.2.isShowable levels = false) ∧
      (∀ options, read levels fields = .ok options →
        readOrder levels ((settingOf fields "order").getD .null) = .ok options.order) ∧
      ((∃ order, readOrder levels raw = .ok order) ↔
        ∃ entries, raw = .list entries ∧ IsOrder entries) ∧
      ∀ order, readOrder levels raw = .ok order →
        ∃ entries, raw = .list entries ∧ RanksAs order.table entries := by
  refine ⟨exists_read_iff, fun error refused => ?_, fun options read => (read_eq_ok_iff.mp read).1,
    (exists_readOrder_iff levels).trans (or_iff_right set), fun order read => ?_⟩
  · by_cases beyond : ∃ limit, error = .beyond limit
    · obtain ⟨limit, rfl⟩ := beyond
      exact .inr (exists_unshowable_of_read refused)
    · left
      cases error with
      | beyond limit => exact absurd ⟨limit, rfl⟩ beyond
      | _ => rfl
  · obtain ⟨entries, rfl, -⟩ := ((exists_readOrder_iff levels).mp ⟨order, read⟩).resolve_left set
    exact ⟨entries, rfl, ranksAs_of_readOrder read⟩

end Read

/-- An order in spellings of its own: a blank at either end, a hyphen, and an `i` without a dot. -/
def spelledEntries : List Value :=
  [.text " other-attr ", .list [.text "Global", .text "unıque"]]

theorem read_accepts_spelledEntries :
    Value.list spelledEntries ≠ .null ∧
      IsSet [("Or_der", .list spelledEntries), ("alphaBetical", .bool true)] ∧
      IsOrder spelledEntries ∧
      RanksAs (Order.table [.one .otherAttr, .group [.global, .unique]]) spelledEntries := by
  have list : Value.list spelledEntries ≠ .null := nofun
  obtain ⟨accepted, -, -, ordered, ranked⟩ :=
    read_accepts Limits.usual.shown [("Or_der", .list spelledEntries), ("alphaBetical", .bool true)]
      (.list spelledEntries) list
  have options : (read Limits.usual.shown
      [("Or_der", .list spelledEntries), ("alphaBetical", .bool true)]).toOption =
      some { order := [.one .otherAttr, .group [.global, .unique]], alphabetical := true } := by
    decide +kernel
  have order : (readOrder Limits.usual.shown (.list spelledEntries)).toOption =
      some [.one .otherAttr, .group [.global, .unique]] := by decide +kernel
  obtain ⟨entries, same, isOrder⟩ := ordered.mp ⟨_, eq_ok_of_toOption order⟩
  obtain rfl := Value.list.inj same
  obtain ⟨entries, same, ranks⟩ := ranked _ (eq_ok_of_toOption order)
  obtain rfl := Value.list.inj same
  exact ⟨list, accepted.mp ⟨_, eq_ok_of_toOption options⟩, isOrder, ranks⟩

/-- A number with more decimal digits than can be shown, as it is written with base sixteen. -/
def longNumber : Value := .int (Int.ofNat (Nat.pow 16 3572 - 1))

/-- Where an order is wanted this number is not refused as configuration, for the refusal has to
show it. -/
theorem read_longNumber :
    longNumber.isShowable Limits.usual.shown = false ∧
      read Limits.usual.shown [("order", longNumber)] = .error (.beyond .shownDigits) ∧
      (Fault.options (.beyond .shownDigits)).isConfiguration = false := by
  have large : longNumber.limitFault? Limits.usual.shown = some .shownDigits := by decide +kernel
  refine ⟨by rw [Value.isShowable, large]; rfl, ?_, rfl⟩
  have refused : OptionsError.refusing Limits.usual.shown .orderNotList longNumber =
      .beyond .shownDigits := by
    rw [OptionsError.refusing, large]
  have given : settingOf [("order", longNumber)] "order" = some longNumber := by
    have same : (canonicalKey "order" == "order") = true := by decide +kernel
    simp [settingOf, same]
  have read : readOrder Limits.usual.shown
      ((settingOf [("order", longNumber)] "order").getD .null) =
        .error (.beyond .shownDigits) := by
    rw [given, ← refused]
    rfl
  simp only [Options.read, bind_eq_error_iff, get?_canonicalFields]
  exact .inl read

end Options

end TagOrder
