import TagOrder.Proofs.Answer
import TagOrder.Proofs.Text.Utf8
import TagOrder.Settings

/-!
# Which settings are refused

A project file gives options in a table of the table of all tools. What stands where one of these
two tables is wanted is looked at only as far as it counts as true. So a value that is no table is
passed over like one that is absent when it does not count as true, and refused as configuration
when it does and stands for the section; where it stands for the table of all tools the reading ends
in a way that is no refusal (`Settings.load_answers`). That every such value is refused is therefore
wrong of both tables (`Settings.load_stray`).
-/

namespace TagOrder

namespace Settings

/-- The value that a project file gives for the section. -/
def Gives (fields : Fields) (value : Value) : Prop :=
  ∃ tools, fields.get? "tool" = some (.table tools) ∧ Fields.get? tools sectionName = some value

/-- A project file without the section: it has no tools, or a table of tools without it. -/
def Lacks (fields : Fields) : Prop :=
  fields.get? "tool" = none ∨
    ∃ tools, fields.get? "tool" = some (.table tools) ∧ Fields.get? tools sectionName = none

/-- What is made of the fields of a project file. -/
inductive Answers (path : String) (fields : Fields) : Except Fault Fields → Prop where
  | given {options} (gives : Gives fields (.table options)) : Answers path fields (.ok options)
  | unset (lacks : Lacks fields) : Answers path fields (.ok [])
  | passedOver {value} (stands : fields.get? "tool" = some value ∨ Gives fields value)
      (stray : value.fields? = none) (vacant : value.isTrue = false) : Answers path fields (.ok [])
  | refused {value} (gives : Gives fields value) (stray : value.fields? = none)
      (holds : value.isTrue = true) :
      Answers path fields (.error (.settings path .sectionNotTable))
  | ended {value} (stands : fields.get? "tool" = some value) (stray : value.fields? = none)
      (holds : value.isTrue = true) : Answers path fields (.error (.toolNotTable (typeName value)))

section Section

variable {path key : String} {fields tools options : Fields} {value : Value}
  {answer : Except Fault Fields}

/-- A field that counts as true is taken for what it is. -/
theorem fieldOr_of_isTrue (found : fields.get? key = some value) (holds : value.isTrue = true) :
    fieldOr fields key = value := by
  rw [fieldOr, found]
  exact if_pos holds

/-- A field that does not count as true is taken for an empty table. -/
theorem fieldOr_of_not_isTrue (found : fields.get? key = some value)
    (vacant : value.isTrue = false) : fieldOr fields key = .table [] := by
  rw [fieldOr, found]
  exact if_neg (Bool.eq_false_iff.mp vacant)

/-- An absent field is taken for an empty table. -/
theorem fieldOr_of_absent (absent : fields.get? key = none) : fieldOr fields key = .table [] := by
  rw [fieldOr, absent]

/-- A table is taken for what it is, also when it is empty. -/
theorem fieldOr_of_table (found : fields.get? key = some (.table tools)) :
    fieldOr fields key = .table tools := by
  cases tools with
  | nil => exact fieldOr_of_not_isTrue found rfl
  | cons field rest => exact fieldOr_of_isTrue found rfl

theorem section?_eq_ok (outer : fieldOr fields "tool" = .table tools)
    (inner : fieldOr tools sectionName = .table options) : section? path fields = .ok options := by
  rw [section?, outer]
  dsimp only
  rw [inner]

theorem section?_eq_refused (outer : fieldOr fields "tool" = .table tools)
    (inner : fieldOr tools sectionName = value) (stray : value.fields? = none) :
    Settings.section? path fields = .error (.settings path .sectionNotTable) := by
  rw [section?, outer]
  dsimp only
  rw [inner]
  cases value with
  | table _ => cases stray
  | _ => rfl

theorem section?_eq_ended (outer : fieldOr fields "tool" = value) (stray : value.fields? = none) :
    Settings.section? path fields = .error (.toolNotTable (typeName value)) := by
  rw [section?, outer]
  cases value with
  | table _ => cases stray
  | _ => rfl

/-- There is nothing else to be made of a project file. -/
theorem Answers.section?_eq (made : Answers path fields answer) :
    Settings.section? path fields = answer := by
  cases made with
  | given gives =>
    obtain ⟨tools, outer, inner⟩ := gives
    exact section?_eq_ok (fieldOr_of_table outer) (fieldOr_of_table inner)
  | unset lacks =>
    rcases lacks with absent | ⟨tools, outer, absent⟩
    · exact section?_eq_ok (fieldOr_of_absent absent) (fieldOr_of_absent rfl)
    · exact section?_eq_ok (fieldOr_of_table outer) (fieldOr_of_absent absent)
  | passedOver stands stray vacant =>
    rcases stands with outer | ⟨tools, outer, inner⟩
    · exact section?_eq_ok (fieldOr_of_not_isTrue outer vacant) (fieldOr_of_absent rfl)
    · exact section?_eq_ok (fieldOr_of_table outer) (fieldOr_of_not_isTrue inner vacant)
  | refused gives stray holds =>
    obtain ⟨tools, outer, inner⟩ := gives
    exact section?_eq_refused (fieldOr_of_table outer) (fieldOr_of_isTrue inner holds) stray
  | ended stands stray holds => exact section?_eq_ended (fieldOr_of_isTrue stands holds) stray

/-- A value is a table, or it is a stray one. -/
theorem eq_table_or_stray (value : Value) :
    (∃ inner, value = .table inner) ∨ value.fields? = none := by
  cases value with
  | table inner => exact .inl ⟨inner, rfl⟩
  | _ => exact .inr rfl

/-- Something is made of every project file. -/
theorem exists_answers (path : String) (fields : Fields) :
    ∃ answer, Answers path fields answer := by
  cases outer : fields.get? "tool" with
  | none => exact ⟨_, .unset (.inl outer)⟩
  | some value =>
    rcases eq_table_or_stray value with ⟨tools, rfl⟩ | stray
    · cases inner : Fields.get? tools sectionName with
      | none => exact ⟨_, .unset (.inr ⟨tools, outer, inner⟩)⟩
      | some value =>
        have gives : Gives fields value := ⟨tools, outer, inner⟩
        rcases eq_table_or_stray value with ⟨options, rfl⟩ | stray
        · exact ⟨_, .given gives⟩
        · cases holds : value.isTrue with
          | true => exact ⟨_, .refused gives stray holds⟩
          | false => exact ⟨_, .passedOver (.inr gives) stray holds⟩
    · cases holds : value.isTrue with
      | true => exact ⟨_, .ended outer stray holds⟩
      | false => exact ⟨_, .passedOver (.inl outer) stray holds⟩

theorem section?_eq_iff : section? path fields = answer ↔ Answers path fields answer := by
  refine ⟨?_, Answers.section?_eq⟩
  rintro rfl
  obtain ⟨answer, made⟩ := exists_answers path fields
  exact made.section?_eq ▸ made

end Section

/-- The nearest project file of a place can be read and gives some fields. -/
structure ReadsAs (limits : Limits) (volume : Volume) (start file : Place) (fields : Fields) :
    Prop where
  nearest : find? volume start = .ok (some file)
  reads : ∃ octets text, volume.get? file = some (.file octets) ∧ Utf8.decode octets = .ok text ∧
    Toml.read limits.settings text = .ok fields

/-- What a project file sets is what is made of its fields. -/
theorem ReadsAs.load_eq {limits : Limits} {volume : Volume} {start file : Place} {fields : Fields}
    (readable : ReadsAs limits volume start file fields) :
    load limits volume start = section? (Volume.placeText file) fields := by
  obtain ⟨octets, text, stands, decodes, reads⟩ := readable.reads
  rw [load, readable.nearest]
  dsimp only
  rw [stands]
  dsimp only
  rw [ofOctets, decodes]
  dsimp only
  rw [ofText, reads]

/-- Whatever its fields are, a project file that can be read gives one of five answers: the section
that is a table; nothing, when the section is absent; nothing as well when a value that is no table
stands for one of the two tables and does not count as true; a refusal when such a value stands for
the section and counts as true; and when such a value stands for the table of all tools, a fault
that tells its type. Only where that is a table is a fault one of configuration. -/
theorem load_answers {limits : Limits} {volume : Volume} {start file : Place} {fields : Fields}
    (readable : ReadsAs limits volume start file fields) :
    (∀ answer, load limits volume start = answer ↔ Answers (Volume.placeText file) fields answer) ∧
      ∀ fault, load limits volume start = .error fault →
        (fault.isConfiguration = true ↔ ∃ tools, fields.get? "tool" = some (.table tools)) := by
  rw [readable.load_eq]
  refine ⟨fun _ => section?_eq_iff, fun fault refused => ?_⟩
  cases section?_eq_iff.mp refused with
  | refused gives _ _ => exact ⟨fun _ => gives.imp fun _ found => found.1, fun _ => rfl⟩
  | ended stands stray _ =>
    refine ⟨nofun, ?_⟩
    rintro ⟨tools, outer⟩
    obtain rfl := Option.some.inj (stands.symm.trans outer)
    cases stray

/-- A volume with a project file at its root. -/
def projectVolume (text : String) : Volume where
  entries := [([fileName], .file (Utf8.encode text.toList))]

/-- The project file at the root is the nearest one, and its text can be read. -/
theorem exists_readsAs {text : String} {check : Fields -> Bool}
    (shown : (Toml.read Limits.usual.settings text.toList).toOption.any check = true) :
    ∃ fields, ReadsAs .usual (projectVolume text) [] [fileName] fields ∧ check fields = true := by
  obtain ⟨fields, read, checked⟩ := (Option.any_eq_true _ _).mp shown
  refine ⟨fields, { nearest := rfl, reads := ?_ }, checked⟩
  exact ⟨_, text.toList, rfl, Utf8.decode_encode text.toList, eq_ok_of_toOption read⟩

/-- Whether a value is no table, and counts as true or does not. -/
def isStray (holds : Bool) (value : Value) : Bool := value.fields?.isNone && value.isTrue == holds

/-- Whether fields give a stray value for the section. -/
def givesStray (holds : Bool) (fields : Fields) : Bool :=
  ((fields.get? "tool").bind fun tools => tools.get? sectionName).any (isStray holds)

theorem exists_gives {holds : Bool} {fields : Fields} (shown : givesStray holds fields = true) :
    ∃ value, Gives fields value ∧ value.fields? = none ∧ value.isTrue = holds := by
  obtain ⟨value, found, stray⟩ := (Option.any_eq_true _ _).mp shown
  obtain ⟨tools, outer, inner⟩ := Option.bind_eq_some_iff.mp found
  rw [isStray, Bool.and_eq_true, Option.isNone_iff_eq_none, beq_iff_eq] at stray
  cases tools with
  | table tools => exact ⟨value, ⟨tools, outer, inner⟩, stray⟩
  | _ => cases inner

/-- A project file that switches the section on as if it were a flag. -/
def flagOn : String := "[tool]\nattribute-order = \"on\"\n"

/-- A project file that switches the section off as if it were a flag. -/
def flagOff : String := "[tool]\nattribute-order = false\n"

/-- A project file with a text for its tools. -/
def textTools : String := "tool = \"x\"\n"

/-- A flag that is on is refused. -/
theorem load_answers_flagOn :
    ∃ fields, ReadsAs .usual (projectVolume flagOn) [] [fileName] fields ∧
      (∃ value, Gives fields value ∧ value.fields? = none ∧ value.isTrue = true) ∧
      load .usual (projectVolume flagOn) [] =
        .error (.settings "/pyproject.toml" .sectionNotTable) ∧
      (Fault.settings "/pyproject.toml" .sectionNotTable).isConfiguration = true := by
  have shown : (Toml.read Limits.usual.settings flagOn.toList).toOption.any (givesStray true) =
      true := by decide +kernel
  obtain ⟨fields, readable, checked⟩ := exists_readsAs shown
  obtain ⟨value, gives, stray, holds⟩ := exists_gives checked
  obtain ⟨answers, configuration⟩ := load_answers readable
  have refused : load .usual (projectVolume flagOn) [] =
      .error (.settings "/pyproject.toml" .sectionNotTable) :=
    (answers _).mpr (.refused gives stray holds)
  exact ⟨fields, readable, ⟨value, gives, stray, holds⟩, refused,
    (configuration _ refused).mpr (gives.imp fun _ found => found.1)⟩

/-- A text for the tools is not refused, but ends the reading in another way; and a flag that is off
is passed over. -/
theorem load_stray :
    (∃ fields value, ReadsAs .usual (projectVolume textTools) [] [fileName] fields ∧
      fields.get? "tool" = some value ∧ value.fields? = none ∧
      load .usual (projectVolume textTools) [] = .error (.toolNotTable "str") ∧
      (Fault.toolNotTable "str").isConfiguration = false) ∧
    ∃ fields value, ReadsAs .usual (projectVolume flagOff) [] [fileName] fields ∧
      Gives fields value ∧ value.fields? = none ∧
      load .usual (projectVolume flagOff) [] = .ok [] := by
  constructor
  · have shown : (Toml.read Limits.usual.settings textTools.toList).toOption.any (fun fields =>
        (fields.get? "tool").any fun value => isStray true value && typeName value == "str") =
          true := by decide +kernel
    obtain ⟨fields, readable, checked⟩ := exists_readsAs shown
    obtain ⟨value, stands, form⟩ := (Option.any_eq_true _ _).mp checked
    simp only [isStray, Bool.and_eq_true, Option.isNone_iff_eq_none, beq_iff_eq] at form
    obtain ⟨⟨stray, holds⟩, type⟩ := form
    refine ⟨fields, value, readable, stands, stray, ?_, rfl⟩
    rw [readable.load_eq, section?_eq_ended (fieldOr_of_isTrue stands holds) stray, type]
  · have shown : (Toml.read Limits.usual.settings flagOff.toList).toOption.any
        (givesStray false) = true := by decide +kernel
    obtain ⟨fields, readable, checked⟩ := exists_readsAs shown
    obtain ⟨value, gives, stray, vacant⟩ := exists_gives checked
    refine ⟨fields, value, readable, gives, stray, ?_⟩
    rw [readable.load_eq]
    exact section?_eq_iff.mpr (.passedOver (.inr gives) stray vacant)

end Settings

end TagOrder
