import TagOrder.Document
import TagOrder.Proofs.Rule.Check
import TagOrder.Proofs.Storage.Volume

/-!
# How loading a document ends

Loading ends in one of the ways that `Document.Loaded` tells. On a volume it ends with a document or
with a refusal of the dump, save for three kinds of dumps (`Document.Escapes`): the dump or its
source is not read as a text though the file system does not fail, or the dump goes beyond the
limits of JSON. `Document.escapes_iff` says that there are no other exceptions.
-/

namespace TagOrder

namespace Volume

variable {volume : Volume} {path : String} {error : FileError}

/-- A file that cannot be read for another reason than a failure of the file system: its path can be
none, or its octets are those of no text. -/
inductive Illegible (volume : Volume) (path : String) : Prop where
  | path (faulty : pathFault? (tidyPath path) ≠ none)
  | contents {octets} (held : volume.readOctets (tidyPath path) = .ok octets)
      (foreign : ∀ text, octets ≠ Utf8.encode text)

/-- A text that is no path is no failure of the file system. -/
theorem isSystem_eq_false_of_pathFault? {given : String} (faulty : pathFault? given = some error) :
    error.isSystem = false := by
  unfold pathFault? at faulty
  dsimp only at faulty
  split at faulty
  · obtain rfl := Option.some.inj faulty
    rfl
  · split at faulty
    · obtain rfl := Option.some.inj faulty
      rfl
    · cases faulty

/-- A path that is one is followed until the file system fails. -/
theorem isSystem_of_locate {given : String} (faultless : pathFault? given = none)
    (failed : volume.locate given = .error error) : error.isSystem = true := by
  unfold locate at failed
  rw [faultless] at failed
  dsimp only at failed
  split at failed
  · obtain rfl := Except.error.inj failed
    rfl
  split at failed
  · obtain rfl := Except.error.inj failed
    rfl
  split at failed
  · rename_i fault _
    obtain rfl := Except.error.inj failed
    cases fault <;> rfl
  · split at failed
    · obtain rfl := Except.error.inj failed
      rfl
    · cases failed

theorem locate_of_pathFault? {given : String} (faulty : pathFault? given = some error) :
    volume.locate given = .error error := by
  unfold locate
  rw [faulty]

/-- Octets are not read under a path for a failure of the file system, or as it is no path. -/
theorem of_readOctets_eq_error {given : String} (failed : volume.readOctets given = .error error) :
    error.isSystem = true ∨ pathFault? given = some error := by
  unfold readOctets at failed
  cases located : volume.locate given with
  | error reason =>
    rw [located] at failed
    obtain rfl := Except.error.inj failed
    cases faulty : pathFault? given with
    | none => exact .inl (isSystem_of_locate faulty located)
    | some fault =>
      rw [locate_of_pathFault? faulty] at located
      exact .inr (congrArg some (Except.error.inj located))
  | ok place =>
    rw [located] at failed
    dsimp only [bind, Except.bind] at failed
    split at failed
    · cases failed
    · obtain rfl := Except.error.inj failed
      exact .inl rfl
    · obtain rfl := Except.error.inj failed
      exact .inl rfl

/-- The files that are not read though the file system does not fail. -/
theorem illegible_iff :
    volume.Illegible path ↔
      ∃ error, storage.read volume path = .error error ∧ error.isSystem = false := by
  change _ ↔ ∃ error, volume.readText path = .error error ∧ _
  unfold readText
  constructor
  · rintro (faulty | ⟨held, foreign⟩)
    · obtain ⟨error, faulty⟩ := Option.ne_none_iff_exists'.mp faulty
      refine ⟨error, ?_, isSystem_eq_false_of_pathFault? faulty⟩
      rw [readOctets, locate_of_pathFault? faulty]
      rfl
    · rename_i octets
      rw [held]
      cases read : Utf8.decode octets with
      | ok text => exact absurd (Utf8.decode_eq_ok_iff.mp read) (foreign text)
      | error error =>
        refine ⟨.undecodable error, ?_, rfl⟩
        dsimp only [bind, Except.bind]
        rw [read]
        rfl
  · rintro ⟨error, failed, ordinary⟩
    cases held : volume.readOctets (tidyPath path) with
    | error reason =>
      rw [held] at failed
      obtain rfl := Except.error.inj failed
      rcases of_readOctets_eq_error held with system | faulty
      · rw [system] at ordinary
        cases ordinary
      · exact .path (by rw [faulty]; simp)
    | ok octets =>
      refine .contents held fun text same => ?_
      rw [held, same] at failed
      dsimp only [bind, Except.bind] at failed
      rw [Utf8.decode_encode] at failed
      cases failed

end Volume

namespace Document

section Storage

variable {σ : Type} {storage : Storage σ} {files : σ} {dump : String}

/-- The ways in which loading a document ends. -/
inductive Loaded (storage : Storage σ) (files : σ) (dump : String) :
    Except LoadError Document -> Prop where
  | unread {error} (failed : storage.read files dump = .error error) :
      Loaded storage files dump (.error (readFailure dump .unreadable error))
  | notJson {text error} (reads : storage.read files dump = .ok text)
      (faulty : Json.read storage.limits.json text = .error error) :
      Loaded storage files dump (.error (jsonFailure dump text error))
  | refused (fault : DumpFault) : Loaded storage files dump (.error (.dump dump fault))
  | sourceUnread {fields source error} (table : readDump storage files dump = .ok fields)
      (named : Dump.sourceField fields = .ok source)
      (failed : storage.read files (Dump.sourcePath dump source) = .error error) :
      Loaded storage files dump
        (.error (readFailure dump (.sourceUnreadable (Dump.sourcePath dump source)) error))
  | document {fields source text tags} (table : readDump storage files dump = .ok fields)
      (named : Dump.sourceField fields = .ok source)
      (reads : storage.read files (Dump.sourcePath dump source) = .ok text)
      (listed : Dump.tagsField (Dump.sourcePath dump source) text fields = .ok tags) :
      Loaded storage files dump (.ok { path := Dump.sourcePath dump source, text, tags })

/-- Loading a document ends in one of these ways. -/
theorem load_loaded (storage : Storage σ) (files : σ) (dump : String) :
    Loaded storage files dump (load storage files dump) := by
  unfold load
  cases table : readDump storage files dump with
  | error error =>
    unfold readDump at table
    split at table
    · obtain rfl := Except.error.inj table
      exact .unread ‹_›
    split at table
    · obtain rfl := Except.error.inj table
      exact .notJson ‹_› ‹_›
    · cases table
    · obtain rfl := Except.error.inj table
      exact .refused .notTable
  | ok fields =>
    dsimp only [ofFields]
    cases named : Dump.sourceField fields with
    | error fault => exact .refused fault
    | ok source =>
      dsimp only
      cases reads : storage.read files (Dump.sourcePath dump source) with
      | error error => exact .sourceUnread table named reads
      | ok text =>
        dsimp only
        cases listed : Dump.tagsField (Dump.sourcePath dump source) text fields with
        | error fault => exact .refused fault
        | ok tags => exact .document table named reads listed

/-- What a document that is loaded comes from. -/
theorem exists_of_load {document : Document} (loaded : load storage files dump = .ok document) :
    ∃ fields source, readDump storage files dump = .ok fields ∧
      Dump.sourceField fields = .ok source ∧ document.path = Dump.sourcePath dump source ∧
      storage.read files document.path = .ok document.text ∧
      Dump.tagsField document.path document.text fields = .ok document.tags := by
  have ways := load_loaded storage files dump
  rw [loaded] at ways
  generalize told : (Except.ok document : Except LoadError Document) = answer at ways
  cases ways with
  | unread failed => cases told
  | notJson reads faulty => cases told
  | refused fault => cases told
  | sourceUnread table named failed => cases told
  | document table named reads listed =>
    obtain rfl := Except.ok.inj told
    exact ⟨_, _, table, named, rfl, reads, listed⟩

/-- What is refused is the dump that is loaded. -/
theorem path_of_load {path : String} {fault : DumpFault}
    (refused : load storage files dump = .error (.dump path fault)) : path = dump := by
  have loaded := load_loaded storage files dump
  rw [refused] at loaded
  generalize told : (Except.error (.dump path fault) : Except LoadError Document) = answer at loaded
  cases loaded with
  | unread failed =>
    unfold readFailure at told
    split at told <;> cases told
    rfl
  | notJson reads faulty =>
    unfold jsonFailure at told
    split at told <;> cases told
    rfl
  | refused fault =>
    cases told
    rfl
  | sourceUnread table named failed =>
    unfold readFailure at told
    split at told <;> cases told
    rfl
  | document table named reads listed => cases told

end Storage

/-- The dumps on a volume that are neither loaded nor refused. -/
inductive Escapes (volume : Volume) (dump : String) : Prop where
  | dump (illegible : volume.Illegible dump)
  | limit {text error limit} (reads : Volume.storage.read volume dump = .ok text)
      (faulty : Json.read Volume.storage.limits.json text = .error error)
      (beyond : error.fault = .beyond limit)
  | source {fields source} (table : readDump Volume.storage volume dump = .ok fields)
      (named : Dump.sourceField fields = .ok source)
      (illegible : volume.Illegible (Dump.sourcePath dump source))

variable {volume : Volume} {dump : String}

/-- A dump that is neither loaded nor refused ends the loading with another error. -/
theorem Escapes.exists_error (escapes : Escapes volume dump) :
    ∃ error, load Volume.storage volume dump = .error error ∧
      ∀ fault, error ≠ .dump dump fault := by
  unfold load
  cases escapes with
  | dump illegible =>
    obtain ⟨reason, failed, ordinary⟩ := Volume.illegible_iff.mp illegible
    refine ⟨.file reason, ?_, fun _ => nofun⟩
    rw [readDump, failed]
    dsimp only
    rw [readFailure, if_neg (by rw [ordinary]; decide)]
  | limit reads faulty beyond =>
    rename_i limit
    refine ⟨.beyond limit, ?_, fun _ => nofun⟩
    rw [readDump, reads]
    dsimp only
    rw [faulty]
    dsimp only
    rw [jsonFailure, beyond]
  | source table named illegible =>
    obtain ⟨reason, failed, ordinary⟩ := Volume.illegible_iff.mp illegible
    refine ⟨.file reason, ?_, fun _ => nofun⟩
    rw [table]
    dsimp only [ofFields]
    rw [named]
    dsimp only
    rw [failed]
    dsimp only
    rw [readFailure, if_neg (by rw [ordinary]; decide)]

/-- A failed read that is no refusal of the dump is none of the file system. -/
theorem isSystem_eq_false_of_readFailure {of : FileError -> DumpFault} {reason : FileError}
    (foreign : ∀ fault, readFailure dump of reason ≠ .dump dump fault) :
    reason.isSystem = false := by
  exact Bool.eq_false_iff.mpr fun system => foreign _ (if_pos system)

/-- Loading ends with an error other than a refusal of the dump just for these dumps. -/
theorem escapes_iff :
    Escapes volume dump ↔
      ∃ error, load Volume.storage volume dump = .error error ∧
        ∀ fault, error ≠ .dump dump fault := by
  refine ⟨Escapes.exists_error, ?_⟩
  rintro ⟨error, ended, foreign⟩
  have loaded := load_loaded Volume.storage volume dump
  rw [ended] at loaded
  generalize told : (Except.error error : Except LoadError Document) = answer at loaded
  cases loaded with
  | unread failed =>
    obtain rfl := Except.error.inj told
    exact .dump (Volume.illegible_iff.mpr ⟨_, failed, isSystem_eq_false_of_readFailure foreign⟩)
  | notJson reads faulty =>
    obtain rfl := Except.error.inj told
    unfold jsonFailure at foreign
    split at foreign
    · exact .limit reads faulty ‹_›
    · exact absurd rfl (foreign _)
  | refused fault =>
    obtain rfl := Except.error.inj told
    exact absurd rfl (foreign fault)
  | sourceUnread table named failed =>
    obtain rfl := Except.error.inj told
    have ordinary := isSystem_eq_false_of_readFailure foreign
    exact .source table named (Volume.illegible_iff.mpr ⟨_, failed, ordinary⟩)
  | document table named reads listed => cases told

end Document

end TagOrder
