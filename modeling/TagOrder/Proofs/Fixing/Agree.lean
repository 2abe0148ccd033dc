import TagOrder.Proofs.Document.Load
import TagOrder.Proofs.Fixing.Write
import TagOrder.Storage.Shelf

/-!
# What a run of fixes leaves alone

A run fixes the documents of some dumps one after the other, each loaded from the files as the one
before left them. Files that agree on a dump and on the source that it names give the same document
(`Document.load_congr`). So where the dumps and some sources are kept, and the documents of these
sources have nothing to be rewritten, a run keeps them to its end, whatever it does to the other
sources and however it comes out there (`fixDumps_agree`). The sources that a run did not rewrite,
having come to its end, are of this kind (`still_of_fixDumps`).
-/

namespace TagOrder

section Runs

variable {σ : Type} {storage : Storage σ} {origin files after : σ} {rule : Rule} {backups : Bool}
  {kept : String -> Prop}

/-- Files that hold the same texts under the kept paths. -/
def Storage.Agree (storage : Storage σ) (kept : String -> Prop) (origin files : σ) : Prop :=
  ∀ path, kept path → storage.read files path = storage.read origin path

theorem Storage.Agree.refl (storage : Storage σ) (kept : String -> Prop) (files : σ) :
    storage.Agree kept files files := fun _ _ => rfl

theorem Storage.Agree.trans (first : storage.Agree kept origin files)
    (second : storage.Agree kept files after) : storage.Agree kept origin after :=
  fun path keeps => (second path keeps).trans (first path keeps)

/-- Dumps and sources that are files of their own: what is written to a source reaches no other of
them, and the copy that is kept of a source reaches none. -/
structure Storage.Separates (storage : Storage σ) (dumps : List String) (source : String -> Prop) :
    Prop where
  distinct : ∀ dump ∈ dumps, ¬ source dump
  write : ∀ {files path text after other}, source path → other ∈ dumps ∨ source other →
    other ≠ path → storage.write files path text = .ok after →
      storage.read after other = storage.read files other
  copy : ∀ {files path after other}, source path → other ∈ dumps ∨ source other →
    storage.copy files path (backupPath path) = .ok after →
      storage.read after other = storage.read files other

/-- The source that a dump names, if the dump can be read that far. -/
def Document.source? (storage : Storage σ) (files : σ) (dump : String) : Option String :=
  match readDump storage files dump with
  | .error _ => none
  | .ok fields => (Dump.sourceField fields).toOption.map (Dump.sourcePath dump)

namespace Document

variable {dump : String} {document : Document}

/-- A document that is loaded is that of the source which the dump names, with its text. -/
theorem of_load_eq_ok (loaded : load storage files dump = .ok document) :
    source? storage files dump = some document.path ∧
      storage.read files document.path = .ok document.text := by
  obtain ⟨fields, source, table, named, path, reads, -⟩ := exists_of_load loaded
  refine ⟨?_, reads⟩
  rw [source?, table]
  dsimp only
  rw [named, path]
  rfl

theorem readDump_congr (same : storage.read after dump = storage.read files dump) :
    readDump storage after dump = readDump storage files dump := by
  unfold readDump
  rw [same]

theorem source?_congr (same : storage.read after dump = storage.read files dump) :
    source? storage after dump = source? storage files dump := by
  unfold source?
  rw [readDump_congr same]

/-- Files that agree on a dump and on the source that it names give the same document. -/
theorem load_congr (same : storage.read after dump = storage.read files dump)
    (sources : ∀ path, source? storage files dump = some path →
      storage.read after path = storage.read files path) :
    load storage after dump = load storage files dump := by
  unfold load
  rw [readDump_congr same]
  unfold source? at sources
  cases table : readDump storage files dump with
  | error error => rfl
  | ok fields =>
    rw [table] at sources
    dsimp only at sources ⊢
    unfold ofFields
    cases named : Dump.sourceField fields with
    | error fault => rfl
    | ok source =>
      rw [named] at sources
      dsimp only
      rw [sources _ rfl]

/-- A dump that is kept with its source gives the document that it gave at first. -/
theorem load_of_agree (agree : storage.Agree kept origin files) (keeps : kept dump) {path : String}
    (named : source? storage origin dump = some path) (keepsSource : kept path) :
    load storage files dump = load storage origin dump := by
  refine load_congr (agree dump keeps) fun other otherNamed => ?_
  obtain rfl := Option.some.inj (named.symm.trans otherNamed)
  exact agree _ keepsSource

/-- A document with nothing to be rewritten: what its repairs ask for is what is there. -/
def Still (rule : Rule) (document : Document) : Prop :=
  ∀ progress, document.repairs rule = .ok progress →
    (Script.merge progress.scripts).apply document.text = document.text

end Document

/-- Whether a result says that the file under a path was rewritten. -/
def Rewritten (results : List FixResult) (path : String) : Prop :=
  ∃ result ∈ results, result.path = path ∧ result.modified = true

/-- Files of a kind that writing and copying keep, where a file that can be read is refused neither
to be read once more nor to be written. -/
structure Storage.Writable (storage : Storage σ) (granted : σ -> Prop) : Prop where
  rereads : ∀ {files path error}, granted files → storage.refusal files path = some error →
    error.isSystem = false
  accepts : ∀ {files path old text error}, granted files → storage.read files path = .ok old →
    storage.write files path text = .error error → error.isSystem = false
  write : ∀ {files path text after}, granted files → storage.write files path text = .ok after →
    granted after
  copy : ∀ {files source destination after}, granted files →
    storage.copy files source destination = .ok after → granted after

namespace Storage.Writable

variable {granted : σ -> Prop}

theorem keepBackup (writable : storage.Writable granted) (grants : granted files) {path : String}
    (copied : keepBackup storage files backups path = .ok after) : granted after := by
  cases backups with
  | false =>
    obtain rfl := Except.ok.inj copied
    exact grants
  | true => exact writable.copy grants copied

/-- A fix keeps the kind of the files. -/
theorem fixDocument (writable : storage.Writable granted) (grants : granted files)
    (document : Document) : granted (fixDocument storage files rule backups document).files := by
  unfold TagOrder.fixDocument
  cases document.repairs rule with
  | error fault => exact grants
  | ok progress =>
    dsimp only
    have written := writeRepairs_written storage files backups document.path progress
    generalize (writeRepairs storage files backups document.path progress).answer.map
      FixResult.modified = answer at written
    generalize (writeRepairs storage files backups document.path progress).files = left at written ⊢
    cases written with
    | nothing none => exact grants
    | uncopied failed => exact grants
    | unread copied failed => exact writable.keepBackup grants copied
    | same copied reads same => exact writable.keepBackup grants copied
    | refused copied reads failed => exact writable.keepBackup grants copied
    | changed copied reads differs writes =>
      exact writable.write (writable.keepBackup grants copied) writes

end Storage.Writable

/-- The path of a result is that of the document. -/
theorem path_of_fixDocument {document : Document} {result : FixResult}
    (answered : (fixDocument storage files rule backups document).answer = .ok result) :
    result.path = document.path := by
  unfold fixDocument at answered
  split at answered
  · cases answered
  · unfold writeRepairs at answered
    split at answered
    · obtain rfl := Except.ok.inj answered
      rfl
    · split at answered
      · cases answered
      · dsimp only at answered
        split at answered
        · cases answered
        · obtain rfl := Except.ok.inj answered
          rfl

/-- Nothing to be merged changes nothing. -/
theorem Script.apply_merge_nil (text : Text) : (Script.merge []).apply text = text := by
  simp [Script.merge, Script.disjoint, Script.disjointFrom, Script.apply, Script.fromBack]

theorem exists_of_map_eq_ok {ε α β : Type} {shown : α -> β} {value : Except ε α} {image : β}
    (mapped : value.map shown = .ok image) : ∃ inner, value = .ok inner ∧ shown inner = image := by
  cases value with
  | error error => cases mapped
  | ok inner => exact ⟨inner, rfl, Except.ok.inj mapped⟩

section Separate

variable {dumps : List String} {source : String -> Prop} {granted : σ -> Prop}

/-- What a copy leaves alone. -/
theorem Storage.Separates.agree_keepBackup (separates : storage.Separates dumps source)
    (within : ∀ path, kept path → path ∈ dumps ∨ source path) {path : String} (named : source path)
    (copied : keepBackup storage files backups path = .ok after) :
    storage.Agree kept files after := by
  cases backups with
  | false =>
    obtain rfl := Except.ok.inj copied
    exact .refl storage kept files
  | true => exact fun other keeps => separates.copy named (within other keeps) copied

/-- A fix leaves every kept path alone if the document, where its own source is kept, has nothing
to be rewritten. -/
theorem fixDocument_agree (separates : storage.Separates dumps source)
    (within : ∀ path, kept path → path ∈ dumps ∨ source path) {document : Document}
    (named : source document.path)
    (holds : storage.read files document.path = .ok document.text)
    (still : kept document.path → document.Still rule) :
    storage.Agree kept files (fixDocument storage files rule backups document).files := by
  unfold fixDocument
  cases repaired : document.repairs rule with
  | error fault => exact .refl storage kept files
  | ok progress =>
    dsimp only
    have written := writeRepairs_written storage files backups document.path progress
    generalize (writeRepairs storage files backups document.path progress).answer.map
      FixResult.modified = answer at written
    generalize (writeRepairs storage files backups document.path progress).files = left at written ⊢
    cases written with
    | nothing none => exact .refl storage kept files
    | uncopied failed => exact .refl storage kept files
    | unread copied failed => exact separates.agree_keepBackup within named copied
    | same copied reads same => exact separates.agree_keepBackup within named copied
    | refused copied reads failed => exact separates.agree_keepBackup within named copied
    | changed copied reads differs writes =>
      have copies := separates.agree_keepBackup within named copied
      refine copies.trans fun other keeps => ?_
      refine separates.write named (within other keeps) ?_ writes
      -- Its own source would be kept, and there is nothing to be rewritten in it.
      rintro rfl
      have held := Storage.read_of_reread reads
      rw [copies _ keeps, holds] at held
      obtain rfl := Except.ok.inj held
      exact differs (still keeps progress repaired)

/-- A run leaves every kept path alone if the documents of kept sources have nothing to be
rewritten. -/
theorem fixDumps_agree (separates : storage.Separates dumps source)
    (within : ∀ path, kept path → path ∈ dumps ∨ source path) {taken : List String}
    (keeps : ∀ dump ∈ taken, kept dump)
    (sources : ∀ dump ∈ taken, ∀ path, Document.source? storage origin dump = some path →
      source path)
    (still : ∀ dump ∈ taken, ∀ document, Document.load storage origin dump = .ok document →
      kept document.path → document.Still rule)
    (agree : storage.Agree kept origin files) :
    storage.Agree kept origin (fixDumps storage rule backups files taken).files := by
  induction taken generalizing files with
  | nil => exact agree
  | cons dump rest ih =>
    have onDump := agree dump (keeps dump List.mem_cons_self)
    have onRest : ∀ {left : σ}, storage.Agree kept origin left →
        storage.Agree kept origin (fixDumps storage rule backups left rest).files :=
      ih (fun other member => keeps other (List.mem_cons_of_mem _ member))
        (fun other member => sources other (List.mem_cons_of_mem _ member))
        (fun other member => still other (List.mem_cons_of_mem _ member))
    unfold fixDumps
    cases loaded : Document.load storage files dump with
    | error error => cases error <;> first | exact onRest agree | exact agree
    | ok document =>
      obtain ⟨path, holds⟩ := Document.of_load_eq_ok loaded
      rw [Document.source?_congr onDump] at path
      have step : storage.Agree kept files
          (fixDocument storage files rule backups document).files := by
        refine fixDocument_agree separates within
          (sources dump List.mem_cons_self _ path) holds fun keepsSource => ?_
        have same := Document.load_of_agree agree (keeps dump List.mem_cons_self) path keepsSource
        exact still dump List.mem_cons_self document (same.symm.trans loaded) keepsSource
      dsimp only
      cases answered : (fixDocument storage files rule backups document).answer with
      | error fault => exact agree.trans step
      | ok result => exact onRest (agree.trans step)

/-- Two runs over the same dumps leave every kept path alone, however they come out, if the
documents of kept sources have nothing to be rewritten. -/
theorem fixPaths_agree (separates : storage.Separates dumps source)
    (within : ∀ path, kept path → path ∈ dumps ∨ source path) (keeps : ∀ dump ∈ dumps, kept dump)
    (sources : ∀ dump ∈ dumps, ∀ path, Document.source? storage files dump = some path →
      source path)
    (still : ∀ dump ∈ dumps, ∀ document, Document.load storage files dump = .ok document →
      kept document.path → document.Still rule)
    {paths : List String} {warnings others : List Notice}
    (collected : collectDumps storage files paths = .ok (dumps, warnings))
    (again : collectDumps storage (fixPaths storage files rule backups paths).files paths =
      .ok (dumps, others)) :
    storage.Agree kept files (fixPaths storage files rule backups paths).files ∧
      storage.Agree kept files (fixPaths storage (fixPaths storage files rule backups paths).files
        rule backups paths).files := by
  have first : storage.Agree kept files (fixPaths storage files rule backups paths).files := by
    rw [fixPaths, collected]
    exact fixDumps_agree separates within keeps sources still (.refl storage kept files)
  generalize (fixPaths storage files rule backups paths).files = left at again first
  refine ⟨first, ?_⟩
  rw [fixPaths, again]
  exact fixDumps_agree separates within keeps sources still first

/-- A fix that says that nothing was changed had nothing to rewrite. -/
theorem still_of_fixDocument (separates : storage.Separates dumps source)
    (writable : storage.Writable granted) (grants : granted files) {document : Document}
    (named : source document.path)
    (holds : storage.read files document.path = .ok document.text) {result : FixResult}
    (answered : (fixDocument storage files rule backups document).answer = .ok result)
    (unmodified : result.modified = false) : document.Still rule := by
  intro progress repaired
  unfold fixDocument at answered
  rw [repaired] at answered
  have written := writeRepairs_written storage files backups document.path progress
  dsimp only at answered
  rw [answered, Except.map, unmodified] at written
  have held : ∀ {kept}, keepBackup storage files backups document.path = .ok kept →
      storage.read kept document.path = .ok document.text := by
    intro kept copied
    have agree : storage.Agree source files kept :=
      separates.agree_keepBackup (fun _ => .inr) named copied
    rw [agree _ named, holds]
  generalize (writeRepairs storage files backups document.path progress).files = left at written
  generalize told : (Except.ok false : Except Fault Bool) = answer at written
  cases written with
  | nothing none => rw [none, Script.apply_merge_nil]
  | uncopied failed => cases told
  | unread copied failed =>
    have refused := Storage.refusal_of_reread (held copied) failed
    rw [troubleAnswer, writable.rereads (writable.keepBackup grants copied) refused] at told
    cases told
  | same copied reads same =>
    obtain rfl := Except.ok.inj ((Storage.read_of_reread reads).symm.trans (held copied))
    exact same
  | refused copied reads failed =>
    have grantsKept := writable.keepBackup grants copied
    rw [troubleAnswer, writable.accepts grantsKept (held copied) failed] at told
    cases told
  | changed copied reads differs writes => cases told

/-- A dump that is kept and loads still gave this document at first, if it gave one whose source is
kept. -/
theorem Document.eq_of_load_agree (agree : storage.Agree kept origin files) {dump : String}
    (keeps : kept dump) {answer : Except LoadError Document} {document : Document}
    (here : Document.load storage files dump = answer)
    (loaded : Document.load storage origin dump = .ok document) (keepsSource : kept document.path) :
    answer = .ok document := by
  obtain ⟨path, -⟩ := Document.of_load_eq_ok loaded
  rw [← here, Document.load_of_agree agree keeps path keepsSource, loaded]

/-- A dump of a run whose source, where it is kept, the fix did not rewrite: the document had
nothing to be rewritten, and all that is kept is as it was. -/
theorem still_agree_of_fixDocument (separates : storage.Separates dumps source)
    (writable : storage.Writable granted) (within : ∀ path, kept path → path ∈ dumps ∨ source path)
    {dump : String} (keeps : kept dump)
    (sources : ∀ path, Document.source? storage origin dump = some path → source path)
    (grants : granted files) (agree : storage.Agree kept origin files) {document : Document}
    (loaded : Document.load storage files dump = .ok document) {result : FixResult}
    (answered : (fixDocument storage files rule backups document).answer = .ok result)
    (left : source document.path → kept document.path → result.modified = false) :
    (∀ other, Document.load storage origin dump = .ok other → kept other.path → other.Still rule) ∧
      storage.Agree kept origin (fixDocument storage files rule backups document).files := by
  obtain ⟨path, holds⟩ := Document.of_load_eq_ok loaded
  rw [Document.source?_congr (agree dump keeps)] at path
  have named := sources _ path
  have still : kept document.path → document.Still rule := fun keepsSource =>
    still_of_fixDocument separates writable grants named holds answered (left named keepsSource)
  constructor
  · intro other loadedThere keepsSource
    obtain rfl :=
      Except.ok.inj (Document.eq_of_load_agree agree keeps loaded loadedThere keepsSource)
    exact still keepsSource
  · exact agree.trans (fixDocument_agree separates within named holds still)

/-- Where a run comes to its end, the documents of the sources that it did not rewrite had nothing
to be rewritten. -/
theorem still_of_fixDumps {kept : String -> Prop} (separates : storage.Separates dumps source)
    (writable : storage.Writable granted) (within : ∀ path, kept path → path ∈ dumps ∨ source path)
    {taken : List String} (keeps : ∀ dump ∈ taken, kept dump)
    (sources : ∀ dump ∈ taken, ∀ path, Document.source? storage origin dump = some path →
      source path)
    (grants : granted files) (agree : storage.Agree kept origin files) {results : List FixResult}
    (answered : (fixDumps storage rule backups files taken).answer = .ok results)
    (left : ∀ path, source path → kept path → ¬ Rewritten results path) :
    ∀ dump ∈ taken, ∀ document, Document.load storage origin dump = .ok document →
      kept document.path → document.Still rule := by
  induction taken generalizing files results with
  | nil => exact fun dump member => nomatch member
  | cons dump rest ih =>
    obtain ⟨keepsDump, keepsRest⟩ := List.forall_mem_cons.mp keeps
    obtain ⟨sourcesHere, sourcesRest⟩ := List.forall_mem_cons.mp sources
    rw [List.forall_mem_cons]
    unfold fixDumps at answered
    cases loaded : Document.load storage files dump with
    | error error =>
      rw [loaded] at answered
      cases error with
      | file error => cases answered
      | beyond limit => cases answered
      | dump path fault =>
        -- The document could not be loaded at first either if its source is kept.
        refine ⟨fun document loadedThere keepsSource => ?_,
          ih keepsRest sourcesRest grants agree answered left⟩
        cases Document.eq_of_load_agree agree keepsDump loaded loadedThere keepsSource
    | ok document =>
      rw [loaded] at answered
      dsimp only at answered
      cases fixed : (fixDocument storage files rule backups document).answer with
      | error fault =>
        rw [fixed] at answered
        cases answered
      | ok result =>
        rw [fixed] at answered
        obtain ⟨others, finished, rfl⟩ := exists_of_map_eq_ok answered
        obtain ⟨here, onward⟩ := still_agree_of_fixDocument separates writable within keepsDump
          sourcesHere grants agree loaded fixed fun named keepsSource =>
            Bool.eq_false_iff.mpr fun modified => left _ named keepsSource
              ⟨result, List.mem_cons_self, path_of_fixDocument fixed, modified⟩
        refine ⟨here, ih keepsRest sourcesRest (writable.fixDocument grants document) onward
          finished fun path named keepsSource rewritten => left path named keepsSource ?_⟩
        obtain ⟨other, member, same, modified⟩ := rewritten
        exact ⟨other, List.mem_cons_of_mem _ member, same, modified⟩

end Separate

end Runs

namespace Shelf

/-- On a shelf, files of different names are files of their own. -/
theorem storage_separates {dumps : List String} {source : String -> Prop}
    (distinct : ∀ dump ∈ dumps, ¬ source dump)
    (copies : ∀ path, source path → ∀ other, other ∈ dumps ∨ source other →
      other ≠ backupPath path) : storage.Separates dumps source where
  distinct := distinct
  write := by
    intro shelf path text after other _ _ apart writes
    change write shelf path text = _ at writes
    change read after other = read shelf other
    unfold write at writes
    split at writes
    · cases writes
    · obtain rfl := Except.ok.inj writes
      unfold read
      rw [lookup_setText_of_ne _ _ apart]
  copy := by
    intro shelf path after other named within copied
    change copy shelf path (backupPath path) = _ at copied
    change read after other = read shelf other
    unfold copy at copied
    split at copied
    · obtain rfl := Except.ok.inj copied
      unfold read
      rw [lookup_setText_of_ne _ _ (copies path named other within)]
    · cases copied

/-- A shelf that is not refused to be written stays so. -/
theorem storage_writable : storage.Writable fun shelf => shelf.refusesWrite = false where
  rereads := fun _ refused => nomatch refused
  accepts := by
    intro shelf path old text error grants _ failed
    change write shelf path text = _ at failed
    rw [write, grants] at failed
    cases failed
  write := by
    intro shelf path text after grants writes
    change write shelf path text = _ at writes
    rw [write, grants] at writes
    obtain rfl := Except.ok.inj writes
    rfl
  copy := by
    intro shelf source destination after grants copied
    change copy shelf source destination = _ at copied
    unfold copy at copied
    split at copied
    · obtain rfl := Except.ok.inj copied
      exact grants
    · cases copied

end Shelf

end TagOrder
