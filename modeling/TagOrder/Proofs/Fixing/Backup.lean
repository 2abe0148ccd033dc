import TagOrder.Proofs.Fixing.Progress
import TagOrder.Proofs.Session

/-!
# Backups and refusals

A fix copies the file aside before it reads it again, and reads it before it writes it. Whatever the
file system refuses, the file ends with what it held or with the whole of the fixed text, and the
answer tells which (`Written.of_refusing`). The copy is made before any of this is known: it holds
what the file held, and it is there whenever a tag was put in another order, also where the file was
then left as it was (`fixDocument_backup`, `fixDocument_backup_unmodified`).
-/

namespace TagOrder

/-- A storage in which the file system refuses to have files read once more, or written, with some
errors. A copy is not refused: it is made before, and not through these reads. -/
def Storage.refusing {σ : Type} (storage : Storage σ) (onRead onWrite : Option FileError) :
    Storage σ :=
  { storage with
    refusal := fun files path => onRead <|> storage.refusal files path
    write := fun files path text =>
      match onWrite with
      | some error => .error error
      | none => storage.write files path text }

section Refusing

variable {σ : Type} {storage : Storage σ} {allowed : Char -> Prop} {files after : σ}
  {path : String} {scripts : List Script} {source : Text} {onRead onWrite : Option FileError}

/-- What a refusing storage reads, it was not kept from reading. -/
theorem Storage.of_reread_refusing {text : Text}
    (reads : (storage.refusing onRead onWrite).reread files path = .ok text) :
    onRead = none ∧ storage.reread files path = .ok text := by
  cases onRead with
  | some error => cases reads
  | none => exact ⟨rfl, reads⟩

/-- What a refusing storage cannot read once more is refused, or could not be read anyhow. -/
theorem Storage.of_reread_refusing_error {error : FileError}
    (failed : (storage.refusing onRead onWrite).reread files path = .error error) :
    onRead = some error ∨ onRead = none ∧ storage.reread files path = .error error := by
  cases onRead with
  | some refusal => exact .inl (congrArg some (Except.error.inj failed))
  | none => exact .inr ⟨rfl, failed⟩

/-- What a refusing storage writes, it was not kept from writing. -/
theorem Storage.of_write_refusing {text : Text}
    (writes : (storage.refusing onRead onWrite).write files path text = .ok after) :
    onWrite = none ∧ storage.write files path text = .ok after := by
  cases onWrite with
  | some error => cases writes
  | none => exact ⟨rfl, writes⟩

/-- What a refusing storage cannot write is refused, or could not be written anyhow. -/
theorem Storage.of_write_refusing_error {text : Text} {error : FileError}
    (failed : (storage.refusing onRead onWrite).write files path text = .error error) :
    onWrite = some error ∨ onWrite = none ∧ storage.write files path text = .error error := by
  cases onWrite with
  | some refusal => exact .inl (congrArg some (Except.error.inj failed))
  | none => exact .inr ⟨rfl, failed⟩

/-- Scripts written, with a copy kept, to a file that can be read and written but for what is
refused: the answer tells whether it was changed, it ends with the whole of the new text or with
what it held, and the copy holds what it held. -/
theorem Written.of_refusing {answer : Except Fault Bool} (lawful : storage.Lawful allowed)
    (some : scripts ≠ [])
    (serves : storage.Serves files true path ((Script.merge scripts).apply source))
    (copies : storage.KeepsCopies files path) (reads : storage.read files path = .ok source)
    (legal : ∀ c ∈ (Script.merge scripts).apply source, allowed c)
    (unread : ∀ error ∈ onRead, error.isSystem = true)
    (unwritten : ∀ error ∈ onWrite, error.isSystem = true)
    (written : Written (storage.refusing onRead onWrite) files true path scripts after answer) :
    ∃ modified, answer = .ok modified ∧
      (modified = true ↔ onRead = none ∧ onWrite = none ∧
        (Script.merge scripts).apply source ≠ source) ∧
      storage.read after path =
        .ok (if modified then (Script.merge scripts).apply source else source) ∧
      storage.read after (backupPath path) = .ok source := by
  obtain @⟨kept, held, _, copied, rereads, writable⟩ := serves
  have here : storage.read kept path = .ok source := (lawful.read_kept copied).trans reads
  have saved : storage.read kept (backupPath path) = .ok source :=
    (copies.copied _ copied).trans reads
  obtain rfl := Except.ok.inj ((Storage.read_of_reread rereads).symm.trans here)
  cases written with
  | nothing none => exact absurd none some
  | uncopied failed => cases failed.symm.trans copied
  | unread again failed =>
    obtain rfl := Except.ok.inj (again.symm.trans copied)
    rcases Storage.of_reread_refusing_error failed with rfl | ⟨-, failed⟩
    · exact ⟨false, if_pos (unread _ rfl), by simp, here, saved⟩
    · cases failed.symm.trans rereads
  | same again readsKept same =>
    obtain rfl := Except.ok.inj (again.symm.trans copied)
    obtain ⟨rfl, readsKept⟩ := Storage.of_reread_refusing readsKept
    obtain rfl := Except.ok.inj (readsKept.symm.trans rereads)
    exact ⟨false, rfl, by simp [same], here, saved⟩
  | refused again readsKept failed =>
    obtain rfl := Except.ok.inj (again.symm.trans copied)
    obtain ⟨rfl, readsKept⟩ := Storage.of_reread_refusing readsKept
    obtain rfl := Except.ok.inj (readsKept.symm.trans rereads)
    rcases Storage.of_write_refusing_error failed with rfl | ⟨-, failed⟩
    · exact ⟨false, if_pos (unwritten _ rfl), by simp, here, saved⟩
    · cases failed.symm.trans writable
  | changed again readsKept differs writes =>
    obtain rfl := Except.ok.inj (again.symm.trans copied)
    obtain ⟨rfl, readsKept⟩ := Storage.of_reread_refusing readsKept
    obtain rfl := Except.ok.inj (readsKept.symm.trans rereads)
    obtain ⟨rfl, written⟩ := Storage.of_write_refusing writes
    refine ⟨true, rfl, by simp [differs], lawful.read_write here written legal, ?_⟩
    rw [copies.written _ _ _ copied written, saved]

/-- The answer counts a tag for each script. -/
theorem fixedTags_of_writeRepairs {backups : Bool} {progress : Progress} {result : FixResult}
    (counted : progress.fixed = progress.scripts.length)
    (answered : (writeRepairs storage files backups path progress).answer = .ok result) :
    result.fixedTags = progress.scripts.length := by
  by_cases none : progress.scripts = []
  · rw [writeRepairs_of_nil none] at answered
    rw [← Except.ok.inj answered, none]
    rfl
  rw [writeRepairs, if_neg (mt List.isEmpty_iff.mp none)] at answered
  split at answered
  · cases answered
  · dsimp only at answered
    split at answered
    · cases answered
    · obtain rfl := Except.ok.inj answered
      exact counted

end Refusing

/-- A document fixed with a copy kept of its file, whatever reads and writes the file system
refuses: the fix comes to its end, and the file holds what it held or the whole of the fixed text,
as the answer says. The copy is made when a tag was put in another order: it holds what the file
held, also where the file was not changed. -/
theorem fixDocument_backup {σ : Type} (storage : Storage σ) (allowed : Char -> Prop)
    (lawful : storage.Lawful allowed) (files : σ) (options : Options) (document : Document)
    (source : Text)
    (serves : ∀ progress, document.repairs { options } = .ok progress → progress.scripts ≠ [] →
      storage.Serves files true document.path ((Script.merge progress.scripts).apply source))
    (copies : storage.KeepsCopies files document.path)
    (reads : storage.read files document.path = .ok source)
    (text : ∀ c ∈ document.text, allowed c)
    (nodes : ∀ tag ∈ document.tags, ∀ node ∈ tag.attributes, ∀ c ∈ node.text, allowed c)
    (onRead onWrite : Option FileError) (unread : ∀ error ∈ onRead, error.isSystem = true)
    (unwritten : ∀ error ∈ onWrite, error.isSystem = true) :
    ∃ progress result, document.repairs { options } = .ok progress ∧
      let outcome := fixDocument (storage.refusing onRead onWrite) files { options } true document
      let fixed := (Script.merge progress.scripts).apply source
      outcome.answer = .ok result ∧ result.fixedTags = progress.scripts.length ∧
        storage.read outcome.files document.path =
          .ok (if result.modified then fixed else source) ∧
        (result.modified = true ↔ onRead = none ∧ onWrite = none ∧ fixed ≠ source) ∧
        (result.fixedTags = 0 → outcome.files = files) ∧
        (0 < result.fixedTags →
          storage.read outcome.files (backupPath document.path) = .ok source) := by
  have finishes : ∃ progress, document.repairs { options } = .ok progress :=
    Document.exists_repairs rfl document
  obtain ⟨progress, finished⟩ := finishes
  have whole : fixDocument (storage.refusing onRead onWrite) files { options } true document =
      writeRepairs (storage.refusing onRead onWrite) files true document.path progress := by
    rw [fixDocument, finished]
  dsimp only
  rw [whole]
  by_cases none : progress.scripts = []
  · rw [writeRepairs_of_nil none]
    refine ⟨progress, _, finished, rfl, ?_⟩
    simp [none, Script.apply_merge_nil, reads]
  have legal := Document.holds_merge finished text nodes fun c member =>
    lawful.read_allowed reads c member
  have written := writeRepairs_written (storage.refusing onRead onWrite) files true document.path
    progress
  obtain ⟨modified, told, changed, holds, copied⟩ := written.of_refusing lawful none
    (serves progress finished none) copies reads legal unread unwritten
  obtain ⟨result, answered, rfl⟩ := exists_of_map_eq_ok told
  have count := fixedTags_of_writeRepairs (Document.length_scripts finished) answered
  refine ⟨progress, result, finished, answered, count, holds, changed, ?_, fun _ => copied⟩
  rw [count, List.length_eq_zero_iff]
  exact fun empty => absurd empty none

/-- A page out of order, fixed: the copy holds what it held. -/
theorem fixDocument_backup_strayPage :
    let outcome := fixDocument (Shelf.storage.refusing none none) (projectOf strayPage []) {} true
      (pageDocument "page.vue" strayPage)
    (∃ result, outcome.answer = .ok result ∧ result.modified = true) ∧
      Shelf.storage.read outcome.files "page.vue" = .ok fixedPage ∧
      Shelf.storage.read outcome.files "page.vue.bak" = .ok strayPage := by
  have page := reordersProject_strayPage.page
  have reads : Shelf.storage.read (projectOf strayPage []) "page.vue" = .ok strayPage := rfl
  obtain ⟨progress, result, finished, answered, count, holds, changed, -, copied⟩ :=
    fixDocument_backup Shelf.storage (fun _ => True) Shelf.storage_lawful (projectOf strayPage [])
      {} (pageDocument "page.vue" strayPage) strayPage
      (fun _ _ _ => Shelf.storage_serves reads rfl true _) (Shelf.storage_keepsCopies _ _) reads
      (fun _ _ => trivial) (fun _ _ _ _ _ _ => trivial) none none (by simp) (by simp)
  obtain rfl := Except.ok.inj (finished.symm.trans page.repairs)
  have modified : result.modified = true :=
    changed.mpr ⟨rfl, rfl, by rw [page.applied]; exact page.differs⟩
  rw [modified, if_pos rfl, page.applied] at holds
  exact ⟨⟨result, answered, modified⟩, holds, copied (by rw [count]; decide)⟩

/-- Where the write is refused the file is as it was, and yet there is a copy of it, which was not
there before. -/
theorem fixDocument_backup_unmodified :
    let outcome := fixDocument (Shelf.storage.refusing none (some (.refused "write")))
      (projectOf strayPage []) {} true (pageDocument "page.vue" strayPage)
    Shelf.storage.read (projectOf strayPage []) "page.vue.bak" = .error (.missing "page.vue.bak") ∧
      outcome.answer = .ok { path := "page.vue", modified := false, fixedTags := 1 } ∧
      Shelf.storage.read outcome.files "page.vue" = .ok strayPage ∧
      Shelf.storage.read outcome.files "page.vue.bak" = .ok strayPage := by
  let kept : Shelf := { projectOf strayPage [] with
    texts := Shelf.setText "page.vue.bak" strayPage (projectOf strayPage []).texts
    done := [.copied "page.vue" "page.vue.bak"] }
  have copied : keepBackup (Shelf.storage.refusing none (some (.refused "write")))
      (projectOf strayPage []) true "page.vue" = .ok kept := rfl
  intro here
  rw [show here = _ from
    reordersProject_strayPage.page.fixDocument_refused copied rfl rfl rfl]
  exact ⟨rfl, rfl, rfl, rfl⟩

end TagOrder
