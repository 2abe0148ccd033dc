import TagOrder.Fixing

/-!
# What a fix writes

`Written` tells the ways in which the repairs of a document are written to its file: what files each
leaves, and whether its answer says that the file was changed. `writeRepairs_written` is the one
place where the writing itself is looked into. Where it is known how the storage answers, a fix is
known as a whole (`writeRepairs_of_nil`, `writeRepairs_of_applied`).
-/

namespace TagOrder

variable {σ : Type} {storage : Storage σ} {files after : σ} {backups : Bool} {path : String}
  {scripts : List Script}

/-- The answer after a trouble with a file: nothing was changed, or a fault. -/
def troubleAnswer (error : FileError) : Except Fault Bool :=
  if error.isSystem then .ok false else .error (.file error)

theorem answer_fileTrouble (files : σ) (action path : String) (error : FileError) :
    (fileTrouble files action path error).answer = troubleAnswer error := by
  unfold fileTrouble troubleAnswer
  split <;> rfl

theorem files_fileTrouble (files : σ) (action path : String) (error : FileError) :
    (fileTrouble files action path error).files = files := by
  unfold fileTrouble
  split <;> rfl

/-- The ways in which scripts are written to a file. -/
inductive Written (storage : Storage σ) (files : σ) (backups : Bool) (path : String)
    (scripts : List Script) : σ -> Except Fault Bool -> Prop where
  | nothing (none : scripts = []) : Written storage files backups path scripts files (.ok false)
  | uncopied {error} (failed : keepBackup storage files backups path = .error error) :
      Written storage files backups path scripts files (.error (.file error))
  | unread {kept error} (copied : keepBackup storage files backups path = .ok kept)
      (failed : storage.reread kept path = .error error) :
      Written storage files backups path scripts kept (troubleAnswer error)
  | same {kept source} (copied : keepBackup storage files backups path = .ok kept)
      (reads : storage.reread kept path = .ok source)
      (same : (Script.merge scripts).apply source = source) :
      Written storage files backups path scripts kept (.ok false)
  | refused {kept source error} (copied : keepBackup storage files backups path = .ok kept)
      (reads : storage.reread kept path = .ok source)
      (failed : storage.write kept path ((Script.merge scripts).apply source) = .error error) :
      Written storage files backups path scripts kept (troubleAnswer error)
  | changed {kept source after} (copied : keepBackup storage files backups path = .ok kept)
      (reads : storage.reread kept path = .ok source)
      (differs : (Script.merge scripts).apply source ≠ source)
      (writes : storage.write kept path ((Script.merge scripts).apply source) = .ok after) :
      Written storage files backups path scripts after (.ok true)

/-- Where the answer says that the file was changed, it was written. -/
theorem Written.of_changed (written : Written storage files backups path scripts after (.ok true)) :
    ∃ kept source, keepBackup storage files backups path = .ok kept ∧
      storage.reread kept path = .ok source ∧
        storage.write kept path ((Script.merge scripts).apply source) = .ok after := by
  have noTrouble : ∀ error, troubleAnswer error ≠ .ok true := by
    intro error told
    unfold troubleAnswer at told
    split at told <;> cases told
  generalize told : (Except.ok true : Except Fault Bool) = answer at written
  cases written with
  | nothing none => cases told
  | uncopied failed => cases told
  | unread copied failed => exact absurd told.symm (noTrouble _)
  | same copied reads same => cases told
  | refused copied reads failed => exact absurd told.symm (noTrouble _)
  | changed copied reads differs writes => exact ⟨_, _, copied, reads, writes⟩

theorem applyScripts_written {kept : σ}
    (copied : keepBackup storage files backups path = .ok kept) :
    Written storage files backups path scripts (applyScripts storage kept path scripts).files
      (applyScripts storage kept path scripts).answer := by
  unfold applyScripts
  cases reads : storage.reread kept path with
  | error error =>
    dsimp only
    rw [answer_fileTrouble, files_fileTrouble]
    exact .unread copied reads
  | ok source =>
    dsimp only
    by_cases same : (Script.merge scripts).apply source = source
    · rw [if_pos same]
      exact .same copied reads same
    · rw [if_neg same]
      cases writes : storage.write kept path ((Script.merge scripts).apply source) with
      | error error =>
        dsimp only
        rw [answer_fileTrouble, files_fileTrouble]
        exact .refused copied reads writes
      | ok after => exact .changed copied reads same writes

/-- The repairs of a document are written in one of these ways. -/
theorem writeRepairs_written (storage : Storage σ) (files : σ) (backups : Bool) (path : String)
    (progress : Progress) :
    Written storage files backups path progress.scripts
      (writeRepairs storage files backups path progress).files
      ((writeRepairs storage files backups path progress).answer.map FixResult.modified) := by
  unfold writeRepairs
  split
  · rename_i none
    exact .nothing (List.isEmpty_iff.mp none)
  · cases copied : keepBackup storage files backups path with
    | error error => exact .uncopied copied
    | ok kept =>
      have written : Written storage files backups path progress.scripts _ _ :=
        applyScripts_written copied
      dsimp only
      cases answered : (applyScripts storage kept path progress.scripts).answer <;>
        rw [answered] at written <;> exact written

section Answers

variable {kept : σ} {progress : Progress} {source updated : Text}

/-- Where no tag changed nothing is written. -/
theorem writeRepairs_of_nil (none : progress.scripts = []) :
    writeRepairs storage files backups path progress =
      { files
        notices := progress.notices
        answer := .ok { path, modified := false, unresolvedTags := progress.unresolved } } := by
  rw [writeRepairs, none]
  rfl

/-- Where scripts were applied, it is told what came of them. -/
theorem writeRepairs_of_applied {notices : List Notice} {modified : Bool}
    (some : progress.scripts ≠ []) (copied : keepBackup storage files backups path = .ok kept)
    (applied : applyScripts storage kept path progress.scripts =
      { files := after, notices, answer := .ok modified }) :
    writeRepairs storage files backups path progress =
      { files := after
        notices := progress.notices ++ notices ++
          if modified then [reorderedNotice path progress.fixed] else []
        answer := .ok { path, modified, fixedTags := progress.fixed
                        unresolvedTags := progress.unresolved } } := by
  rw [writeRepairs, if_neg (mt List.isEmpty_iff.mp some), copied]
  dsimp only
  rw [applied]

/-- And so it is when the whole document is fixed. -/
theorem fixDocument_of_applied {rule : Rule} {document : Document} {notices : List Notice}
    {modified : Bool} (finished : document.repairs rule = .ok progress)
    (some : progress.scripts ≠ [])
    (copied : keepBackup storage files backups document.path = .ok kept)
    (applied : applyScripts storage kept document.path progress.scripts =
      { files := after, notices, answer := .ok modified }) :
    fixDocument storage files rule backups document =
      { files := after
        notices := progress.notices ++ notices ++
          if modified then [reorderedNotice document.path progress.fixed] else []
        answer := .ok { path := document.path, modified, fixedTags := progress.fixed
                        unresolvedTags := progress.unresolved } } := by
  rw [fixDocument, finished]
  exact writeRepairs_of_applied some copied applied

/-- A file that is written with what scripts make of it. -/
theorem applyScripts_of_written (reads : storage.reread kept path = .ok source)
    (merged : (Script.merge scripts).apply source = updated) (differs : updated ≠ source)
    (writes : storage.write kept path updated = .ok after) :
    applyScripts storage kept path scripts = { files := after, answer := .ok true } := by
  rw [applyScripts, reads]
  dsimp only
  rw [merged, if_neg differs, writes]

/-- A file that the file system refuses to have written. -/
theorem applyScripts_of_refused {error : FileError} (reads : storage.reread kept path = .ok source)
    (merged : (Script.merge scripts).apply source = updated) (differs : updated ≠ source)
    (refused : storage.write kept path updated = .error error) (system : error.isSystem = true) :
    applyScripts storage kept path scripts =
      { files := kept, notices := [troubleNotice "write" path error], answer := .ok false } := by
  rw [applyScripts, reads]
  dsimp only
  rw [merged, if_neg differs, refused]
  exact if_pos system

end Answers

end TagOrder
