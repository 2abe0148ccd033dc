import TagOrder.Audit
import TagOrder.Repair

/-!
# Fixing documents

The tags of a document are repaired one after the other in its text. Where a repair changed what a
tag's attributes cover, that span is replaced in the file: first the file is copied aside, then it
is read again, the scripts that do not overlap are merged, and the result is written if it differs.
A read or write that the file system refuses leaves the file as it is.

A fix yields the files as they then are, whether or not it came to its end.
-/

namespace TagOrder

/-- The outcome of fixing one document. -/
structure FixResult where
  path : String
  modified : Bool
  fixedTags : Nat := 0
  unresolvedTags : Nat := 0
  deriving DecidableEq, Repr

/-- Repairs made so far: the text, the script of each changed tag, how many tags changed, how many
did not come clean, and what was said. -/
structure Progress where
  text : Text
  scripts : List Script := []
  fixed : Nat := 0
  unresolved : Nat := 0
  notices : List Notice := []
  deriving DecidableEq, Repr

/-- What is said about a tag when it is repaired. -/
def repairNotices (path : String) (tag : Tag) (repair : Repair) : List Notice :=
  (if repair.cycled then [⟨.debug, "<" ++ tag.name ++ ">: fixes cycle between orders; stopping"⟩]
    else []) ++
  (if repair.clean then [] else
    [⟨.warning, path ++ ": <" ++ tag.name ++ "> is still out of order; " ++
      "reorder it by hand (attrs-order explain)"⟩])

/-- Repairs with one more tag repaired; a tag without attributes is passed over. -/
def repairTag (rule : Rule) (path : String) (progress : Progress) (tag : Tag) :
    Except TemplateFault Progress :=
  match tag.span with
  | none => .ok progress
  | some span =>
    match repair rule ⟨tag, progress.text⟩ with
    | .error fault => .error fault
    | .ok repair =>
      let text := repair.placed.text
      let changed := span.of text != span.of progress.text
      .ok
        { text := text
          scripts := if changed then progress.scripts ++ [[⟨span, span.of text⟩]]
            else progress.scripts
          fixed := if changed then progress.fixed + 1 else progress.fixed
          unresolved := if repair.clean then progress.unresolved else progress.unresolved + 1
          notices := progress.notices ++ repairNotices path tag repair }

/-- Repairs with more tags repaired. -/
def repairTags (rule : Rule) (path : String) (progress : Progress) :
    List Tag -> Except (Halted TemplateFault) Progress
  | [] => .ok progress
  | tag :: rest =>
    match repairTag rule path progress tag with
    | .error fault => .error { fault, notices := progress.notices }
    | .ok progress => repairTags rule path progress rest

/-- The repairs of a document. -/
def Document.repairs (rule : Rule) (document : Document) :
    Except (Halted TemplateFault) Progress :=
  repairTags rule document.path { text := document.text } document.tags

/-- What an action on files leaves: the files, what was said, and an answer or a fault. -/
structure Outcome (σ α : Type) where
  files : σ
  notices : List Notice := []
  answer : Except Fault α

/-- The notice of a file that could not be read or written. -/
def troubleNotice (action path : String) (error : FileError) : Notice :=
  ⟨.trouble, "Cannot " ++ action ++ " " ++ path ++ ": " ++ error.message⟩

/-- A trouble with a file: refused by the file system it is only noted, anything else is a
fault. -/
def fileTrouble {σ : Type} (files : σ) (action path : String) (error : FileError) :
    Outcome σ Bool :=
  if error.isSystem then
    { files, notices := [troubleNotice action path error], answer := .ok false }
  else { files, answer := .error (.file error) }

/-- A file with scripts applied to what it now holds; the answer is whether it changed. -/
def applyScripts {σ : Type} (storage : Storage σ) (files : σ) (path : String)
    (scripts : List Script) : Outcome σ Bool :=
  match storage.reread files path with
  | .error error => fileTrouble files "read" path error
  | .ok source =>
    let updated := (Script.merge scripts).apply source
    if updated = source then { files, answer := .ok false }
    else match storage.write files path updated with
      | .error error => fileTrouble files "write" path error
      | .ok files => { files, answer := .ok true }

/-- The path of the copy that is kept of a file. -/
def backupPath (path : String) : String := path ++ ".bak"

/-- The files with a copy kept of one, if copies are wanted. -/
def keepBackup {σ : Type} (storage : Storage σ) (files : σ) (backups : Bool) (path : String) :
    Except FileError σ :=
  if backups then storage.copy files path (backupPath path) else .ok files

/-- The notice of a file whose tags were put in order. -/
def reorderedNotice (path : String) (count : Nat) : Notice :=
  ⟨.step, "Reordered attributes in " ++ Nat.repr count ++ " tag(s): " ++ path⟩

/-- The file of a document, with the repairs of the document written to it. -/
def writeRepairs {σ : Type} (storage : Storage σ) (files : σ) (backups : Bool) (path : String)
    (progress : Progress) : Outcome σ FixResult :=
  if progress.scripts.isEmpty then
    { files, notices := progress.notices
      answer := .ok { path, modified := false, unresolvedTags := progress.unresolved } }
  else match keepBackup storage files backups path with
    | .error error => { files, notices := progress.notices, answer := .error (.file error) }
    | .ok files =>
      let applied := applyScripts storage files path progress.scripts
      match applied.answer with
      | .error fault =>
        { files := applied.files, notices := progress.notices ++ applied.notices
          answer := .error fault }
      | .ok modified =>
        { files := applied.files
          notices := progress.notices ++ applied.notices ++
            (if modified then [reorderedNotice path progress.fixed] else [])
          answer := .ok { path, modified, fixedTags := progress.fixed
                          unresolvedTags := progress.unresolved } }

/-- A document fixed: its tags repaired, and their spans replaced in its file where they changed. -/
def fixDocument {σ : Type} (storage : Storage σ) (files : σ) (rule : Rule) (backups : Bool)
    (document : Document) : Outcome σ FixResult :=
  match document.repairs rule with
  | .error halted =>
    { files, notices := halted.notices, answer := .error (.template halted.fault) }
  | .ok progress => writeRepairs storage files backups document.path progress

/-- The documents of some dumps fixed, each from the files as the one before left them; a dump
that is refused is noted and passed over. -/
def fixDumps {σ : Type} (storage : Storage σ) (rule : Rule) (backups : Bool) (files : σ) :
    List String -> Outcome σ (List FixResult)
  | [] => { files, answer := .ok [] }
  | dump :: rest =>
    match Document.load storage files dump with
    | .error (.dump path fault) =>
      let others := fixDumps storage rule backups files rest
      { others with notices := refusalNotice path fault :: others.notices }
    | .error error => { files, answer := .error (.load error) }
    | .ok document =>
      let fixed := fixDocument storage files rule backups document
      match fixed.answer with
      | .error fault => { files := fixed.files, notices := fixed.notices, answer := .error fault }
      | .ok result =>
        let others := fixDumps storage rule backups fixed.files rest
        { files := others.files
          notices := fixed.notices ++ others.notices
          answer := others.answer.map (result :: ·) }

/-- What paths stand for, fixed. -/
def fixPaths {σ : Type} (storage : Storage σ) (files : σ) (rule : Rule) (backups : Bool)
    (paths : List String) : Outcome σ (List FixResult) :=
  match collectDumps storage files paths with
  | .error halted => { files, notices := halted.notices, answer := .error halted.fault }
  | .ok (dumps, warnings) =>
    let fixed := fixDumps storage rule backups files dumps
    { fixed with notices := warnings ++ fixed.notices }

end TagOrder
