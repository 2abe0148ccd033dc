import TagOrder.Storage.Error
import TagOrder.Value.Limit

/-!
# Storage

What the tool asks of the place where files are kept: to read a text, to write one, to copy a file
and to find parser dumps. The texts are those of files, and so hold no halves of surrogate pairs. An
operation that fails leaves everything as it was.

What is read has a meaning only to a machine, whose limits come with the storage.

A source is read when its document is loaded and once more before it is written. The file system may
refuse the second time what it granted at first.
-/

namespace TagOrder

/-- How the names of parser dumps end. -/
def dumpEnding : String := ".attrs.json"

/-- The operations on files of type `σ`. -/
structure Storage (σ : Type) where
  read : σ -> String -> Except FileError Text
  /-- Why a file cannot be read once more, if it is refused then. -/
  refusal : σ -> String -> Option FileError := fun _ _ => none
  write : σ -> String -> Text -> Except FileError σ
  copy : σ -> String -> String -> Except FileError σ
  /-- The parser dumps that a path stands for. -/
  dumps : σ -> String -> Except FileError (List String)
  /-- How deep the values may be nested that are read and shown. -/
  limits : Limits := .usual

/-- A file read once more. -/
def Storage.reread {σ : Type} (storage : Storage σ) (files : σ) (path : String) :
    Except FileError Text :=
  match storage.refusal files path with
  | some error => .error error
  | none => storage.read files path

/-- What is read once more is what the file holds. -/
theorem Storage.read_of_reread {σ : Type} {storage : Storage σ} {files : σ} {path : String}
    {text : Text} (reads : storage.reread files path = .ok text) :
    storage.read files path = .ok text := by
  unfold reread at reads
  split at reads
  · cases reads
  · exact reads

/-- A file that can be read is refused where it cannot be read once more. -/
theorem Storage.refusal_of_reread {σ : Type} {storage : Storage σ} {files : σ} {path : String}
    {text : Text} {error : FileError} (reads : storage.read files path = .ok text)
    (failed : storage.reread files path = .error error) :
    storage.refusal files path = some error := by
  unfold reread at failed
  split at failed
  · rename_i refused
    rw [refused, Except.error.inj failed]
  · cases reads.symm.trans failed

end TagOrder
