import TagOrder.Fixing
import TagOrder.Storage.Shelf

/-!
# What a storage promises

A storage may hold texts of some characters only. `Storage.Lawful` says that what is written is read
back and that a copy leaves its source alone. `Storage.Serves` says that a text can be written to a
file with a copy kept of it. A shelf keeps the first promise, and the second one unless it refuses
to be read or written.
-/

namespace TagOrder

/-- What a storage of texts of the allowed characters promises about operations that succeed. -/
structure Storage.Lawful {σ : Type} (storage : Storage σ) (allowed : Char -> Prop) : Prop where
  read_allowed : ∀ {files path text}, storage.read files path = .ok text → ∀ c ∈ text, allowed c
  read_write : ∀ {files path old text after}, storage.read files path = .ok old →
    storage.write files path text = .ok after → (∀ c ∈ text, allowed c) →
      storage.read after path = .ok text
  read_copy : ∀ {files source destination after},
    storage.copy files source destination = .ok after → source ≠ destination →
      storage.read after source = storage.read files source

/-- The copy of a file is kept, if one is wanted, and after that the file can be read once more and
be written with a text. -/
inductive Storage.Serves {σ : Type} (storage : Storage σ) (files : σ) (backups : Bool)
    (path : String) (text : Text) : Prop where
  | intro {kept held after} (copied : keepBackup storage files backups path = .ok kept)
      (rereads : storage.reread kept path = .ok held)
      (writes : storage.write kept path text = .ok after)

/-- The copy that is kept of a file holds what the file holds, and still does when the file has been
written. -/
structure Storage.KeepsCopies {σ : Type} (storage : Storage σ) (files : σ) (path : String) :
    Prop where
  copied : ∀ kept, keepBackup storage files true path = .ok kept →
    storage.read kept (backupPath path) = storage.read files path
  written : ∀ kept text after, keepBackup storage files true path = .ok kept →
    storage.write kept path text = .ok after →
      storage.read after (backupPath path) = storage.read kept (backupPath path)

/-- The copy of a file has another path. -/
theorem path_ne_backupPath (path : String) : path ≠ backupPath path := by
  intro same
  have length := congrArg String.length same
  rw [backupPath, String.length_append] at length
  have longer : (".bak" : String).length = 4 := rfl
  omega

/-- Keeping a copy of a file leaves the file as it is. -/
theorem Storage.Lawful.read_kept {σ : Type} {storage : Storage σ} {allowed : Char -> Prop}
    {files kept : σ} {backups : Bool} {path : String} (lawful : storage.Lawful allowed)
    (copied : keepBackup storage files backups path = .ok kept) :
    storage.read kept path = storage.read files path := by
  cases backups with
  | false =>
    obtain rfl := Except.ok.inj copied
    rfl
  | true => exact lawful.read_copy copied (path_ne_backupPath path)

namespace Shelf

/-- A shelf holds texts of any characters. -/
theorem storage_lawful : storage.Lawful fun _ => True where
  read_allowed := fun _ _ _ => trivial
  read_write := by
    intro shelf path old text after reads writes _
    change read shelf path = _ at reads
    change write shelf path text = _ at writes
    change read after path = _
    unfold read at reads
    unfold write at writes
    split at writes
    · cases writes
    · obtain rfl := Except.ok.inj writes
      split at reads
      · cases reads
      · rename_i serves
        unfold read
        rw [if_neg serves, lookup_setText]
  read_copy := by
    intro shelf source destination after copies distinct
    change copy shelf source destination = _ at copies
    change read after source = read shelf source
    unfold copy at copies
    split at copies
    · obtain rfl := Except.ok.inj copies
      unfold read
      rw [lookup_setText_of_ne _ _ distinct]
    · cases copies

/-- A shelf that can be read and written serves a fix of a file that it holds. -/
theorem storage_serves {shelf : Shelf} {path : String} {held : Text}
    (reads : storage.read shelf path = .ok held) (writable : shelf.refusesWrite = false)
    (backups : Bool) (text : Text) : storage.Serves shelf backups path text := by
  obtain ⟨kept, copied, stays⟩ : ∃ kept, keepBackup storage shelf backups path = .ok kept ∧
      kept.refusesWrite = false := by
    cases backups with
    | false => exact ⟨shelf, rfl, writable⟩
    | true =>
      have stands : shelf.texts.lookup path = some held := by
        change read shelf path = .ok held at reads
        unfold read at reads
        split at reads
        · cases reads
        · split at reads
          · obtain rfl := Except.ok.inj reads
            assumption
          · cases reads
      change ∃ kept, copy shelf path (backupPath path) = .ok kept ∧ _
      unfold copy
      rw [stands]
      exact ⟨_, rfl, writable⟩
  have rereads : storage.reread kept path = .ok held :=
    (storage_lawful.read_kept copied).trans reads
  have writes : ∃ after, storage.write kept path text = .ok after := by
    change ∃ after, write kept path text = .ok after
    rw [write, stays]
    exact ⟨_, rfl⟩
  obtain ⟨after, writes⟩ := writes
  exact .intro copied rereads writes

/-- A shelf keeps the copies of its texts. -/
theorem storage_keepsCopies (shelf : Shelf) (path : String) :
    storage.KeepsCopies shelf path where
  copied := by
    intro kept copied
    change copy shelf path (backupPath path) = .ok kept at copied
    change read kept (backupPath path) = read shelf path
    unfold copy at copied
    split at copied
    · rename_i text holds
      obtain rfl := Except.ok.inj copied
      unfold read
      rw [holds, lookup_setText]
    · cases copied
  written := by
    intro kept text after _ written
    change write kept path text = .ok after at written
    change read after (backupPath path) = read kept (backupPath path)
    unfold write at written
    split at written
    · cases written
    · obtain rfl := Except.ok.inj written
      unfold read
      rw [lookup_setText_of_ne _ _ (path_ne_backupPath path).symm]

end Shelf

end TagOrder
