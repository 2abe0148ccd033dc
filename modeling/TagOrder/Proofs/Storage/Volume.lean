import TagOrder.Proofs.Answer
import TagOrder.Proofs.Storage.Law
import TagOrder.Proofs.Storage.Path
import TagOrder.Proofs.Text.Newline
import TagOrder.Proofs.Text.Utf8
import TagOrder.Storage.Search

/-!
# What a volume promises

A file put where no directory stands takes no way away: whatever a path led to, it leads to still
(`Volume.find_put`). So a file that was written is read back, and a copy leaves its source alone;
`Volume.storage_lawful` says this of texts without carriage returns, which is what is read, and
`Volume.storage_serves` that a file which is read can be written as well. A text of names that hold
halves of surrogate pairs cannot be written, and the attempt leaves the file empty
(`Volume.readOctets_writeText`); the texts of files hold none (`Volume.writeText_eq`).
-/

namespace TagOrder

namespace Volume

variable {volume after : Volume} {spot place : Place} {given : String} {octets : List UInt8}

/-- The root is a directory. -/
theorem ne_nil_of_fresh (fresh : volume.get? spot ≠ some .directory) : spot ≠ [] := by
  rintro rfl
  exact fresh rfl

/-- Names lead where they led, past a file put where no directory stands. -/
theorem walk_put (fresh : volume.get? spot ≠ some .directory) {start : Place} {names : List String}
    (led : volume.walk start names = .ok place) :
    (volume.put spot (.file octets)).walk start names = .ok place := by
  induction names generalizing start with
  | nil => exact led
  | cons name rest ih =>
    -- Every place left behind is a directory, and so not the one of the file.
    have isDirectory : volume.get? start = some .directory := by
      unfold walk at led
      split at led
      · assumption
      · cases led
      · cases led
    have other : start ≠ spot := by
      rintro rfl
      exact fresh isDirectory
    unfold walk at led ⊢
    rw [get?_put_of_ne volume _ other, isDirectory]
    rw [isDirectory] at led
    dsimp only at led ⊢
    split at led
    · rw [if_pos ‹_›]
      exact ih led
    · rw [if_neg ‹_›]
      split at led
      · cases led
      · rw [if_neg ‹_›]
        exact ih led

/-- A path leads where it led. -/
theorem find_put (fresh : volume.get? spot ≠ some .directory) {path : Path}
    (led : volume.find path = .ok place) :
    (volume.put spot (.file octets)).find path = .ok place :=
  walk_put fresh led

/-- A path as given leads to a place. -/
structure Locates (volume : Volume) (given : String) (place : Place) : Prop where
  faultless : pathFault? given = none
  named : given ≠ ""
  short : ¬ pathLimit ≤ octetCount given
  found : volume.find (Path.ofString given) = .ok place
  fits : asksDirectory given = true → ∀ octets, volume.get? place ≠ some (.file octets)

theorem locate_eq_ok_iff : volume.locate given = .ok place ↔ volume.Locates given place := by
  constructor
  · intro located
    unfold locate at located
    cases faultless : pathFault? given with
    | some error =>
      rw [faultless] at located
      cases located
    | none =>
      rw [faultless] at located
      dsimp only at located
      split at located
      · cases located
      split at located
      · cases located
      cases found : volume.find (Path.ofString given) with
      | error fault =>
        rw [found] at located
        cases located
      | ok there =>
        rw [found] at located
        dsimp only at located
        split at located
        · cases located
        · rename_i named short _ _ fits
          obtain rfl := Except.ok.inj located
          exact ⟨faultless, named, short, found, fun asks octets stands => fits octets asks stands⟩
  · rintro ⟨faultless, named, short, found, fits⟩
    unfold locate
    rw [faultless]
    dsimp only
    rw [if_neg named, if_neg short, found]
    dsimp only
    split
    · exact absurd ‹_› (fits ‹_› _)
    · rfl

/-- A path leads to the place where it led, as long as no file comes there of which it asks that it
be a directory. -/
theorem Locates.put (located : volume.Locates given place)
    (fresh : volume.get? spot ≠ some .directory)
    (apart : place ≠ spot ∨ asksDirectory given = false) :
    (volume.put spot (.file octets)).Locates given place where
  faultless := located.faultless
  named := located.named
  short := located.short
  found := find_put fresh located.found
  fits := by
    intro asks
    rcases apart with other | unasked
    · rw [get?_put_of_ne volume _ other]
      exact located.fits asks
    · rw [unasked] at asks
      cases asks

theorem readOctets_eq_ok_iff :
    volume.readOctets given = .ok octets ↔
      ∃ place, volume.Locates given place ∧ volume.get? place = some (.file octets) := by
  unfold readOctets
  rw [bind_eq_ok_iff]
  refine exists_congr fun place => and_congr locate_eq_ok_iff ?_
  constructor
  · intro read
    split at read
    · rename_i stands
      obtain rfl := Except.ok.inj read
      exact stands
    · cases read
    · cases read
  · intro stands
    rw [stands]
    rfl

/-- A path at which a file can be made leads to its place. -/
theorem located_of_locateNew (new : volume.locateNew given = .ok place) :
    volume.Locates given place := by
  rw [← locate_eq_ok_iff]
  unfold locateNew at new
  split at new
  · split at new <;> cases new
  · cases new
  · rename_i located
    split at new
    · cases new
    · rwa [← Except.ok.inj new]

/-- What writing a file does: it is put where its path leads, and no directory stands there. -/
theorem of_writeOctets (written : volume.writeOctets given octets = .ok after) :
    ∃ spot, volume.Locates given spot ∧ asksDirectory given = false ∧
      volume.get? spot ≠ some .directory ∧ after = volume.put spot (.file octets) := by
  unfold writeOctets at written
  obtain ⟨spot, new, written⟩ := bind_eq_ok_iff.mp written
  have located := located_of_locateNew new
  split at written
  · rename_i stands
    obtain rfl := Except.ok.inj written
    refine ⟨spot, located, ?_, ?_, rfl⟩
    · exact Bool.eq_false_iff.mpr fun asks => located.fits asks _ stands
    · rw [stands]
      simp
  · cases written
  · rename_i nothing
    split at written
    · cases written
    · rename_i unasked
      obtain rfl := Except.ok.inj written
      refine ⟨spot, located, Bool.eq_false_iff.mpr unasked, ?_, rfl⟩
      rw [nothing]
      simp

/-- A file that was written is read back. -/
theorem readOctets_writeOctets (written : volume.writeOctets given octets = .ok after) :
    after.readOctets given = .ok octets := by
  obtain ⟨spot, located, unasked, fresh, rfl⟩ := of_writeOctets written
  exact readOctets_eq_ok_iff.mpr
    ⟨spot, located.put fresh (.inr unasked), get?_put volume _ (ne_nil_of_fresh fresh)⟩

/-- What copying a file does: the copy is put somewhere else, and no directory stands there. -/
theorem of_copyFile {source destination : String}
    (copied : volume.copyFile source destination = .ok after) :
    ∃ place spot octets, volume.Locates source place ∧ volume.get? place = some (.file octets) ∧
      volume.Locates (volume.copyTarget source destination) spot ∧
      asksDirectory (volume.copyTarget source destination) = false ∧
      place ≠ spot ∧ volume.get? spot ≠ some .directory ∧
        after = volume.put spot (.file octets) := by
  unfold copyFile at copied
  dsimp only at copied
  generalize volume.copyTarget source destination = target at copied ⊢
  split at copied
  · cases copied
  split at copied
  · cases copied
  rename_i apart
  dsimp only [bind, Except.bind, pure, Except.pure] at copied
  cases read : volume.readOctets source with
  | error error =>
    rw [read] at copied
    cases copied
  | ok octets =>
    rw [read] at copied
    dsimp only at copied
    have written : volume.writeOctets target octets = .ok after := by
      split at copied
      · split at copied
        · split at copied <;> cases copied
        · cases copied
      · exact copied
    obtain ⟨place, located, stands⟩ := readOctets_eq_ok_iff.mp read
    obtain ⟨spot, targeted, unasked, fresh, rfl⟩ := of_writeOctets written
    refine ⟨place, spot, octets, located, stands, targeted, unasked, ?_, fresh, rfl⟩
    rintro rfl
    apply apart
    unfold leadToSame
    rw [locate_eq_ok_iff.mpr located, locate_eq_ok_iff.mpr targeted]
    dsimp only
    rw [stands]
    simp

/-- What is read under a path is decided by where it leads and what stands there. -/
theorem readOctets_congr {other : Volume} (led : volume.find (Path.ofString given) = .ok place)
    (same : other.find (Path.ofString given) = .ok place)
    (stands : other.get? place = volume.get? place) :
    other.readOctets given = volume.readOctets given := by
  have located : other.locate given = volume.locate given := by
    unfold locate
    rw [led, same]
    dsimp only
    rw [stands]
  unfold readOctets
  rw [located]
  cases reached : volume.locate given with
  | error error => rfl
  | ok there =>
    have here : there = place :=
      Except.ok.inj ((locate_eq_ok_iff.mp reached).found.symm.trans led)
    dsimp only [bind, Except.bind]
    rw [here, stands]

/-- A copy leaves its source alone, whatever path without what says nothing it is read under. -/
theorem readOctets_copyFile {source destination : String}
    (copied : volume.copyFile source destination = .ok after) :
    after.readOctets (tidyPath source) = volume.readOctets (tidyPath source) := by
  obtain ⟨place, spot, octets, located, -, -, -, apart, fresh, rfl⟩ := of_copyFile copied
  have led : volume.find (Path.ofString (tidyPath source)) = .ok place := by
    rw [Path.ofString_tidyPath]
    exact located.found
  exact readOctets_congr led (find_put fresh led) (get?_put_of_ne volume _ apart)

/-- Whether a file can be written does not depend on what is written. -/
theorem writeOctets_error (octets updated : List UInt8) {error : FileError}
    (failed : volume.writeOctets given octets = .error error) :
    volume.writeOctets given updated = .error error := by
  unfold writeOctets at failed ⊢
  dsimp only [bind, Except.bind] at failed ⊢
  cases new : volume.locateNew given with
  | error fault =>
    rw [new] at failed
    exact failed
  | ok spot =>
    rw [new] at failed
    dsimp only at failed ⊢
    split at failed
    · cases failed
    · exact failed
    · split at failed
      · rw [if_pos ‹_›]
        exact failed
      · cases failed

/-- A file that can be read can be written. -/
theorem exists_writeOctets (read : volume.readOctets given = .ok octets) (updated : List UInt8) :
    ∃ after, volume.writeOctets given updated = .ok after := by
  obtain ⟨place, located, stands⟩ := readOctets_eq_ok_iff.mp read
  have unasked : asksDirectory given = false :=
    Bool.eq_false_iff.mpr fun asks => located.fits asks _ stands
  have unnamed : namesDirectory given = false := by
    have named : (baseName given == "") = false := (Bool.or_eq_false_iff.mp unasked).1
    rw [namesDirectory, named, Bool.false_and]
  have new : volume.locateNew given = .ok place := by
    unfold locateNew
    rw [locate_eq_ok_iff.mpr located]
    dsimp only
    rw [unnamed]
    rfl
  unfold writeOctets
  rw [new]
  dsimp only [bind, Except.bind]
  rw [stands]
  exact ⟨_, rfl⟩

/-- A text without halves of surrogate pairs is written as a storage writes it. -/
theorem writeText_eq {path : String} {text : Text} (whole : Utf8.encodeFault? text = none) :
    volume.writeText path text =
      match storage.write volume path text with
      | .ok after => (after, none)
      | .error error => (volume, some error) := by
  change _ = match volume.write path text with
    | .ok after => (after, none)
    | .error error => (volume, some error)
  unfold writeText
  cases emptied : volume.write path [] with
  | error error =>
    have failed : volume.write path text = .error error := writeOctets_error _ _ emptied
    rw [failed]
  | ok empty =>
    dsimp only
    rw [whole]
    cases volume.write path text <;> rfl

/-- A text with such a half is not written, and the file is left empty. -/
theorem readOctets_writeText {path : String} {text : Text} {error : EncodeError}
    (emptied : volume.write path [] = .ok after) (halved : Utf8.encodeFault? text = some error) :
    volume.writeText path text = (after, some (.unencodable error)) ∧
      after.readOctets (tidyPath path) = .ok [] := by
  refine ⟨?_, readOctets_writeOctets emptied⟩
  unfold writeText
  rw [emptied]
  dsimp only
  rw [halved]

/-- A text that was written is there in octets. -/
theorem readOctets_of_write {path : String} {text : Text}
    (written : storage.write volume path text = .ok after) :
    after.readOctets (tidyPath path) = .ok (Utf8.encode text) :=
  readOctets_writeOctets written

/-- A text that is read comes from octets, with its line endings made newlines. -/
theorem read_eq_ok_iff {path : String} {text : Text} :
    storage.read volume path = .ok text ↔
      ∃ octets raw, volume.readOctets (tidyPath path) = .ok octets ∧
        Utf8.decode octets = .ok raw ∧ text = raw.unifyNewlines := by
  change volume.readText path = .ok text ↔ _
  unfold readText
  constructor
  · intro read
    obtain ⟨octets, held, read⟩ := bind_eq_ok_iff.mp read
    split at read
    · rename_i raw valid
      exact ⟨octets, raw, held, valid, (Except.ok.inj read).symm⟩
    · cases read
  · rintro ⟨octets, raw, held, valid, rfl⟩
    refine bind_eq_ok_iff.mpr ⟨octets, held, ?_⟩
    rw [valid]
    rfl

/-- A volume holds texts without carriage returns as they are. -/
theorem storage_lawful : storage.Lawful fun c => c ≠ '\r' where
  read_allowed := by
    intro volume path text read c member
    obtain ⟨octets, raw, -, -, rfl⟩ := read_eq_ok_iff.mp read
    rintro rfl
    exact raw.not_mem_unifyNewlines member
  read_write := by
    intro volume path old text after _ written allowed
    refine read_eq_ok_iff.mpr ⟨_, text, readOctets_of_write written, Utf8.decode_encode text, ?_⟩
    exact (Text.unifyNewlines_eq_self_iff.mpr fun member => allowed _ member rfl).symm
  read_copy := by
    intro volume source destination after copied _
    change after.readText source = volume.readText source
    unfold readText
    rw [readOctets_copyFile copied]

/-- A volume serves a fix of a file that it holds, unless it cannot keep the copy that is wanted. -/
theorem storage_serves {path : String} {held : Text} {backups : Bool}
    (reads : storage.read volume path = .ok held)
    (copied : keepBackup storage volume backups path = .ok after) (text : Text) :
    storage.Serves volume backups path text := by
  have rereads : storage.reread after path = .ok held :=
    (storage_lawful.read_kept copied).trans reads
  obtain ⟨octets, -, there, -⟩ := read_eq_ok_iff.mp (Storage.read_of_reread rereads)
  obtain ⟨written, writes⟩ := exists_writeOctets there (Utf8.encode text)
  exact .intro copied rereads writes

/-- A volume keeps the copy of a file where no directory stands in the way, under paths that say
nothing twice. -/
theorem storage_keepsCopies {path : String} (tidy : tidyPath path = path)
    (tidyBackup : tidyPath (backupPath path) = backupPath path)
    (free : volume.copyTarget path (backupPath path) = backupPath path) :
    storage.KeepsCopies volume path where
  copied := by
    intro kept copied
    change volume.copyFile path (backupPath path) = .ok kept at copied
    obtain ⟨place, spot, octets, located, stands, targeted, unasked, -, fresh, rfl⟩ :=
      of_copyFile copied
    rw [free] at targeted unasked
    have source : volume.readOctets path = .ok octets :=
      readOctets_eq_ok_iff.mpr ⟨place, located, stands⟩
    have copy : (volume.put spot (.file octets)).readOctets (backupPath path) = .ok octets :=
      readOctets_eq_ok_iff.mpr ⟨spot, targeted.put fresh (.inr unasked),
        get?_put volume _ (ne_nil_of_fresh fresh)⟩
    change readText _ _ = readText _ _
    unfold readText
    rw [tidy, tidyBackup, source, copy]
  written := by
    intro kept text after copied written
    change volume.copyFile path (backupPath path) = .ok kept at copied
    obtain ⟨place, spot, octets, located, stands, targeted, unasked, apart, fresh, rfl⟩ :=
      of_copyFile copied
    rw [free] at targeted unasked
    change writeOctets _ (tidyPath path) _ = .ok after at written
    rw [tidy] at written
    obtain ⟨other, otherLocated, -, otherFresh, rfl⟩ := of_writeOctets written
    -- The path leads where it led before the copy, which is not where the copy stands.
    have same : place = other := Except.ok.inj
      ((find_put fresh located.found).symm.trans otherLocated.found)
    have led : (volume.put spot (.file octets)).find _ = .ok spot := find_put fresh targeted.found
    change readText _ _ = readText _ _
    unfold readText
    rw [tidyBackup, readOctets_congr led (find_put otherFresh led)
      (get?_put_of_ne _ _ (same ▸ apart.symm))]

end Volume

end TagOrder
