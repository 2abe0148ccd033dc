import TagOrder.Proofs.Fixing.Again
import TagOrder.Proofs.Fixing.Write
import TagOrder.Proofs.Storage.Volume

/-!
# What a fix leaves around the tags

A fix replaces spans of the text as it is read, and writes the whole text back. On a volume the
line endings do not come back with it: around the tags a rewritten file holds what it held before
with every line ending made a newline (`fixDocument_frame`), which is the same exactly where no
carriage return stood. Nothing but the copy can keep a fix on a volume from coming to its end once
its repairs have (`read_fixDocument_of_copied`).
-/

namespace TagOrder

/-- Whether an offset lies in what the attributes of a tag of the document cover. -/
def Document.Covers (document : Document) (offset : Nat) : Prop :=
  ∃ tag ∈ document.tags, tag.Covers offset

/-- A fix that says that the file was changed has written a text to it that differs from the
document in what its tags cover at most. -/
theorem written_of_fixDocument {σ : Type} {storage : Storage σ} {allowed : Char -> Prop} {files : σ}
    {rule : Rule} {backups : Bool} {document : Document} {result : FixResult}
    (lawful : storage.Lawful allowed) (sound : document.Sound)
    (holds : storage.read files document.path = .ok document.text)
    (answered : (fixDocument storage files rule backups document).answer = .ok result)
    (modified : result.modified = true) :
    ∃ kept written,
      storage.write kept document.path written =
        .ok (fixDocument storage files rule backups document).files ∧
      Text.SameExcept document.Covers document.text written ∧ ∀ c ∈ written, allowed c := by
  unfold fixDocument at answered ⊢
  cases finished : document.repairs rule with
  | error fault =>
    rw [finished] at answered
    cases answered
  | ok progress =>
    rw [finished] at answered
    dsimp only at answered ⊢
    obtain ⟨alone, results, follows⟩ := sound.exists_alone finished
    have repaired := follows.repaired
    have wrote := writeRepairs_written storage files backups document.path progress
    rw [answered, Except.map, modified] at wrote
    obtain ⟨kept, source, copied, reads, writes⟩ := wrote.of_changed
    have held := (lawful.read_kept copied).trans holds
    obtain rfl := Except.ok.inj ((Storage.read_of_reread reads).symm.trans held)
    rw [follows.scripts, merge_changedEdits sound repaired] at writes
    refine ⟨kept, _, writes, repaired.same, fun c member => ?_⟩
    exact lawful.read_allowed holds c (repaired.mem_original sound.laid results c member)

/-- What a fix leaves in a file that it changes. The file held any text with line endings of any
kind, and the document describes it as it is read. In what the tags cover the attributes may have
changed places; around that each unit of the file is as it was, with its line ending made a newline.
So the file is the same around the tags just when no carriage return stood there. -/
theorem fixDocument_frame {volume : Volume} {rule : Rule} {backups : Bool} {document : Document}
    {raw : Text} {result : FixResult} (sound : document.Sound)
    (file : volume.readOctets (tidyPath document.path) = .ok (Utf8.encode raw))
    (described : document.text = raw.unifyNewlines)
    (answered : (fixDocument Volume.storage volume rule backups document).answer = .ok result)
    (modified : result.modified = true) :
    ∃ written : Text,
      (fixDocument Volume.storage volume rule backups document).files.readOctets
        (tidyPath document.path) = .ok (Utf8.encode written) ∧
      Text.SameExcept document.Covers document.text written ∧
      (∀ offset : Nat, ¬ document.Covers offset →
        written.units[offset]? = raw.units[offset]?.map Text.unifyNewlines) ∧
      (Text.SameAround document.Covers raw written ↔
        ∀ offset : Nat, ¬ document.Covers offset → ∀ unit ∈ raw.units[offset]?, '\r' ∉ unit) := by
  have holds : Volume.storage.read volume document.path = .ok document.text :=
    Volume.read_eq_ok_iff.mpr ⟨_, raw, file, Utf8.decode_encode raw, described⟩
  obtain ⟨kept, written, writes, same, allowed⟩ :=
    written_of_fixDocument Volume.storage_lawful sound holds answered modified
  have none : '\r' ∉ written := fun member => allowed _ member rfl
  refine ⟨written, Volume.readOctets_of_write writes, same, ?_, ?_⟩
  · rw [described] at same
    exact fun offset clear => same.units_eq none clear
  · rw [described] at same
    exact same.sameAround_iff none

/-- On a volume a fix of a sound document whose file holds its text comes to its end, once the
repairs have and the copy that may be wanted is kept: the file then holds the text that the repairs
leave. -/
theorem read_fixDocument_of_copied {volume kept : Volume} {rule : Rule} {backups : Bool}
    {document : Document} {progress : Progress} (sound : document.Sound)
    (holds : Volume.storage.read volume document.path = .ok document.text)
    (finished : document.repairs rule = .ok progress)
    (copied : keepBackup Volume.storage volume backups document.path = .ok kept) :
    ∃ result,
      (fixDocument Volume.storage volume rule backups document).answer = .ok result ∧
      (result.modified = true ↔ progress.text ≠ document.text) ∧
      Volume.storage.read (fixDocument Volume.storage volume rule backups document).files
        document.path = .ok progress.text := by
  obtain ⟨alone, results, follows⟩ := sound.exists_alone finished
  obtain ⟨reads, answered⟩ := writeRepairs_follows Volume.storage_lawful sound holds
    (fun _ => Volume.storage_serves holds copied _) results follows
  rw [fixDocument, finished]
  exact ⟨_, answered, by simp, reads⟩

/-- A volume with one source on it. -/
def pageVolume (text : Text) : Volume where
  entries := [(["page.vue"], .file (Utf8.encode text))]

/-- The source with a line ending of two characters after its tag. -/
def endedPage : Text := strayPage ++ ['\r', '\n']

/-- The source as it is read. -/
def readPage : Text := strayPage ++ ['\n']

/-- The source as the fix of its document leaves it. -/
def rewrittenPage : Text := fixedPage ++ ['\n']

/-- The fix of the document on the volume. -/
theorem fixDocument_readPage :
    fixDocument Volume.storage (pageVolume endedPage) {} false (pageDocument "page.vue" readPage) =
      { files := pageVolume rewrittenPage
        notices := [reorderedNotice "page.vue" 1]
        answer := .ok { path := "page.vue", modified := true, fixedTags := 1 } } := by
  have reorders : ReordersPage "page.vue" readPage rewrittenPage := by decide +kernel
  refine reorders.fixDocument rfl (eq_ok_of_toOption ?_) (eq_ok_of_toOption ?_)
  · decide +kernel
  · decide +kernel

/-- The line ending after the tag is not the same after the fix. -/
theorem fixDocument_lineEnding_lost :
    let document := pageDocument "page.vue" readPage
    let outcome := fixDocument Volume.storage (pageVolume endedPage) {} false document
    document.Sound ∧ document.text = endedPage.unifyNewlines ∧
      (pageVolume endedPage).readOctets (tidyPath document.path) = .ok (Utf8.encode endedPage) ∧
      outcome.answer = .ok { path := "page.vue", modified := true, fixedTags := 1 } ∧
      outcome.files.readOctets (tidyPath document.path) = .ok (Utf8.encode rewrittenPage) ∧
      ¬ Text.SameAround document.Covers endedPage rewrittenPage := by
  intro document outcome
  have fixed : outcome = _ := fixDocument_readPage
  rw [fixed]
  refine ⟨by decide +kernel, by decide +kernel, eq_ok_of_toOption (by decide +kernel), rfl,
    eq_ok_of_toOption (by decide +kernel), fun same => ?_⟩
  have clear : ¬ document.Covers 18 := by
    rintro ⟨tag, member, span, covers, -, below⟩
    rw [List.mem_singleton.mp member] at covers
    obtain rfl : Span.mk 3 17 = span := Option.some.inj covers
    exact absurd below (by decide)
  have kept := same 18 clear
  exact absurd kept (by decide +kernel)

/-- The document fixed on the volume, where the text of its file is what was read around the tag. -/
theorem fixDocument_frame_readPage :
    ∃ written : Text,
      (fixDocument Volume.storage (pageVolume endedPage) {} false
        (pageDocument "page.vue" readPage)).files.readOctets
          (tidyPath (pageDocument "page.vue" readPage).path) = .ok (Utf8.encode written) ∧
      Text.SameExcept (pageDocument "page.vue" readPage).Covers readPage written := by
  have sound : (pageDocument "page.vue" readPage).Sound := by decide +kernel
  have file : (pageVolume endedPage).readOctets (tidyPath (pageDocument "page.vue" readPage).path) =
      .ok (Utf8.encode endedPage) := eq_ok_of_toOption (by decide +kernel)
  have described : (pageDocument "page.vue" readPage).text = endedPage.unifyNewlines := by
    decide +kernel
  have answered : (fixDocument Volume.storage (pageVolume endedPage) {} false
      (pageDocument "page.vue" readPage)).answer =
        .ok { path := "page.vue", modified := true, fixedTags := 1 } := by
    rw [fixDocument_readPage]
  obtain ⟨written, holds, same, -⟩ := fixDocument_frame sound file described answered rfl
  exact ⟨written, holds, same⟩

end TagOrder
