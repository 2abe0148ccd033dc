import Mathlib.Data.List.Permutation
import TagOrder.Fixing
import TagOrder.Proofs.Edit.Order
import TagOrder.Proofs.Storage.Law

/-!
# Merged edits and insertions

The ranges of edits that are merged do not overlap, but an insertion may start where another range
does. Where it is listed behind the replacement that starts with it, every kept edit comes out
whole, and between them the rest of the text (`applyScripts_splices`). Listed in front of it, an
insertion is cut by the replacement (`applyScripts_cut`).
-/

namespace TagOrder

section Apply

variable {σ : Type} {storage : Storage σ} {allowed : Char -> Prop} {files : σ} {path : String}
  {text : Text}

/-- Scripts are applied to a file that can be read, and written with what they make of it. -/
theorem applyScripts_reads (scripts : List Script) (lawful : storage.Lawful allowed)
    (reads : storage.reread files path = .ok text)
    (writes : (Script.merge scripts).apply text ≠ text →
      ∃ after, storage.write files path ((Script.merge scripts).apply text) = .ok after)
    (legal : ∀ script ∈ scripts, ∀ edit ∈ script, ∀ c ∈ edit.replacement, allowed c) :
    let outcome := applyScripts storage files path scripts
    storage.read outcome.files path = .ok ((Script.merge scripts).apply text) ∧
      outcome.answer = .ok (decide ((Script.merge scripts).apply text ≠ text)) := by
  have held := Storage.read_of_reread reads
  unfold applyScripts
  rw [reads]
  dsimp only
  by_cases same : (Script.merge scripts).apply text = text
  · rw [if_pos same]
    dsimp only
    rw [same]
    exact ⟨held, by simp⟩
  · have permitted : ∀ c ∈ (Script.merge scripts).apply text, allowed c := by
      intro c member
      rcases Script.mem_or_exists_of_mem_apply member with before | ⟨edit, merged, put⟩
      · exact lawful.read_allowed held c before
      · obtain ⟨script, listed, inside⟩ := Script.exists_of_mem_merge merged
        exact legal script listed edit inside c put
    obtain ⟨after, written⟩ := writes same
    rw [if_neg same, written]
    dsimp only
    exact ⟨lawful.read_write held written permitted, by simp [same]⟩

/-- Edits that are merged come out whole. Scripts of one edit each, whose ranges lie inside the text
of a file, are applied to that file, and among those that are kept no insertion is listed before a
replacement that starts with it. Then the file holds the kept replacements from the front to the
back, and between them every piece of the text that no kept range covers. -/
theorem applyScripts_splices (edits : List Edit) (lawful : storage.Lawful allowed)
    (reads : storage.reread files path = .ok text)
    (writes : let updated := (Script.merge (edits.map fun edit => [edit])).apply text
      updated ≠ text → ∃ after, storage.write files path updated = .ok after)
    (fits : ∀ edit ∈ edits, edit.Fits text)
    (legal : ∀ edit ∈ edits, ∀ c ∈ edit.replacement, allowed c)
    (listed : (Script.merge (edits.map fun edit => [edit])).Pairwise Edit.MayPrecede) :
    let outcome := applyScripts storage files path (edits.map fun edit => [edit])
    ∃ sorted : Script, sorted.Perm (Script.merge (edits.map fun edit => [edit])) ∧
      Script.Successive text 0 sorted ∧
      storage.read outcome.files path = .ok (Script.splice text 0 sorted) ∧
      outcome.answer = .ok (decide (Script.splice text 0 sorted ≠ text)) := by
  dsimp only
  have inside : ∀ edit ∈ Script.merge (edits.map fun edit => [edit]), edit.Fits text := by
    intro edit kept
    obtain ⟨script, given, member⟩ := Script.exists_of_mem_merge kept
    obtain ⟨single, among, rfl⟩ := List.mem_map.mp given
    obtain rfl := List.mem_singleton.mp member
    exact fits edit among
  have successive :=
    Script.successive_fromBack inside (Script.pairwise_merge_singletons edits) listed
  have single : ∀ script ∈ edits.map fun edit => [edit], ∀ edit ∈ script,
      ∀ c ∈ edit.replacement, allowed c := by
    simpa using legal
  refine ⟨_, (List.reverse_perm _).trans (Script.fromBack_perm _), successive, ?_⟩
  rw [← Script.apply_eq_splice_fromBack successive]
  exact applyScripts_reads _ lawful reads writes single

end Apply

/-- Ten letters. -/
def letters : Text := "abcdefghij".toList

/-- A shelf with the letters. -/
def lettersShelf : Shelf where
  texts := [("f", letters)]

/-- An edit of the letters that puts some in. -/
def insertion : Edit := ⟨⟨2, 2⟩, "XY".toList⟩

/-- An edit of the letters that replaces some from where the insertion stands. -/
def replacement : Edit := ⟨⟨2, 5⟩, "R".toList⟩

theorem fits_letters : insertion.Fits letters ∧ replacement.Fits letters :=
  ⟨⟨by decide, by decide, by decide⟩, ⟨by decide, by decide, by decide⟩⟩

/-- Listed behind the replacement, the insertion stands in front of it in the text. -/
theorem applyScripts_splices_letters :
    Script.merge [[replacement], [insertion]] = [replacement, insertion] ∧
      Shelf.storage.read
        (applyScripts Shelf.storage lettersShelf "f" [[replacement], [insertion]]).files "f" =
          .ok "abXYRfghij".toList := by
  have kept : Script.merge [[replacement], [insertion]] = [replacement, insertion] := by
    decide +kernel
  have listed : (Script.merge [[replacement], [insertion]]).Pairwise Edit.MayPrecede := by
    rw [kept, List.pairwise_pair]
    intro together empty
    cases empty
  obtain ⟨sorted, same, successive, reads, -⟩ :=
    applyScripts_splices [replacement, insertion] Shelf.storage_lawful
      (show Shelf.storage.reread lettersShelf "f" = _ from rfl) (fun _ => ⟨_, rfl⟩)
      (by simpa using fits_letters.symm) (fun _ _ _ _ => trivial) listed
  rcases List.perm_pair.mp (same.trans (.of_eq kept)) with rfl | rfl
  · exact absurd successive.2.2.1 (by decide)
  · exact ⟨kept, reads⟩

/-- Listed in front of the replacement, the insertion is kept as well, but the text does not hold
it: the replacement takes it away, and leaves a part of its own range in place. -/
theorem applyScripts_cut :
    insertion.Fits letters ∧ replacement.Fits letters ∧
      Script.merge [[insertion], [replacement]] = [insertion, replacement] ∧
      Shelf.storage.read
        (applyScripts Shelf.storage lettersShelf "f" [[insertion], [replacement]]).files "f" =
          .ok "abRdefghij".toList ∧
      ¬ insertion.replacement <:+: "abRdefghij".toList := by
  have kept : Script.merge [[insertion], [replacement]] = [insertion, replacement] := by
    decide +kernel
  have back : Script.fromBack [insertion, replacement] = [insertion, replacement] :=
    List.mergeSort_of_pairwise (by decide)
  have applied : Script.apply [insertion, replacement] letters = "abRdefghij".toList := by
    rw [Script.apply, back]
    decide +kernel
  have reads := (applyScripts_reads [[insertion], [replacement]] Shelf.storage_lawful
    (show Shelf.storage.reread lettersShelf "f" = _ from rfl) (fun _ => ⟨_, rfl⟩)
    fun _ _ _ _ _ _ => trivial).1
  rw [kept, applied] at reads
  exact ⟨fits_letters.1, fits_letters.2, kept, reads, by decide +kernel⟩

end TagOrder
