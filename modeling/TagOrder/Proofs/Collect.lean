import Mathlib.Algebra.BigOperators.Group.Finset.Basic
import Mathlib.Algebra.Ring.Nat
import TagOrder.Proofs.Audit
import TagOrder.Proofs.Fixing.Again
import TagOrder.Proofs.Storage.Search

/-!
# How often a dump is collected

Each path is searched on its own and what is found is joined, so a dump is collected once for each
path that stands for it. From there on nothing tells the copies apart: an audit counts the
violations of a dump as often as it is collected (`count_telling`), and a run of fixes comes to each
copy in turn (`FixRun`). No dump is collected twice exactly when no two of the paths stand for one
(`collected_per_path`); a path given twice, or one that lies below another, is enough for that
(`collected_twice`).
-/

namespace TagOrder

section Runs

variable {σ : Type} {storage : Storage σ} {files : σ} {rule : Rule} {backups : Bool}
  {paths dumps : List String}

/-- The dumps that a path stands for, none when they cannot be told. -/
def Storage.dumpsFor (storage : Storage σ) (files : σ) (path : String) : List String :=
  (storage.dumps files path).toOption.getD []

/-- What is collected is what the paths stand for, one after the other. -/
theorem collectDumps_eq_ok {warnings : List Notice}
    (collected : collectDumps storage files paths = .ok (dumps, warnings)) :
    (∀ path ∈ paths, storage.dumps files path = .ok (storage.dumpsFor files path)) ∧
      dumps = paths.flatMap (storage.dumpsFor files) := by
  induction paths generalizing dumps warnings with
  | nil =>
    obtain ⟨rfl, -⟩ := Prod.mk.inj (Except.ok.inj collected)
    exact ⟨fun path member => absurd member List.not_mem_nil, rfl⟩
  | cons path rest ih =>
    rw [collectDumps] at collected
    cases searched : storage.dumps files path with
    | error error =>
      rw [searched] at collected
      cases collected
    | ok found =>
      rw [searched] at collected
      cases onward : collectDumps storage files rest with
      | error fault =>
        rw [onward] at collected
        cases collected
      | ok others =>
        rw [onward] at collected
        obtain ⟨rfl, -⟩ := Prod.mk.inj (Except.ok.inj collected)
        obtain ⟨each, joined⟩ := ih onward
        have here : storage.dumpsFor files path = found := by
          rw [Storage.dumpsFor, searched]
          rfl
        refine ⟨List.forall_mem_cons.mpr ⟨?_, each⟩, ?_⟩
        · rw [searched, here]
        · rw [List.flatMap_cons, here, ← joined]

/-- An item is found in joined lists once for each of the lists that holds it. -/
theorem count_flatMap_of_nodup {α β : Type} [DecidableEq β] {items : List α} {found : α -> List β}
    (each : ∀ item ∈ items, (found item).Nodup) (target : β) :
    (items.flatMap found).count target = items.countP fun item => target ∈ found item := by
  induction items with
  | nil => rfl
  | cons item rest ih =>
    rw [List.forall_mem_cons] at each
    rw [List.flatMap_cons, List.count_append, ih each.2, List.countP_cons, each.1.count,
      Nat.add_comm]
    simp only [decide_eq_true_eq]

/-- How many violations the document of a dump has, none when it cannot be checked. -/
def violationCount (storage : Storage σ) (files : σ) (rule : Rule) (dump : String) : Nat :=
  match Document.load storage files dump with
  | .error _ => 0
  | .ok document =>
    match checkTags rule document.tags with
    | .error _ => 0
    | .ok violations => violations.length

/-- An audit that comes to its end tells of each dump, in order. -/
theorem audited_of_auditDumps {result : Audit} {notices : List Notice}
    (ended : auditDumps storage files rule dumps = .ok (result, notices)) :
    ∃ entries, List.Forall₂ (Audited storage files rule) dumps entries ∧
      result = .telling entries := by
  induction dumps generalizing result notices with
  | nil =>
    obtain ⟨rfl, -⟩ := Prod.mk.inj (Except.ok.inj ended)
    exact ⟨[], .nil, rfl⟩
  | cons dump rest ih =>
    have entry : ∃ entry, Audited storage files rule dump entry := by
      rw [auditDumps] at ended
      cases loaded : Document.load storage files dump with
      | ok document =>
        rw [loaded] at ended
        cases checked : checkTags rule document.tags with
        | ok violations => exact ⟨_, .file loaded checked⟩
        | error fault =>
          dsimp only at ended
          rw [checked] at ended
          cases ended
      | error error =>
        rw [loaded] at ended
        cases error with
        | file error => cases ended
        | beyond limit => cases ended
        | dump path fault =>
          obtain rfl := Document.path_of_load loaded
          exact ⟨_, .failed loaded⟩
    obtain ⟨entry, told⟩ := entry
    obtain ⟨notice, -, next⟩ := auditDumps_cons told rest
    rw [next] at ended
    cases onward : auditDumps storage files rule rest with
    | error halted =>
      rw [onward] at ended
      cases ended
    | ok found =>
      rw [onward] at ended
      obtain ⟨rfl, -⟩ := Prod.mk.inj (Except.ok.inj ended)
      obtain ⟨entries, toldRest, same⟩ := ih onward
      refine ⟨entry :: entries, .cons told toldRest, ?_⟩
      rw [same]
      cases entry <;> rfl

/-- What is told of some dumps counts the violations of each of them, as often as it is listed. -/
theorem count_telling {entries : List (FileAudit ⊕ String)}
    (told : List.Forall₂ (Audited storage files rule) dumps entries) :
    (Audit.telling entries).count = (dumps.map (violationCount storage files rule)).sum := by
  induction told with
  | nil => rfl
  | cons here _ ih =>
    rw [List.map_cons, List.sum_cons, ← ih, violationCount]
    cases here with
    | file loaded checked =>
      rw [loaded]
      dsimp only
      rw [checked]
      rfl
    | failed refused =>
      rw [refused, Nat.zero_add]
      rfl

/-- How a run of fixes goes over some dumps: each of them is loaded from the files as the one before
left them, and is then refused or has its document fixed. -/
inductive FixRun (storage : Storage σ) (rule : Rule) (backups : Bool) :
    σ -> List String -> List (Option FixResult) -> σ -> Prop where
  | done {files : σ} : FixRun storage rule backups files [] [] files
  | refused {files final : σ} {dump rest outcomes fault}
      (unloaded : Document.load storage files dump = .error (.dump dump fault))
      (onward : FixRun storage rule backups files rest outcomes final) :
      FixRun storage rule backups files (dump :: rest) (none :: outcomes) final
  | fixed {files final : σ} {dump rest outcomes document result}
      (loaded : Document.load storage files dump = .ok document)
      (answered : (fixDocument storage files rule backups document).answer = .ok result)
      (onward : FixRun storage rule backups
        (fixDocument storage files rule backups document).files rest outcomes final) :
      FixRun storage rule backups files (dump :: rest) (some result :: outcomes) final

/-- A run that comes to its end goes over all dumps. -/
theorem exists_fixRun {results : List FixResult}
    (answered : (fixDumps storage rule backups files dumps).answer = .ok results) :
    ∃ outcomes, FixRun storage rule backups files dumps outcomes
        (fixDumps storage rule backups files dumps).files ∧
      results = outcomes.reduceOption := by
  induction dumps generalizing files results with
  | nil => exact ⟨[], .done, (Except.ok.inj answered).symm⟩
  | cons dump rest ih =>
    unfold fixDumps at answered ⊢
    cases loaded : Document.load storage files dump with
    | error error =>
      rw [loaded] at answered
      cases error with
      | file error => cases answered
      | beyond limit => cases answered
      | dump path fault =>
        obtain rfl := Document.path_of_load loaded
        obtain ⟨outcomes, onward, rfl⟩ := ih answered
        exact ⟨none :: outcomes, .refused loaded onward, rfl⟩
    | ok document =>
      rw [loaded] at answered
      dsimp only at answered ⊢
      cases fixed : (fixDocument storage files rule backups document).answer with
      | error fault =>
        rw [fixed] at answered
        cases answered
      | ok result =>
        rw [fixed] at answered
        dsimp only at answered ⊢
        obtain ⟨others, finished, rfl⟩ := exists_of_map_eq_ok answered
        obtain ⟨outcomes, onward, rfl⟩ := ih finished
        exact ⟨some result :: outcomes, .fixed loaded fixed onward, rfl⟩

/-- An audit of paths is that of the dumps that are collected. -/
theorem audit_eq_ok_iff {warnings : List Notice} {result : Audit}
    (collected : collectDumps storage files paths = .ok (dumps, warnings)) :
    (∃ notices, audit storage files rule paths = .ok (result, notices)) ↔
      ∃ notices, auditDumps storage files rule dumps = .ok (result, notices) := by
  rw [audit, collected]
  dsimp only
  cases auditDumps storage files rule dumps with
  | error fault => simp
  | ok found =>
    obtain ⟨told, notices⟩ := found
    simp

/-- A fix of paths is that of the dumps that are collected. -/
theorem fixPaths_of_collected (rule : Rule) (backups : Bool) {warnings : List Notice}
    (collected : collectDumps storage files paths = .ok (dumps, warnings)) :
    (fixPaths storage files rule backups paths).files =
        (fixDumps storage rule backups files dumps).files ∧
      (fixPaths storage files rule backups paths).answer =
        (fixDumps storage rule backups files dumps).answer := by
  rw [fixPaths, collected]
  exact ⟨rfl, rfl⟩

end Runs

namespace Volume

variable {volume : Volume} {paths : List String}

/-- In a tree, paths that are resolved to places of which none lies at or below the other stand for
different dumps. -/
theorem Tree.disjoint_dumps (tree : volume.Tree) {one other : String} {place there : Place}
    {found foundThere : List String} (searched : volume.glob one dumpEnding = .ok found)
    (searchedThere : volume.glob other dumpEnding = .ok foundThere)
    (resolved : volume.resolve one = .ok place) (resolvedThere : volume.resolve other = .ok there)
    (apart : ¬ place <+: there) (apartThere : ¬ there <+: place) : found.Disjoint foundThere := by
  intro dump member memberThere
  obtain ⟨spot, stands, written⟩ := (mem_glob_iff tree resolved searched).mp member
  obtain ⟨spotThere, standsThere, rfl⟩ :=
    (mem_glob_iff tree resolvedThere searchedThere).mp memberThere
  obtain rfl : spot = spotThere := placeText_injective
    (stands.legal tree (tree.legal_of_resolve resolved))
    (standsThere.legal tree (tree.legal_of_resolve resolvedThere)) written
  exact (stands.nested standsThere).elim apart apartThere

end Volume

/-- A dump is collected once for each path that stands for it, and so no dump is collected twice
exactly when no two paths stand for one. In a tree a path stands for the dumps at and below the
place to which it is resolved: two paths have none in common when neither place lies at or below the
other, and a directory shares every dump file for which a path below it stands. The violations of a
dump are counted, and its document is fixed, each time that the dump is collected. -/
theorem collected_per_path (volume : Volume) {paths dumps : List String} {warnings : List Notice}
    (collected : collectDumps Volume.storage volume paths = .ok (dumps, warnings)) :
    let found := Volume.storage.dumpsFor volume
    (∀ dump, dumps.count dump = paths.countP fun path => dump ∈ found path) ∧
    (dumps.Nodup ↔ paths.Pairwise fun one other => (found one).Disjoint (found other)) ∧
    (volume.Tree → ∀ path ∈ paths, ∃ place, volume.resolve path = .ok place ∧
      (∀ dump, dump ∈ found path ↔
        ∃ spot, volume.StandsFor place spot ∧ Volume.placeText spot = dump) ∧
      ∀ other ∈ paths, ∀ there, volume.resolve other = .ok there →
        (¬ place <+: there → ¬ there <+: place → (found path).Disjoint (found other)) ∧
        (volume.get? place = some .directory → place <+: there → ∀ spot octets,
          volume.StandsFor there spot → volume.get? spot = some (.file octets) →
            Volume.placeText spot ∈ found path ∧ Volume.placeText spot ∈ found other)) ∧
    (∀ rule result notices, audit Volume.storage volume rule paths = .ok (result, notices) →
      result.count = ∑ dump ∈ dumps.toFinset,
        dumps.count dump * violationCount Volume.storage volume rule dump) ∧
    ∀ rule backups results,
      (fixPaths Volume.storage volume rule backups paths).answer = .ok results →
      ∃ outcomes, FixRun Volume.storage rule backups volume dumps outcomes
          (fixPaths Volume.storage volume rule backups paths).files ∧
        results = outcomes.reduceOption := by
  intro foundFor
  obtain ⟨searched, joined⟩ := collectDumps_eq_ok collected
  have each : ∀ path ∈ paths, (Volume.storage.dumpsFor volume path).Nodup :=
    fun path member => Volume.nodup_glob (searched path member)
  refine ⟨fun dump => ?_, ?_, fun tree path member => ?_, ?_, ?_⟩
  · rw [joined, count_flatMap_of_nodup each]
  · rw [joined, List.nodup_flatMap, and_iff_right each]
  · have found := searched path member
    obtain ⟨place, -, resolved, -⟩ := Volume.glob_eq_ok found
    have members : ∀ dump, dump ∈ Volume.storage.dumpsFor volume path ↔
        ∃ spot, volume.StandsFor place spot ∧ Volume.placeText spot = dump :=
      fun dump => Volume.mem_glob_iff tree resolved found
    refine ⟨place, resolved, members, fun other otherMember there resolvedThere => ⟨?_, ?_⟩⟩
    · exact tree.disjoint_dumps found (searched other otherMember) resolved resolvedThere
    · intro directory nested spot octets stands file
      exact ⟨(members _).mpr ⟨spot, .of_below directory nested stands file, rfl⟩,
        (Volume.mem_glob_iff tree resolvedThere (searched other otherMember)).mpr
          ⟨spot, stands, rfl⟩⟩
  · intro rule result notices audited
    obtain ⟨more, ended⟩ := (audit_eq_ok_iff collected).mp ⟨notices, audited⟩
    obtain ⟨entries, told, rfl⟩ := audited_of_auditDumps ended
    rw [count_telling told]
    exact Finset.sum_list_map_count dumps _
  · intro rule backups results answered
    obtain ⟨files, answer⟩ := fixPaths_of_collected rule backups collected
    rw [answer] at answered
    rw [files]
    exact exists_fixRun answered

/-- A volume with the page and its dump. -/
def dumpedVolume (page : Text) : Volume where
  entries :=
    [(["page.vue"], .file (Utf8.encode page)),
      (["page.vue.attrs.json"], .file (Utf8.encode pageDump))]

/-- The volume with the page out of order. -/
def overlapVolume : Volume := dumpedVolume strayPage

/-- The directory of the dump, and the dump itself. -/
def overlapPaths : List String := [".", "page.vue.attrs.json"]

/-- The dump, once for each of the two paths. -/
def overlapDumps : List String := ["/page.vue.attrs.json", "/page.vue.attrs.json"]

/-- The document of the dump. -/
def overlapDocument : Document := pageDocument "/page.vue" strayPage

/-- What a fix by the dump makes of the page on the volume. -/
structure ReordersVolume (before after : Text) : Prop where
  loaded : (Document.load Volume.storage (dumpedVolume before) "/page.vue.attrs.json").toOption =
    some (pageDocument "/page.vue" before)
  written : (Volume.storage.write (dumpedVolume before) "/page.vue" after).toOption =
    some (dumpedVolume after)
  page : ReordersPage "/page.vue" before after

/-- The result of a fix that rewrites the page. -/
def pageResult : FixResult := { path := "/page.vue", modified := true, fixedTags := 1 }

/-- Dumps fixed of which the first is that of the page. -/
theorem ReordersVolume.fixDumps_cons {before after : Text} (reorders : ReordersVolume before after)
    (rest : List String) :
    let others := fixDumps Volume.storage {} false (dumpedVolume after) rest
    fixDumps Volume.storage {} false (dumpedVolume before) ("/page.vue.attrs.json" :: rest) =
      { files := others.files
        notices := [reorderedNotice "/page.vue" 1] ++ others.notices
        answer := others.answer.map (pageResult :: ·) } := by
  have loaded := eq_ok_of_toOption reorders.loaded
  have reads := (Document.of_load_eq_ok loaded).2
  exact fixDumps_cons_of_ok loaded
    (reorders.page.fixDocument rfl reads (eq_ok_of_toOption reorders.written))

theorem reordersVolume_strayPage : ReordersVolume strayPage fixedPage where
  loaded := by decide +kernel
  written := by decide +kernel
  page := by decide +kernel

theorem reordersVolume_fixedPage : ReordersVolume fixedPage brokenPage where
  loaded := by decide +kernel
  written := by decide +kernel
  page := by decide +kernel

theorem overlapVolume_tree : overlapVolume.Tree where
  legal := by decide +kernel
  reached := by decide +kernel
  stands := by
    intro stored member
    rcases List.mem_pair.mp member with rfl | rfl <;> rfl
  here := fun name member => absurd member List.not_mem_nil

theorem collectDumps_overlap :
    collectDumps Volume.storage overlapVolume overlapPaths = .ok (overlapDumps, []) :=
  eq_ok_of_toOption (by decide +kernel)

theorem load_overlap :
    Document.load Volume.storage overlapVolume "/page.vue.attrs.json" = .ok overlapDocument :=
  eq_ok_of_toOption reordersVolume_strayPage.loaded

theorem checkTags_overlap : ∃ violation, checkTags {} overlapDocument.tags = .ok [violation] := by
  have shown : (checkTags {} overlapDocument.tags).toOption.map List.length = some 1 := by
    decide +kernel
  obtain ⟨violations, checked, one⟩ := Option.map_eq_some_iff.mp shown
  obtain ⟨violation, rfl⟩ := List.length_eq_one_iff.mp one
  exact ⟨violation, eq_ok_of_toOption checked⟩

/-- The one violation of the document is counted twice. -/
theorem audit_overlap : ∃ result notices,
    audit Volume.storage overlapVolume {} overlapPaths = .ok (result, notices) ∧
      result.count = 2 := by
  obtain ⟨violation, checked⟩ := checkTags_overlap
  let entry : FileAudit ⊕ String := .inl ⟨overlapDocument.path, [violation]⟩
  have told : Audited Volume.storage overlapVolume {} "/page.vue.attrs.json" entry :=
    .file load_overlap checked
  have ended := auditDumps_of_audited (.cons told (.cons told .nil))
  obtain ⟨notices, audited⟩ := (audit_eq_ok_iff collectDumps_overlap).mpr ended
  exact ⟨_, notices, audited, rfl⟩

/-- The tag of the page is rewritten for each of the two, the second time by a dump that tells how
it stood before the first. -/
theorem fixDumps_overlap :
    (fixDumps Volume.storage {} false overlapVolume overlapDumps).files = dumpedVolume brokenPage ∧
      (fixDumps Volume.storage {} false overlapVolume overlapDumps).answer =
        .ok [pageResult, pageResult] := by
  rw [overlapDumps, overlapVolume, reordersVolume_strayPage.fixDumps_cons,
    reordersVolume_fixedPage.fixDumps_cons]
  exact ⟨rfl, rfl⟩

/-- The dump is collected once for each of the two paths, in a tree, and it is audited and fixed as
often. -/
theorem collected_per_path_overlapVolume :
    let found := Volume.storage.dumpsFor overlapVolume
    collectDumps Volume.storage overlapVolume overlapPaths = .ok (overlapDumps, []) ∧
    (overlapPaths.countP fun path => "/page.vue.attrs.json" ∈ found path) = 2 ∧
    overlapVolume.Tree ∧ ¬ (found ".").Disjoint (found "page.vue.attrs.json") ∧
    (∃ result notices,
      audit Volume.storage overlapVolume {} overlapPaths = .ok (result, notices) ∧
      ∑ dump ∈ overlapDumps.toFinset,
        overlapDumps.count dump * violationCount Volume.storage overlapVolume {} dump = 2) ∧
    ∃ results outcomes,
      (fixPaths Volume.storage overlapVolume {} false overlapPaths).answer = .ok results ∧
      FixRun Volume.storage {} false overlapVolume overlapDumps outcomes
        (fixPaths Volume.storage overlapVolume {} false overlapPaths).files ∧
      results = outcomes.reduceOption := by
  intro found
  obtain ⟨counts, -, places, audits, fixes⟩ := collected_per_path overlapVolume collectDumps_overlap
  refine ⟨collectDumps_overlap, ?_, overlapVolume_tree, ?_, ?_, ?_⟩
  · exact (counts "/page.vue.attrs.json").symm.trans (by decide)
  · have resolved : overlapVolume.resolve "." = .ok [] := eq_ok_of_toOption (by decide +kernel)
    have resolvedThere : overlapVolume.resolve "page.vue.attrs.json" =
        .ok ["page.vue.attrs.json"] := eq_ok_of_toOption (by decide +kernel)
    have file : overlapVolume.get? ["page.vue.attrs.json"] =
        some (.file (Utf8.encode pageDump)) := rfl
    have stands : overlapVolume.StandsFor ["page.vue.attrs.json"] ["page.vue.attrs.json"] :=
      .itself (by rw [file]; exact nofun) (by decide +kernel)
    obtain ⟨place, same, -, pairs⟩ := places overlapVolume_tree "." List.mem_cons_self
    obtain rfl := Except.ok.inj (resolved.symm.trans same)
    obtain ⟨-, shared⟩ := pairs "page.vue.attrs.json" (by decide) _ resolvedThere
    intro disjoint
    obtain ⟨outer, inner⟩ := shared rfl List.nil_prefix _ _ stands file
    exact disjoint outer inner
  · obtain ⟨result, notices, audited, count⟩ := audit_overlap
    exact ⟨result, notices, audited, (audits _ _ _ audited).symm.trans count⟩
  · have answered := (fixPaths_of_collected {} false collectDumps_overlap).2.trans
      fixDumps_overlap.2
    obtain ⟨outcomes, run, same⟩ := fixes _ _ _ answered
    exact ⟨_, outcomes, answered, run, same⟩

/-- A dump is collected twice when it is given beside its directory. Its one violation is counted
twice; and a fix, which puts the tag in order when the dump is given alone, rewrites it twice and
takes it apart. -/
theorem collected_twice :
    (collectDumps Volume.storage overlapVolume overlapPaths = .ok (overlapDumps, []) ∧
      ¬ overlapDumps.Nodup) ∧
    (∃ violation result notices,
      Document.load Volume.storage overlapVolume "/page.vue.attrs.json" = .ok overlapDocument ∧
      checkTags {} overlapDocument.tags = .ok [violation] ∧
      audit Volume.storage overlapVolume {} overlapPaths = .ok (result, notices) ∧
      result.count = 2) ∧
    ((fixPaths Volume.storage overlapVolume {} false ["page.vue.attrs.json"]).answer =
        .ok [pageResult] ∧
      Volume.storage.read
        (fixPaths Volume.storage overlapVolume {} false ["page.vue.attrs.json"]).files
        "/page.vue" = .ok fixedPage) ∧
    let outcome := fixPaths Volume.storage overlapVolume {} false overlapPaths
    outcome.answer = .ok [pageResult, pageResult] ∧
      Volume.storage.read outcome.files "/page.vue" = .ok brokenPage ∧ brokenPage ≠ fixedPage := by
  obtain ⟨violation, checked⟩ := checkTags_overlap
  obtain ⟨result, notices, audited, count⟩ := audit_overlap
  have collected : collectDumps Volume.storage overlapVolume ["page.vue.attrs.json"] =
      .ok (["/page.vue.attrs.json"], []) := eq_ok_of_toOption (by decide +kernel)
  have once : fixDumps Volume.storage {} false overlapVolume ["/page.vue.attrs.json"] = _ :=
    reordersVolume_strayPage.fixDumps_cons []
  have alone := fixPaths_of_collected {} false collected
  have twice := fixPaths_of_collected {} false collectDumps_overlap
  rw [once] at alone
  refine ⟨⟨collectDumps_overlap, by decide⟩,
    ⟨violation, result, notices, load_overlap, checked, audited, count⟩, ⟨alone.2, ?_⟩,
    twice.2.trans fixDumps_overlap.2, ?_, by decide⟩
  · rw [alone.1]
    exact eq_ok_of_toOption (by decide +kernel)
  · rw [twice.1, fixDumps_overlap.1]
    exact eq_ok_of_toOption (by decide +kernel)

end TagOrder
