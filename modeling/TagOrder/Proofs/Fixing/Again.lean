import TagOrder.Proofs.Fixing.Page

/-!
# Fixing again

A dump tells where the attributes of its source stood when it was made, and a fix does not make it
anew. So a second run over the dumps of the first leaves the sources as they are that have nothing
to be rewritten (`read_fixPaths_again`) or that the first run, having come to its end, did not
rewrite (`read_fixPaths_again_unwritten`); over the stale dump of a rewritten source it may undo the
fix or cut attributes apart (`fixPaths_stale`). Where a dump tells how the fixed source stands now,
a clean source is left as it is (`read_fixDocument_anew`, `files_fixPaths_of_passes`), and
`fixPaths_again` puts the four together.
-/

namespace TagOrder

section Runs

variable {σ : Type} {storage : Storage σ} {files : σ} {rule : Rule} {backups : Bool}

section Twice

variable {paths dumps : List String} {warnings others : List Notice} {source : String -> Prop}
  {path : String}

/-- Neither of two runs over the same dumps touches a source whose documents have nothing to be
rewritten. -/
theorem read_fixPaths_again (separates : storage.Separates dumps source)
    (sources : ∀ dump ∈ dumps, ∀ path, Document.source? storage files dump = some path →
      source path)
    (collected : collectDumps storage files paths = .ok (dumps, warnings))
    (again : collectDumps storage (fixPaths storage files rule backups paths).files paths =
      .ok (dumps, others))
    (isSource : source path)
    (still : ∀ dump ∈ dumps, ∀ document, Document.load storage files dump = .ok document →
      document.path = path → document.Still rule) :
    storage.read (fixPaths storage files rule backups paths).files path =
        storage.read files path ∧
      storage.read (fixPaths storage (fixPaths storage files rule backups paths).files rule backups
        paths).files path = storage.read files path := by
  let kept := fun other => other ∈ dumps ∨ other = path
  have within : ∀ other, kept other → other ∈ dumps ∨ source other := by
    rintro other (isDump | rfl)
    · exact .inl isDump
    · exact .inr isSource
  have stillKept : ∀ dump ∈ dumps, ∀ document, Document.load storage files dump = .ok document →
      kept document.path → document.Still rule := by
    rintro dump member document loaded (isDump | here)
    · obtain ⟨named, -⟩ := Document.of_load_eq_ok loaded
      exact absurd (sources dump member _ named) (separates.distinct _ isDump)
    · exact still dump member document loaded here
  obtain ⟨afterFirst, afterSecond⟩ :=
    fixPaths_agree separates within (fun _ => .inl) sources stillKept collected again
  exact ⟨afterFirst path (.inr rfl), afterSecond path (.inr rfl)⟩

/-- Where the first run came to its end, the second leaves a source alone that the first did not
rewrite. -/
theorem read_fixPaths_again_unwritten {granted : σ -> Prop} {results : List FixResult}
    (separates : storage.Separates dumps source)
    (sources : ∀ dump ∈ dumps, ∀ path, Document.source? storage files dump = some path →
      source path)
    (collected : collectDumps storage files paths = .ok (dumps, warnings))
    (again : collectDumps storage (fixPaths storage files rule backups paths).files paths =
      .ok (dumps, others))
    (writable : storage.Writable granted) (grants : granted files)
    (answered : (fixPaths storage files rule backups paths).answer = .ok results)
    (isSource : source path) (unwritten : ¬ Rewritten results path) :
    storage.read (fixPaths storage (fixPaths storage files rule backups paths).files rule backups
        paths).files path =
      storage.read (fixPaths storage files rule backups paths).files path := by
  let kept := fun path => path ∈ dumps ∨ (source path ∧ ¬ Rewritten results path)
  have within : ∀ path, kept path → path ∈ dumps ∨ source path :=
    fun path keeps => keeps.imp_right And.left
  have left : ∀ path, source path → kept path → ¬ Rewritten results path := by
    rintro path named (isDump | ⟨-, unwritten⟩)
    · exact absurd named (separates.distinct path isDump)
    · exact unwritten
  have ended : (fixDumps storage rule backups files dumps).answer = .ok results := by
    rwa [fixPaths, collected] at answered
  have still := still_of_fixDumps separates writable within (fun _ => .inl) sources grants
    (.refl storage kept files) ended left
  obtain ⟨afterFirst, afterSecond⟩ :=
    fixPaths_agree separates within (fun _ => .inl) sources still collected again
  have here : kept path := .inr ⟨isSource, unwritten⟩
  exact (afterSecond path here).trans (afterFirst path here).symm

end Twice

/-- A fixed document whose tags came out clean is sound and passes the check as soon as it is
described anew. -/
theorem read_fixDocument_anew {allowed : Char -> Prop} {document : Document} {alone : Tag -> Repair}
    (lawful : storage.Lawful allowed) (sound : document.Sound)
    (holds : storage.read files document.path = .ok document.text)
    (serves : ∀ progress, document.repairs rule = .ok progress → progress.text ≠ document.text →
      storage.Serves files backups document.path progress.text)
    (results : ∀ tag ∈ document.tags, repair rule ⟨tag, document.text⟩ = .ok (alone tag))
    (clean : ∀ tag ∈ document.tags, (alone tag).clean = true) :
    ∃ text, storage.read (fixDocument storage files rule backups document).files document.path =
        .ok text ∧
      (document.anew text alone).Sound ∧
        ∀ described : Document, described.listing = (document.anew text alone).listing →
          described.Passes rule := by
  obtain ⟨final, finished, follows⟩ := repairTags_follows
    (Progress.follows_nil document.path document.text alone) sound.laid sound.tags_apart results
  have reads :=
    (writeRepairs_follows lawful sound holds (serves final finished) results follows).1
  refine ⟨final.text, ?_, sound.anew follows.repaired results, fun described =>
    (Document.passes_anew results clean).of_listing⟩
  rw [fixDocument, Document.repairs, finished]
  exact reads

/-- A run over documents that pass the check leaves the files exactly as they are. -/
theorem files_fixPaths_of_passes {paths : List String}
    (passes : ∀ dumps warnings, collectDumps storage files paths = .ok (dumps, warnings) →
      ∀ dump ∈ dumps, ∀ document, Document.load storage files dump = .ok document →
        document.Passes rule) :
    (fixPaths storage files rule backups paths).files = files := by
  unfold fixPaths
  cases collected : collectDumps storage files paths with
  | error halted => rfl
  | ok found =>
    obtain ⟨dumps, warnings⟩ := found
    exact fixDumps_of_passes (passes dumps warnings collected)

/-- What a second run over the same dumps leaves alone. However the runs come out, neither touches
a source whose documents have nothing to be rewritten; and where the first run came to its end, the
second leaves every source as it is that the first did not rewrite, whatever becomes of the others.
A fixed document whose tags came out clean passes the check as soon as it is described anew, which
can be done; and a run over documents that pass the check leaves the files exactly as they are. -/
theorem fixPaths_again (storage : Storage σ) (rule : Rule) (backups : Bool) :
    (∀ files paths dumps warnings others,
      let source := fun path => ∃ dump ∈ dumps, Document.source? storage files dump = some path
      let first := fixPaths storage files rule backups paths
      let second := fixPaths storage first.files rule backups paths
      storage.Separates dumps source →
      collectDumps storage files paths = .ok (dumps, warnings) →
      collectDumps storage first.files paths = .ok (dumps, others) →
        (∀ path, source path →
          (∀ dump ∈ dumps, ∀ document, Document.load storage files dump = .ok document →
            document.path = path → document.Still rule) →
          storage.read first.files path = storage.read files path ∧
            storage.read second.files path = storage.read files path) ∧
        ∀ granted results, storage.Writable granted → granted files → first.answer = .ok results →
          ∀ path, source path → ¬ Rewritten results path →
            storage.read second.files path = storage.read first.files path) ∧
    (∀ files allowed (document : Document) alone,
      let first := fixDocument storage files rule backups document
      storage.Lawful allowed → document.Sound →
      storage.read files document.path = .ok document.text →
      (∀ progress, document.repairs rule = .ok progress → progress.text ≠ document.text →
        storage.Serves files backups document.path progress.text) →
      (∀ tag ∈ document.tags, repair rule ⟨tag, document.text⟩ = .ok (alone tag)) →
      (∀ tag ∈ document.tags, (alone tag).clean = true) →
        ∃ text, storage.read first.files document.path = .ok text ∧
          (document.anew text alone).Sound ∧
            ∀ described : Document, described.listing = (document.anew text alone).listing →
              described.Passes rule) ∧
    ∀ files paths,
      (∀ dumps warnings, collectDumps storage files paths = .ok (dumps, warnings) →
        ∀ dump ∈ dumps, ∀ document, Document.load storage files dump = .ok document →
          document.Passes rule) →
        (fixPaths storage files rule backups paths).files = files := by
  refine ⟨?_, ?_, fun files paths => files_fixPaths_of_passes⟩
  · intro files paths dumps warnings others source first second separates collected again
    have sources : ∀ dump ∈ dumps, ∀ path, Document.source? storage files dump = some path →
        source path := fun dump member path named => ⟨dump, member, named⟩
    constructor
    · intro path isSource still
      exact read_fixPaths_again separates sources collected again isSource still
    · intro granted results writable grants answered path isSource unwritten
      exact read_fixPaths_again_unwritten separates sources collected again writable grants answered
        isSource unwritten
  · intro files allowed document alone first lawful sound holds serves results clean
    exact read_fixDocument_anew lawful sound holds serves results clean

end Runs

/-- Over the same dumps a second run takes apart what the first one fixed. -/
theorem fixPaths_stale :
    let first := fixPaths Shelf.storage (projectOf strayPage []) {} false projectDumps
    let second := fixPaths Shelf.storage first.files {} false projectDumps
    Shelf.storage.read first.files "page.vue" = .ok fixedPage ∧
      Shelf.storage.read second.files "page.vue" = .ok brokenPage ∧ brokenPage ≠ fixedPage := by
  intro first second
  have firstFiles : first.files = projectOf fixedPage [.written "page.vue"] :=
    (reordersProject_strayPage.fixPaths []).1
  have secondFiles : second.files =
      projectOf brokenPage [.written "page.vue", .written "page.vue"] := by
    dsimp only [second]
    rw [firstFiles]
    exact (reordersProject_fixedPage.fixPaths _).1
  rw [firstFiles, secondFiles]
  exact ⟨rfl, rfl, by decide⟩

/-- The project fixed again over the same dumps, where the second source stays as it is; and its
first source, which passes the check as soon as it is described anew. -/
theorem fixPaths_again_projectOf :
    let first := fixPaths Shelf.storage (projectOf strayPage []) {} false projectDumps
    let second := fixPaths Shelf.storage first.files {} false projectDumps
    Shelf.storage.read first.files "tidy.vue" =
        Shelf.storage.read (projectOf strayPage []) "tidy.vue" ∧
      Shelf.storage.read second.files "tidy.vue" = Shelf.storage.read first.files "tidy.vue" ∧
      (∃ alone text, (Document.anew (pageDocument "page.vue" strayPage) text alone).Sound ∧
        (Document.anew (pageDocument "page.vue" strayPage) text alone).Passes {}) ∧
      (fixPaths Shelf.storage (projectOf strayPage []) {} false ["tidy.vue.attrs.json"]).files =
        projectOf strayPage [] := by
  intro first second
  obtain ⟨sameDumps, describedAnew, passing⟩ := fixPaths_again Shelf.storage {} false
  obtain ⟨untouched, unwritten⟩ :=
    sameDumps (projectOf strayPage []) projectDumps projectDumps [] [] projectOf_separates rfl rfl
  have isSource : ∃ dump ∈ projectDumps,
      Document.source? Shelf.storage (projectOf strayPage []) dump = some "tidy.vue" :=
    ⟨"tidy.vue.attrs.json", by decide, (Document.of_load_eq_ok (load_tidy strayPage [])).1⟩
  refine ⟨(untouched "tidy.vue" isSource ?_).1, ?_, ?_, ?_⟩
  · intro dump member document loaded path
    rcases List.mem_pair.mp member with rfl | rfl
    · rw [reordersProject_strayPage.load _ rfl rfl] at loaded
      obtain rfl := Except.ok.inj loaded
      exact absurd path (by decide)
    · rw [load_tidy] at loaded
      obtain rfl := Except.ok.inj loaded
      exact tidyDocument_passes.still
  · have left : ¬ Rewritten [{ path := "page.vue", modified := true, fixedTags := 1 },
        { path := "tidy.vue", modified := false }] "tidy.vue" := by
      rintro ⟨result, member, path, modified⟩
      rcases List.mem_pair.mp member with rfl | rfl
      · exact absurd path (by decide)
      · cases modified
    exact unwritten _ _ Shelf.storage_writable rfl (reordersProject_strayPage.fixPaths []).2
      "tidy.vue" isSource left
  · obtain ⟨passes, repaired⟩ := reordersProject_strayPage.page.repaired
    have holds : Shelf.storage.read (projectOf strayPage []) "page.vue" = .ok strayPage := rfl
    have results : ∀ tag ∈ (pageDocument "page.vue" strayPage).tags,
        repair {} ⟨tag, strayPage⟩ =
          .ok
            { placed := Block.rotate ⟨0, 1, 1⟩ ⟨pageTag "page.vue" strayPage, strayPage⟩
              clean := true
              passes } := by
      intro tag member
      rw [List.mem_singleton.mp member]
      exact repaired
    obtain ⟨text, -, sound, passing⟩ := describedAnew (projectOf strayPage []) (fun _ => True)
      (pageDocument "page.vue" strayPage) (fun _ => _) Shelf.storage_lawful (by decide +kernel)
      holds (fun _ _ _ => Shelf.storage_serves holds rfl false _) results fun _ _ => rfl
    exact ⟨_, text, sound, passing _ rfl⟩
  · refine passing (projectOf strayPage []) ["tidy.vue.attrs.json"]
      fun dumps warnings collected => ?_
    have listed : collectDumps Shelf.storage (projectOf strayPage []) ["tidy.vue.attrs.json"] =
        .ok (["tidy.vue.attrs.json"], []) := rfl
    obtain ⟨rfl, -⟩ := Prod.mk.inj (Except.ok.inj (listed.symm.trans collected))
    intro dump member document loaded
    rw [List.mem_singleton.mp member, load_tidy] at loaded
    obtain rfl := Except.ok.inj loaded
    exact tidyDocument_passes

end TagOrder
