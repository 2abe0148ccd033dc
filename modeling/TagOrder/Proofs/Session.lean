import TagOrder.Proofs.Fixing.Frame
import TagOrder.Session

/-!
# What the status of a fix says

A run of fixes makes one of three things of a dump (`Treated`): the dump is refused and an error is
noted, the file of its document receives the repaired text, or the file system refuses to have the
file read once more or written (`Troubled`), which is noted as a trouble and leaves the file as it
is. The status counts none of these: it is 0 exactly when the tags of all documents that were loaded
came clean (`fix_status`), so it is 0 as well where a dump was refused or a file was not written
(`fix_status_unnoticed`).
-/

namespace TagOrder

section Runs

variable {σ : Type} {storage : Storage σ} {allowed : Char -> Prop} {origin files final : σ}
  {rule : Rule} {backups : Bool}

/-- A trouble with a file, which is noted: it is refused to be read once more, or to be written. -/
inductive Troubled (storage : Storage σ) (path : String) (notices : List Notice) : Prop where
  | unread {files error} (refused : storage.refusal files path = some error)
      (told : troubleNotice "read" path error ∈ notices)
  | unwritten {files text error} (refused : storage.write files path text = .error error)
      (told : troubleNotice "write" path error ∈ notices)

/-- More said. -/
theorem Troubled.later {path : String} {notices longer : List Notice}
    (troubled : Troubled storage path notices) (still : notices ⊆ longer) :
    Troubled storage path longer := by
  cases troubled with
  | unread refused told => exact .unread refused (still told)
  | unwritten refused told => exact .unwritten refused (still told)

/-- Where nothing said is a trouble, there is none. -/
theorem Troubled.elim {path : String} {notices : List Notice}
    (troubled : Troubled storage path notices)
    (quiet : ∀ notice ∈ notices, notice.kind ≠ .trouble) : False := by
  cases troubled with
  | unread refused told => exact quiet _ told rfl
  | unwritten refused told => exact quiet _ told rfl

/-- What a run of fixes makes of a dump. -/
inductive Treated (storage : Storage σ) (rule : Rule) (origin final : σ) (notices : List Notice)
    (dump : String) : Prop where
  | refused {fault} (unloaded : Document.load storage origin dump = .error (.dump dump fault))
      (told : ⟨.error, (LoadError.dump dump fault).message⟩ ∈ notices)
  | written {document alone text} (loaded : Document.load storage origin dump = .ok document)
      (results : ∀ tag ∈ document.tags, repair rule ⟨tag, document.text⟩ = .ok (alone tag))
      (repaired : RepairedIn document.text alone document.tags text)
      (reads : storage.read final document.path = .ok text)
  | unwritten {document} (loaded : Document.load storage origin dump = .ok document)
      (reads : storage.read final document.path = .ok document.text)
      (troubled : Troubled storage document.path notices)

/-- More said, and the file of the dump left alone. -/
theorem Treated.later {notices longer : List Notice} {dump : String} {after : σ}
    (treated : Treated storage rule origin final notices dump)
    (still : notices ⊆ longer)
    (keeps : ∀ path, Document.source? storage origin dump = some path →
      storage.read after path = storage.read final path) :
    Treated storage rule origin after longer dump := by
  cases treated with
  | refused unloaded told => exact .refused unloaded (still told)
  | written loaded results repaired reads =>
    refine .written loaded results repaired ?_
    rw [keeps _ (Document.of_load_eq_ok loaded).1, reads]
  | unwritten loaded reads troubled =>
    refine .unwritten loaded ?_ (troubled.later still)
    rw [keeps _ (Document.of_load_eq_ok loaded).1, reads]

/-- A trouble that did not end a run left the files as they were and is noted. -/
theorem of_fileTrouble {action path : String} {error : FileError} {modified : Bool}
    (answered : (fileTrouble files action path error).answer = .ok modified) :
    (fileTrouble files action path error).files = files ∧
      troubleNotice action path error ∈ (fileTrouble files action path error).notices := by
  refine ⟨files_fileTrouble files action path error, ?_⟩
  unfold fileTrouble at answered ⊢
  split at answered
  · rw [if_pos ‹_›]
    exact List.mem_singleton_self _
  · cases answered

/-- Scripts that were applied are read back, or a trouble is noted and nothing was written. -/
theorem reads_applyScripts {path : String} {scripts : List Script} {source text : Text}
    {modified : Bool} (lawful : storage.Lawful allowed)
    (reads : storage.read files path = .ok source)
    (merged : (Script.merge scripts).apply source = text) (legal : ∀ c ∈ text, allowed c)
    (answered : (applyScripts storage files path scripts).answer = .ok modified) :
    let outcome := applyScripts storage files path scripts
    storage.read outcome.files path = .ok text ∨
      storage.read outcome.files path = .ok source ∧ Troubled storage path outcome.notices := by
  dsimp only
  unfold applyScripts at answered ⊢
  cases again : storage.reread files path with
  | error error =>
    rw [again] at answered
    obtain ⟨same, told⟩ := of_fileTrouble answered
    dsimp only
    rw [same]
    exact .inr ⟨reads, .unread (Storage.refusal_of_reread reads again) told⟩
  | ok held =>
    obtain rfl := Except.ok.inj ((Storage.read_of_reread again).symm.trans reads)
    rw [again] at answered
    dsimp only at answered ⊢
    rw [merged] at answered ⊢
    by_cases same : text = held
    · rw [if_pos same, same]
      exact .inl reads
    rw [if_neg same] at answered ⊢
    cases writes : storage.write files path text with
    | ok after => exact .inl (lawful.read_write reads writes legal)
    | error error =>
      rw [writes] at answered
      obtain ⟨same, told⟩ := of_fileTrouble answered
      dsimp only
      rw [same]
      exact .inr ⟨reads, .unwritten writes told⟩

/-- Repairs that were written are read back, or a trouble is noted and the file is as it was; and
the answer counts the tags that did not come clean. -/
theorem reads_writeRepairs {document : Document} {alone : Tag -> Repair} {progress : Progress}
    {result : FixResult} (lawful : storage.Lawful allowed) (sound : document.Sound)
    (holds : storage.read files document.path = .ok document.text)
    (results : ∀ tag ∈ document.tags, repair rule ⟨tag, document.text⟩ = .ok (alone tag))
    (follows : progress.Follows document.path document.text alone document.tags)
    (answered : (writeRepairs storage files backups document.path progress).answer = .ok result) :
    let outcome := writeRepairs storage files backups document.path progress
    result.unresolvedTags = progress.unresolved ∧
      (storage.read outcome.files document.path = .ok progress.text ∨
        storage.read outcome.files document.path = .ok document.text ∧
          Troubled storage document.path outcome.notices) := by
  intro outcome
  have merged : (Script.merge progress.scripts).apply document.text = progress.text := by
    rw [follows.scripts]
    exact merge_changedEdits sound follows.repaired
  dsimp only [outcome]
  by_cases none : progress.scripts = []
  · rw [writeRepairs_of_nil none] at answered ⊢
    obtain rfl := Except.ok.inj answered
    rw [none, Script.apply_merge_nil] at merged
    rw [← merged]
    exact ⟨rfl, .inl holds⟩
  rw [writeRepairs, if_neg (mt List.isEmpty_iff.mp none)] at answered ⊢
  cases copied : keepBackup storage files backups document.path with
  | error error =>
    rw [copied] at answered
    cases answered
  | ok kept =>
    rw [copied] at answered
    dsimp only at answered ⊢
    have legal := fun c member => lawful.read_allowed holds c
      (follows.repaired.mem_original sound.laid results c member)
    have source := (lawful.read_kept copied).trans holds
    cases applied : (applyScripts storage kept document.path progress.scripts).answer with
    | error fault =>
      rw [applied] at answered
      cases answered
    | ok modified =>
      rw [applied] at answered
      obtain rfl := Except.ok.inj answered
      refine ⟨rfl, ?_⟩
      dsimp only
      refine (reads_applyScripts lawful source merged legal applied).imp_right fun left => ?_
      exact ⟨left.1, left.2.later fun _ told =>
        List.mem_append_left _ (List.mem_append_right _ told)⟩

/-- The dumps name sources of their own. -/
def Document.Unshared (storage : Storage σ) (files : σ) (left right : String) : Prop :=
  ∀ path, source? storage files left = some path → source? storage files right ≠ some path

/-- Every tag of a document has a repair that comes clean. -/
def Document.ComesClean (rule : Rule) (document : Document) : Prop :=
  ∀ tag ∈ document.tags, ∃ repaired, repair rule ⟨tag, document.text⟩ = .ok repaired ∧
    repaired.clean = true

/-- A fix of a sound document treats its dump, and its answer counts no tag just where all tags come
clean. -/
theorem treated_of_fixDocument {document : Document} {dump : String} {result : FixResult}
    (lawful : storage.Lawful allowed) (sound : document.Sound)
    (loaded : Document.load storage origin dump = .ok document)
    (holds : storage.read files document.path = .ok document.text)
    (answered : (fixDocument storage files rule backups document).answer = .ok result) :
    let outcome := fixDocument storage files rule backups document
    Treated storage rule origin outcome.files outcome.notices dump ∧
      (result.unresolvedTags = 0 ↔ document.ComesClean rule) := by
  unfold fixDocument at answered ⊢
  cases finished : document.repairs rule with
  | error fault =>
    rw [finished] at answered
    cases answered
  | ok progress =>
    rw [finished] at answered
    obtain ⟨alone, results, follows⟩ := sound.exists_alone finished
    obtain ⟨unresolved, reads⟩ :=
      reads_writeRepairs lawful sound holds results follows answered
    constructor
    · rcases reads with written | ⟨unwritten, troubled⟩
      · exact .written loaded results follows.repaired written
      · exact .unwritten loaded unwritten troubled
    · rw [unresolved, follows.unresolved, List.countP_eq_zero]
      constructor
      · intro none tag member
        exact ⟨alone tag, results tag member, by simpa using none tag member⟩
      · intro clean tag member
        obtain ⟨repaired, here, ended⟩ := clean tag member
        obtain rfl := Except.ok.inj ((results tag member).symm.trans here)
        simp [ended]

theorem unresolvedTags_cons (result : FixResult) (results : List FixResult) :
    Session.unresolvedTags (result :: results) =
      result.unresolvedTags + Session.unresolvedTags results := by
  rw [Session.unresolvedTags, List.map_cons, ← List.singleton_append, total_append]
  rfl

/-- The sources that some dumps name. -/
def Document.Named (storage : Storage σ) (origin : σ) (dumps : List String) (path : String) :
    Prop :=
  ∃ dump ∈ dumps, source? storage origin dump = some path

/-- Some dumps and the sources that they name. -/
def Document.Involved (storage : Storage σ) (origin : σ) (dumps : List String) (path : String) :
    Prop :=
  path ∈ dumps ∨ Document.Named storage origin dumps path

theorem Document.Named.of_subset {dumps taken : List String} {path : String}
    (named : Document.Named storage origin taken path) (subset : taken ⊆ dumps) :
    Document.Named storage origin dumps path := by
  obtain ⟨dump, member, source⟩ := named
  exact ⟨dump, subset member, source⟩

theorem Document.Involved.of_subset {dumps taken : List String} {path : String}
    (involved : Document.Involved storage origin taken path) (subset : taken ⊆ dumps) :
    Document.Involved storage origin dumps path :=
  involved.imp (fun isDump => subset isDump) fun named => named.of_subset subset

section Separate

variable {dumps taken : List String} {path : String}

/-- The dumps are files of their own, and so are the sources that they name. -/
abbrev Storage.SeparatesDumps (storage : Storage σ) (origin : σ) (dumps : List String) : Prop :=
  storage.Separates dumps (Document.Named storage origin dumps)

/-- A source that some dumps do not name is none of their files. -/
theorem Storage.Separates.not_involved (separates : storage.SeparatesDumps origin dumps)
    (subset : taken ⊆ dumps) (named : Document.Named storage origin dumps path)
    (foreign : ¬ Document.Named storage origin taken path) :
    ¬ Document.Involved storage origin taken path := by
  rintro (isDump | shared)
  · exact separates.distinct _ (subset isDump) named
  · exact foreign shared

/-- A run over some dumps leaves alone a source that they do not name. -/
theorem read_fixDumps_of_not_named (separates : storage.SeparatesDumps origin dumps)
    (subset : taken ⊆ dumps) (named : Document.Named storage origin dumps path)
    (foreign : ¬ Document.Named storage origin taken path)
    (agree : storage.Agree (Document.Involved storage origin taken) origin files) :
    storage.read (fixDumps storage rule backups files taken).files path =
      storage.read files path := by
  have sources : ∀ dump ∈ taken, ∀ other, Document.source? storage files dump = some other →
      Document.Named storage origin taken other := by
    intro dump member other source
    rw [Document.source?_congr (agree dump (.inl member))] at source
    exact ⟨dump, member, source⟩
  have onward : storage.Agree (fun other => other ∈ taken ∨ other = path) files
      (fixDumps storage rule backups files taken).files := by
    refine fixDumps_agree separates ?_ (fun _ => .inl) ?_ ?_ (.refl storage _ _)
    · rintro other (isDump | rfl)
      · exact .inl (subset isDump)
      · exact .inr named
    · intro dump member other source
      exact (sources dump member other source).of_subset subset
    · intro dump member document loaded kept
      have shared := sources dump member _ (Document.of_load_eq_ok loaded).1
      rcases kept with isDump | here
      · exact absurd (shared.of_subset subset) (separates.distinct _ (subset isDump))
      · rw [here] at shared
        exact absurd shared foreign
  exact onward path (.inr rfl)

/-- The fix of the first of some dumps leaves the others and their sources as they were: its source
is no file of theirs. -/
theorem agree_of_fixDocument_cons {dump : String} {document : Document}
    (separates : storage.SeparatesDumps origin dumps) (subset : dump :: taken ⊆ dumps)
    (apart : ∀ other ∈ taken, Document.Unshared storage origin dump other)
    (agree : storage.Agree (Document.Involved storage origin (dump :: taken)) origin files)
    (loaded : Document.load storage origin dump = .ok document)
    (holds : storage.read files document.path = .ok document.text) :
    ¬ Document.Named storage origin taken document.path ∧
      storage.Agree (Document.Involved storage origin taken) origin
        (fixDocument storage files rule backups document).files := by
  have source := (Document.of_load_eq_ok loaded).1
  have within : taken ⊆ dumps := fun other member => subset (List.mem_cons_of_mem _ member)
  have named : Document.Named storage origin dumps document.path :=
    ⟨dump, subset List.mem_cons_self, source⟩
  have foreign : ¬ Document.Named storage origin taken document.path := by
    rintro ⟨other, member, shared⟩
    exact apart other member _ source shared
  have before : storage.Agree (Document.Involved storage origin taken) origin files :=
    fun path involved => agree path (involved.of_subset (List.subset_cons_self dump taken))
  refine ⟨foreign, before.trans ?_⟩
  exact fixDocument_agree separates (fun _ involved => involved.of_subset within) named holds
    fun involved => absurd involved (separates.not_involved within named foreign)

/-- All tags of the documents of some dumps come clean when those of the first do and those of the
rest, if the first has a document. -/
theorem forall_comesClean_cons_iff {dump : String} {answer : Except LoadError Document}
    (loaded : Document.load storage origin dump = answer) :
    (∀ other ∈ dump :: taken, ∀ document, Document.load storage origin other = .ok document →
        document.ComesClean rule) ↔
      (∀ document, answer = .ok document → document.ComesClean rule) ∧
        ∀ other ∈ taken, ∀ document, Document.load storage origin other = .ok document →
          document.ComesClean rule := by
  rw [List.forall_mem_cons, loaded]

/-- The fix of a document in front of a run that treats the other dumps: its dump is treated as
well, and its tags are counted with theirs. -/
theorem treated_cons {dump : String} {document : Document} {result : FixResult}
    {results : List FixResult} (lawful : storage.Lawful allowed)
    (separates : storage.SeparatesDumps origin dumps) (subset : dump :: taken ⊆ dumps)
    (sound : document.Sound) (loaded : Document.load storage origin dump = .ok document)
    (holds : storage.read files document.path = .ok document.text)
    (foreign : ¬ Document.Named storage origin taken document.path)
    (agree : storage.Agree (Document.Involved storage origin taken) origin
      (fixDocument storage files rule backups document).files)
    (fixed : (fixDocument storage files rule backups document).answer = .ok result) :
    let step := fixDocument storage files rule backups document
    let others := fixDumps storage rule backups step.files taken
    ((∀ other ∈ taken, Treated storage rule origin others.files others.notices other) ∧
      (Session.unresolvedTags results = 0 ↔
        ∀ other ∈ taken, ∀ document, Document.load storage origin other = .ok document →
          document.ComesClean rule)) →
    (∀ other ∈ dump :: taken,
      Treated storage rule origin others.files (step.notices ++ others.notices) other) ∧
      (Session.unresolvedTags (result :: results) = 0 ↔
        ∀ other ∈ dump :: taken, ∀ document, Document.load storage origin other = .ok document →
          document.ComesClean rule) := by
  rintro step others ⟨treated, counts⟩
  obtain ⟨treatedHere, countsHere⟩ := treated_of_fixDocument lawful sound loaded holds fixed
  have source := (Document.of_load_eq_ok loaded).1
  constructor
  · rw [List.forall_mem_cons]
    constructor
    · refine treatedHere.later (List.subset_append_left _ _) fun path here => ?_
      obtain rfl := Option.some.inj (source.symm.trans here)
      exact read_fixDumps_of_not_named separates
        (fun other member => subset (List.mem_cons_of_mem _ member))
        ⟨dump, subset List.mem_cons_self, source⟩ foreign agree
    · exact fun other member =>
        (treated other member).later (List.subset_append_right _ _) fun _ _ => rfl
  · rw [unresolvedTags_cons, Nat.add_eq_zero_iff, countsHere, counts,
      forall_comesClean_cons_iff loaded]
    simp only [Except.ok.injEq, forall_eq']

/-- A run treats every dump, whatever it makes of the others, and its results count no tag just
where all tags of the documents that were loaded come clean. -/
theorem treated_of_fixDumps {results : List FixResult} (lawful : storage.Lawful allowed)
    (separates : storage.SeparatesDumps origin dumps) (subset : taken ⊆ dumps)
    (unshared : taken.Pairwise (Document.Unshared storage origin))
    (sound : ∀ dump ∈ taken, ∀ document, Document.load storage origin dump = .ok document →
      document.Sound)
    (agree : storage.Agree (Document.Involved storage origin taken) origin files)
    (answered : (fixDumps storage rule backups files taken).answer = .ok results) :
    let outcome := fixDumps storage rule backups files taken
    (∀ dump ∈ taken, Treated storage rule origin outcome.files outcome.notices dump) ∧
      (Session.unresolvedTags results = 0 ↔
        ∀ dump ∈ taken, ∀ document, Document.load storage origin dump = .ok document →
          document.ComesClean rule) := by
  induction taken generalizing files results with
  | nil =>
    obtain rfl := Except.ok.inj answered
    exact ⟨by simp, iff_of_true rfl (by simp)⟩
  | cons dump rest ih =>
    obtain ⟨apart, unsharedRest⟩ := List.pairwise_cons.mp unshared
    obtain ⟨soundHere, soundRest⟩ := List.forall_mem_cons.mp sound
    have within : rest ⊆ dumps := fun other member => subset (List.mem_cons_of_mem _ member)
    have same : Document.load storage files dump = Document.load storage origin dump :=
      Document.load_congr (agree dump (.inl List.mem_cons_self)) fun path source =>
        agree path (.inr ⟨dump, List.mem_cons_self, source⟩)
    unfold fixDumps at answered ⊢
    cases loaded : Document.load storage origin dump with
    | error error =>
      rw [same, loaded] at answered ⊢
      dsimp only
      rw [forall_comesClean_cons_iff loaded, List.forall_mem_cons]
      cases error with
      | file error => cases answered
      | beyond limit => cases answered
      | dump path fault =>
        obtain rfl := Document.path_of_load loaded
        obtain ⟨treated, counts⟩ := ih within unsharedRest soundRest (fun path involved =>
          agree path (involved.of_subset (List.subset_cons_self _ rest))) answered
        refine ⟨⟨.refused loaded List.mem_cons_self, fun other member => ?_⟩, ?_⟩
        · exact (treated other member).later (List.subset_cons_self _ _) fun _ _ => rfl
        · rw [counts, and_iff_right]
          intro _ same
          cases same
    | ok document =>
      have holds := (Document.of_load_eq_ok (same.trans loaded)).2
      rw [same, loaded] at answered ⊢
      dsimp only at answered ⊢
      cases fixed : (fixDocument storage files rule backups document).answer with
      | error fault =>
        rw [fixed] at answered
        cases answered
      | ok result =>
        rw [fixed] at answered
        obtain ⟨others, finished, rfl⟩ := exists_of_map_eq_ok answered
        obtain ⟨foreign, step⟩ :=
          agree_of_fixDocument_cons separates subset apart agree loaded holds
        exact treated_cons lawful separates subset (soundHere document loaded) loaded holds foreign
          step fixed (ih within unsharedRest soundRest step finished)

/-- What the status of a fix says, and what it does not. Every dump that is collected is refused
with an error, or the file of its document receives the text with every tag as its repair leaves it,
or it stays as it is with a trouble noted. The status is 0 exactly when all tags of the documents
that were loaded come clean. So a status of 0 with neither an error nor a trouble noted says that
every dump was loaded and that every source holds its tags in an order which passes the check. -/
theorem fix_status (storage : Storage σ) (allowed : Char -> Prop) (lawful : storage.Lawful allowed)
    (rule : Rule) (backups : Bool) (files : σ) (paths dumps : List String) (warnings : List Notice)
    (collected : collectDumps storage files paths = .ok (dumps, warnings))
    (separates : storage.SeparatesDumps files dumps)
    (unshared : dumps.Pairwise (Document.Unshared storage files))
    (sound : ∀ dump ∈ dumps, ∀ document, Document.load storage files dump = .ok document →
      document.Sound)
    (session : Session σ) (ended : Session.fix storage files rule backups paths = .ok session) :
    (∀ dump ∈ dumps, Treated storage rule files session.files session.notices dump) ∧
      (session.status = 0 ↔
        ∀ dump ∈ dumps, ∀ document, Document.load storage files dump = .ok document →
          document.ComesClean rule) ∧
      (session.status = 0 →
        (∀ notice ∈ session.notices, notice.kind ≠ .error ∧ notice.kind ≠ .trouble) →
          ∀ dump ∈ dumps, ∃ document alone text,
            Document.load storage files dump = .ok document ∧
            (∀ tag ∈ document.tags, repair rule ⟨tag, document.text⟩ = .ok (alone tag) ∧
              rule.check (alone tag).placed.tag = .ok []) ∧
            RepairedIn document.text alone document.tags text ∧
            storage.read session.files document.path = .ok text) := by
  unfold Session.fix fixPaths at ended
  rw [collected] at ended
  dsimp only at ended
  cases answered : (fixDumps storage rule backups files dumps).answer with
  | error fault =>
    rw [answered] at ended
    cases ended
  | ok results =>
    rw [answered] at ended
    obtain rfl := Except.ok.inj ended
    obtain ⟨treated, counts⟩ := treated_of_fixDumps lawful separates (List.Subset.refl dumps)
      unshared sound (.refl storage _ files) answered
    have status : Session.fixStatus results = 0 ↔ Session.unresolvedTags results = 0 := by
      unfold Session.fixStatus
      by_cases none : Session.unresolvedTags results = 0 <;> simp [none]
    have treatedHere : ∀ dump ∈ dumps, Treated storage rule files
        (fixDumps storage rule backups files dumps).files
        (Session.welcome :: (warnings ++ (fixDumps storage rule backups files dumps).notices) ++
          Session.fixNotices results) dump := by
      intro dump member
      refine (treated dump member).later (fun _ told => ?_) fun _ _ => rfl
      exact List.mem_append_left _ (List.mem_cons_of_mem _ (List.mem_append_right _ told))
    refine ⟨treatedHere, status.trans counts, fun zero quiet dump member => ?_⟩
    cases treatedHere dump member with
    | refused unloaded told => exact absurd rfl (quiet _ told).1
    | unwritten loaded reads troubled =>
      exact (troubled.elim fun notice told => (quiet notice told).2).elim
    | @written document alone text loaded results repaired reads =>
      refine ⟨document, alone, text, loaded, fun tag inTags => ⟨results tag inTags, ?_⟩, repaired,
        reads⟩
      obtain ⟨result, here, clean⟩ :=
        counts.mp (status.mp zero) dump member document loaded tag inTags
      obtain rfl := Except.ok.inj ((results tag inTags).symm.trans here)
      exact check_of_repair here clean

/-- A run that comes to its end is a session with the status of its results. -/
theorem Session.fix_of_answer {paths : List String} {results : List FixResult}
    (answered : (fixPaths storage files rule backups paths).answer = .ok results) :
    Session.fix storage files rule backups paths =
      .ok (Session.ofNotices (fixPaths storage files rule backups paths).files
        (Session.fixStatus results) ""
        (Session.welcome :: (fixPaths storage files rule backups paths).notices ++
          Session.fixNotices results)) := by
  rw [Session.fix, answered]

end Separate

end Runs

/-- A shelf with a dump that is no JSON. -/
def malformedShelf : Shelf where
  texts := [("page.vue.attrs.json", "\x7b".toList)]

/-- A shelf with a source out of order that refuses to be written. -/
def lockedShelf : Shelf := { projectOf strayPage [] with refusesWrite := true }

/-- The status of a fix is 0 where the only dump was refused, and where the only file, whose tag is
out of order, was not written. -/
theorem fix_status_unnoticed :
    (∃ session fault,
      Session.fix Shelf.storage malformedShelf {} false ["page.vue.attrs.json"] = .ok session ∧
        session.status = 0 ∧
        Document.load Shelf.storage malformedShelf "page.vue.attrs.json" =
          .error (.dump "page.vue.attrs.json" fault)) ∧
      ∃ session,
        Session.fix Shelf.storage lockedShelf {} false ["page.vue.attrs.json"] = .ok session ∧
          session.status = 0 ∧
          Document.load Shelf.storage lockedShelf "page.vue.attrs.json" =
            .ok (pageDocument "page.vue" strayPage) ∧
          Shelf.storage.read session.files "page.vue" = .ok strayPage ∧
          Rule.check {} (pageTag "page.vue" strayPage) ≠ .ok [] := by
  constructor
  · have refused : Document.load Shelf.storage malformedShelf "page.vue.attrs.json" =
        .error (.dump "page.vue.attrs.json" (.notJson .propertyName 1)) := rfl
    have collected : collectDumps Shelf.storage malformedShelf ["page.vue.attrs.json"] =
        .ok (["page.vue.attrs.json"], []) := rfl
    have answered : (fixPaths Shelf.storage malformedShelf {} false
        ["page.vue.attrs.json"]).answer = .ok [] := by
      simp only [fixPaths, collected, fixDumps, refused]
    exact ⟨_, _, Session.fix_of_answer answered, rfl, refused⟩
  · have loaded : Document.load Shelf.storage lockedShelf "page.vue.attrs.json" =
        .ok (pageDocument "page.vue" strayPage) := reordersProject_strayPage.load _ rfl rfl
    have collected : collectDumps Shelf.storage lockedShelf ["page.vue.attrs.json"] =
        .ok (["page.vue.attrs.json"], []) := rfl
    have reads : Shelf.storage.read lockedShelf "page.vue" = .ok strayPage := rfl
    have fixed : fixDocument Shelf.storage lockedShelf {} false
        (pageDocument "page.vue" strayPage) =
        { files := lockedShelf
          notices := [troubleNotice "write" "page.vue" (.refused "write")]
          answer := .ok { path := "page.vue", modified := false, fixedTags := 1 } } :=
      reordersProject_strayPage.page.fixDocument_refused rfl reads rfl rfl
    have run : fixPaths Shelf.storage lockedShelf {} false ["page.vue.attrs.json"] =
        { files := lockedShelf
          notices := [troubleNotice "write" "page.vue" (.refused "write")]
          answer := .ok [{ path := "page.vue", modified := false, fixedTags := 1 }] } := by
      unfold fixPaths
      rw [collected]
      dsimp only
      rw [fixDumps_cons_of_ok loaded fixed]
      rfl
    refine ⟨_, Session.fix_of_answer (by rw [run]), rfl, loaded, ?_, ?_⟩
    · rw [run]
      exact reads
    · rw [Ne, Rule.check_eq_nil_iff]
      decide +kernel

/-- The project fixed with status 0 and nothing refused: both sources hold their tags in order. -/
theorem fix_status_projectOf :
    ∃ session, Session.fix Shelf.storage (projectOf strayPage []) {} false projectDumps =
        .ok session ∧ session.status = 0 ∧
      ∀ dump ∈ projectDumps, ∃ document alone text,
        Document.load Shelf.storage (projectOf strayPage []) dump = .ok document ∧
        (∀ tag ∈ document.tags, Rule.check {} (alone tag).placed.tag = .ok []) ∧
        RepairedIn document.text alone document.tags text ∧
        Shelf.storage.read session.files document.path = .ok text := by
  have collected : collectDumps Shelf.storage (projectOf strayPage []) projectDumps =
      .ok (projectDumps, []) := rfl
  have page : Document.load Shelf.storage (projectOf strayPage []) "page.vue.attrs.json" =
      .ok (pageDocument "page.vue" strayPage) := reordersProject_strayPage.load _ rfl rfl
  have sound : ∀ dump ∈ projectDumps, ∀ document,
      Document.load Shelf.storage (projectOf strayPage []) dump = .ok document →
        document.Sound := by
    intro dump member document loaded
    rcases List.mem_pair.mp member with rfl | rfl
    · obtain rfl := Except.ok.inj (page.symm.trans loaded)
      decide +kernel
    · rw [load_tidy] at loaded
      obtain rfl := Except.ok.inj loaded
      decide +kernel
  have unshared : projectDumps.Pairwise
      (Document.Unshared Shelf.storage (projectOf strayPage [])) := by
    have tidy := (Document.of_load_eq_ok (load_tidy strayPage [])).1
    refine List.pairwise_pair.mpr fun path named other => ?_
    obtain rfl := Option.some.inj ((Document.of_load_eq_ok page).1.symm.trans named)
    exact absurd (Option.some.inj (tidy.symm.trans other)) (by decide)
  have run := reordersProject_strayPage.fixDumps []
  have ended := Session.fix_of_answer (reordersProject_strayPage.fixPaths []).2
  refine ⟨_, ended, rfl, fun dump member => ?_⟩
  obtain ⟨-, -, inOrder⟩ := fix_status Shelf.storage (fun _ => True) Shelf.storage_lawful {} false
    (projectOf strayPage []) projectDumps projectDumps [] collected projectOf_separates unshared
    sound _ ended
  obtain ⟨document, alone, text, loaded, results, repaired, reads⟩ := inOrder rfl (by
    simp only [Session.ofNotices, fixPaths, collected, run]
    decide +kernel) dump member
  exact ⟨document, alone, text, loaded, fun tag inTags => (results tag inTags).2, repaired, reads⟩

end TagOrder
