import TagOrder.Proofs.Fixing.InOrder

/-!
# A page that is fixed with one rotation

What a fix makes of a document with one tag follows from what a single rotation makes of the tag, if
the tag comes clean with it: so does its repair (`repair_of_rotate`), the repairs of the document
put its span in place of the old one (`repairs_of_clean`), and these are written to the file. The
page has a bind in front of a plain attribute, by a dump that says so of whatever the page holds;
for each text in which the repair puts the two in the other order (`ReordersPage`), it is told how a
fix of the page comes out, with the storage that holds it, and a run over a project of the page and
of a document in order (`ReordersProject`).
-/

namespace TagOrder

/-- A tag that comes clean with its first pass. -/
theorem repair_of_rotate {rule : Rule} {placed : Placed} {node previous : Attribute} {block : Block}
    (found : ((rule.check placed.tag).toOption.bind fun violations =>
      violations.find? (·.fixable)).map (fun violation => (violation.node, violation.previous)) =
        some (node, previous))
    (moves : block? placed.tag.attributes node previous = some block)
    (clean : rule.check (block.rotate placed).tag = .ok []) (allowed : 0 < rule.options.maxPasses) :
    ∃ passes, repair rule placed =
      .ok { placed := block.rotate placed, clean := true, passes } := by
  obtain ⟨left, passes⟩ := Nat.exists_eq_succ_of_ne_zero (Nat.ne_of_gt allowed)
  cases checked : rule.check placed.tag with
  | error fault =>
    rw [checked] at found
    cases found
  | ok violations =>
    rw [checked] at found
    obtain ⟨violation, first, same⟩ := Option.map_eq_some_iff.mp found
    obtain ⟨rfl, rfl⟩ := Prod.mk.inj same
    have rotated : rotate? placed violation.node violation.previous =
        some (block.rotate placed) := by
      rw [rotate?, moves, Option.map_some]
    have run : RepairRun rule (left + 1) [] [] placed _ :=
      .pass checked rfl first rotated (.clean clean)
    rw [repair, passes]
    exact ⟨_, run.repairFrom_eq⟩

/-- A document with one tag that its repair brings out clean and changed. -/
theorem repairs_of_clean {rule : Rule} {document : Document} {tag : Tag} {span : Span}
    {next : Placed} {passes : List RepairPass} (tags : document.tags = [tag])
    (covers : tag.span = some span)
    (repaired : repair rule ⟨tag, document.text⟩ = .ok { placed := next, clean := true, passes })
    (changed : span.of next.text ≠ span.of document.text) :
    document.repairs rule =
      .ok { text := next.text, scripts := [[⟨span, span.of next.text⟩]], fixed := 1 } := by
  simp [Document.repairs, tags, repairTags, repairTag, covers, repaired, changed, repairNotices]

/-- A dump whose document is fixed, and the dumps after it, over the files that the fix leaves. -/
theorem fixDumps_cons_of_ok {σ : Type} {storage : Storage σ} {rule : Rule} {backups : Bool}
    {files left : σ} {document : Document} {dump : String} {rest : List String}
    {notices : List Notice} {result : FixResult}
    (loaded : Document.load storage files dump = .ok document)
    (fixed : fixDocument storage files rule backups document =
      { files := left, notices, answer := .ok result }) :
    let others := fixDumps storage rule backups left rest
    fixDumps storage rule backups files (dump :: rest) =
      { files := others.files
        notices := notices ++ others.notices
        answer := others.answer.map (result :: ·) } := by
  intro others
  rw [fixDumps, loaded]
  dsimp only
  rw [fixed]

/-- A dump that tells of a bind in front of a plain attribute of the page. -/
def pageDump : Text :=
  ("\x7b\"source\":\"page.vue\",\"tags\":[\x7b\"name\":\"a\",\"attributes\":[" ++
    "\x7b\"directive\":true,\"name\":\"bind\",\"argument\":\"to\",\"range\":[3,10]," ++
    "\"keyRange\":[3,6]\x7d," ++
    "\x7b\"name\":\"id\",\"range\":[11,17],\"keyRange\":[11,13]\x7d]\x7d]\x7d").toList

/-- The bind of the page, with what the dump finds for it in a text. -/
def pageBind (text : Text) : Attribute where
  directive := true
  name := "bind"
  argument := some "to"
  range := ⟨3, 10⟩
  keyRange := ⟨3, 6⟩
  text := text.slice 3 10
  keyText := text.slice 3 6
  column := 3

/-- The plain attribute of the page, with what the dump finds for it in a text. -/
def pageId (text : Text) : Attribute where
  name := "id"
  range := ⟨11, 17⟩
  keyRange := ⟨11, 13⟩
  text := text.slice 11 17
  keyText := text.slice 11 13
  column := 11

/-- The tag of the page at a path, as the dump tells of it. -/
def pageTag (path : String) (text : Text) : Tag where
  name := "a"
  path := path
  attributes := [pageBind text, pageId text]

/-- The document of the page. -/
def pageDocument (path : String) (text : Text) : Document where
  path := path
  text := text
  tags := [pageTag path text]

/-- What the repair of the page makes of a text, step by step: its two attributes change places. -/
structure ReordersPage (path : String) (before after : Text) : Prop where
  found : ((Rule.check {} (pageTag path before)).toOption.bind fun violations =>
    violations.find? (·.fixable)).map (fun violation => (violation.node, violation.previous)) =
      some (pageId before, pageBind before)
  moves : block? (pageTag path before).attributes (pageId before) (pageBind before) =
    some ⟨0, 1, 1⟩
  clean : (Rule.check {} (Block.rotate ⟨0, 1, 1⟩ ⟨pageTag path before, before⟩).tag).toOption =
    some []
  length : 17 ≤ before.length
  spliced : Script.splice before 0 (Block.script ⟨0, 1, 1⟩ (pageTag path before).attributes) = after
  changed : after.slice 3 17 ≠ before.slice 3 17
  applied : (Script.merge [[⟨⟨3, 17⟩, after.slice 3 17⟩]]).apply before = after

namespace ReordersPage

instance decidable (path : String) (before after : Text) :
    Decidable (ReordersPage path before after) :=
  decidable_of_iff
    ((((Rule.check {} (pageTag path before)).toOption.bind fun violations =>
        violations.find? (·.fixable)).map (fun violation => (violation.node, violation.previous)) =
          some (pageId before, pageBind before) ∧
      block? (pageTag path before).attributes (pageId before) (pageBind before) =
        some ⟨0, 1, 1⟩ ∧
      (Rule.check {} (Block.rotate ⟨0, 1, 1⟩ ⟨pageTag path before, before⟩).tag).toOption =
        some []) ∧
      17 ≤ before.length ∧
      Script.splice before 0 (Block.script ⟨0, 1, 1⟩ (pageTag path before).attributes) = after ∧
      after.slice 3 17 ≠ before.slice 3 17 ∧
      (Script.merge [[⟨⟨3, 17⟩, after.slice 3 17⟩]]).apply before = after)
    ⟨fun ⟨⟨found, moves, clean⟩, length, spliced, changed, applied⟩ =>
        ⟨found, moves, clean, length, spliced, changed, applied⟩,
      fun reorders => ⟨⟨reorders.found, reorders.moves, reorders.clean⟩, reorders.length,
        reorders.spliced, reorders.changed, reorders.applied⟩⟩

variable {path : String} {before after : Text}

theorem repaired (reorders : ReordersPage path before after) :
    ∃ passes, repair {} ⟨pageTag path before, before⟩ =
      .ok { placed := Block.rotate ⟨0, 1, 1⟩ ⟨pageTag path before, before⟩, clean := true
            passes } :=
  repair_of_rotate reorders.found reorders.moves (eq_ok_of_toOption reorders.clean) (by decide)

theorem text (reorders : ReordersPage path before after) :
    (Block.rotate ⟨0, 1, 1⟩ ⟨pageTag path before, before⟩).text = after := by
  have length := reorders.length
  have ascending : Script.Ascending before 0
      [⟨⟨3, 10⟩, before.slice 11 17⟩, ⟨⟨11, 17⟩, before.slice 3 10⟩] := by
    simp [Script.Ascending]
    omega
  exact (Script.apply_eq_splice (.refl _) ascending).trans reorders.spliced

theorem differs (reorders : ReordersPage path before after) : after ≠ before :=
  fun same => reorders.changed (by rw [same])

theorem repairs (reorders : ReordersPage path before after) :
    (pageDocument path before).repairs {} =
      .ok { text := after, scripts := [[⟨⟨3, 17⟩, after.slice 3 17⟩]], fixed := 1 } := by
  obtain ⟨passes, repaired⟩ := reorders.repaired
  have covers : (pageTag path before).span = some ⟨3, 17⟩ := rfl
  have changed : (Span.mk 3 17).of
      (Block.rotate ⟨0, 1, 1⟩ ⟨pageTag path before, before⟩).text ≠
        (Span.mk 3 17).of (pageDocument path before).text := by
    rw [reorders.text]
    exact reorders.changed
  have tags : (pageDocument path before).tags = [pageTag path before] := rfl
  have whole := repairs_of_clean tags covers repaired changed
  rw [reorders.text] at whole
  exact whole

section Storage

variable {σ : Type} {storage : Storage σ} {files kept left : σ} {backups : Bool}

/-- The page fixed in a storage that holds it and lets it be written. -/
theorem fixDocument (reorders : ReordersPage path before after)
    (copied : keepBackup storage files backups path = .ok kept)
    (reads : storage.reread kept path = .ok before)
    (writes : storage.write kept path after = .ok left) :
    fixDocument storage files {} backups (pageDocument path before) =
      { files := left
        notices := [reorderedNotice path 1]
        answer := .ok { path, modified := true, fixedTags := 1 } } :=
  fixDocument_of_applied reorders.repairs (List.cons_ne_nil _ _) copied
    (applyScripts_of_written reads reorders.applied reorders.differs writes)

/-- The page fixed in a storage whose file system refuses to have it written. -/
theorem fixDocument_refused {error : FileError} (reorders : ReordersPage path before after)
    (copied : keepBackup storage files backups path = .ok kept)
    (reads : storage.reread kept path = .ok before)
    (refused : storage.write kept path after = .error error) (system : error.isSystem = true) :
    TagOrder.fixDocument storage files {} backups (pageDocument path before) =
      { files := kept
        notices := [troubleNotice "write" path error]
        answer := .ok { path, modified := false, fixedTags := 1 } } :=
  fixDocument_of_applied reorders.repairs (List.cons_ne_nil _ _) copied
    (applyScripts_of_refused reads reorders.applied reorders.differs refused system)

end Storage

end ReordersPage

/-- The page out of order, as a fix leaves it, and as a second fix over the same dump does. -/
def strayPage : Text := "<a :to=\"x\" id=\"y\">".toList

def fixedPage : Text := "<a id=\"y\" :to=\"x\">".toList

def brokenPage : Text := "<a to=\"x\":id=\"y\" >".toList

/-- A dump that tells of a single attribute. -/
def tidyDump : Text :=
  ("\x7b\"source\":\"tidy.vue\",\"tags\":[\x7b\"name\":\"b\",\"attributes\":[" ++
    "\x7b\"name\":\"id\",\"range\":[3,9],\"keyRange\":[3,5]\x7d]\x7d]\x7d").toList

/-- A project: the page and a document in order with their dumps, after some actions. -/
def projectOf (page : Text) (done : List ShelfAction) : Shelf where
  texts :=
    [("page.vue", page), ("page.vue.attrs.json", pageDump), ("tidy.vue", "<b id=\"z\">".toList),
      ("tidy.vue.attrs.json", tidyDump)]
  done := done

/-- The dumps of the project. -/
def projectDumps : List String := ["page.vue.attrs.json", "tidy.vue.attrs.json"]

/-- The document in order. -/
def tidyDocument : Document where
  path := "tidy.vue"
  text := "<b id=\"z\">".toList
  tags :=
    [{ name := "b", path := "tidy.vue"
       attributes :=
        [{ name := "id", range := ⟨3, 9⟩, keyRange := ⟨3, 5⟩
           text := "id=\"z\"".toList, keyText := "id".toList, column := 3 }] }]

theorem tidyDocument_passes : tidyDocument.Passes {} := by
  intro tag member
  rw [List.mem_singleton.mp member, Rule.check_eq_nil_iff]
  decide +kernel

/-- It is the document of its dump whatever the page holds. -/
theorem load_tidy (page : Text) (done : List ShelfAction) :
    Document.load Shelf.storage (projectOf page done) "tidy.vue.attrs.json" =
      .ok tidyDocument := by
  have alone : Document.load Shelf.storage (projectOf [] []) "tidy.vue.attrs.json" =
      .ok tidyDocument := by
    apply eq_ok_of_toOption
    decide +kernel
  have named : Document.source? Shelf.storage (projectOf [] []) "tidy.vue.attrs.json" =
      some "tidy.vue" := by decide +kernel
  rw [← alone]
  refine Document.load_congr rfl fun path other => ?_
  obtain rfl := Option.some.inj (named.symm.trans other)
  rfl

/-- What a run over the project makes of a text of its page. -/
structure ReordersProject (before after : Text) : Prop where
  loaded : (Document.load Shelf.storage (projectOf before []) "page.vue.attrs.json").toOption =
    some (pageDocument "page.vue" before)
  page : ReordersPage "page.vue" before after

namespace ReordersProject

instance decidable (before after : Text) : Decidable (ReordersProject before after) :=
  decidable_of_iff
    ((Document.load Shelf.storage (projectOf before []) "page.vue.attrs.json").toOption =
        some (pageDocument "page.vue" before) ∧ ReordersPage "page.vue" before after)
    ⟨fun both => ⟨both.1, both.2⟩, fun reorders => ⟨reorders.loaded, reorders.page⟩⟩

variable {before after : Text}

/-- The page has the document of its dump on every shelf that can be read and holds the project,
whatever was done to it before. -/
theorem load (reorders : ReordersProject before after) (shelf : Shelf)
    (texts : shelf.texts = (projectOf before []).texts) (readable : shelf.refusesRead = false) :
    Document.load Shelf.storage shelf "page.vue.attrs.json" =
      .ok (pageDocument "page.vue" before) := by
  have reads : ∀ path, Shelf.storage.read shelf path =
      Shelf.storage.read (projectOf before []) path := fun path => by
    change Shelf.read shelf path = Shelf.read (projectOf before []) path
    rw [Shelf.read, Shelf.read, texts, readable]
    rfl
  exact (Document.load_congr (reads _) fun path _ => reads path).trans
    (eq_ok_of_toOption reorders.loaded)

/-- The fix of the page rewrites it. -/
theorem fixDocument (reorders : ReordersProject before after) (done : List ShelfAction) :
    TagOrder.fixDocument Shelf.storage (projectOf before done) {} false
        (pageDocument "page.vue" before) =
      { files := projectOf after (done ++ [.written "page.vue"])
        notices := [reorderedNotice "page.vue" 1]
        answer := .ok { path := "page.vue", modified := true, fixedTags := 1 } } :=
  reorders.page.fixDocument rfl rfl rfl

/-- A run rewrites the page and leaves the document in order as it is. -/
theorem fixDumps (reorders : ReordersProject before after) (done : List ShelfAction) :
    TagOrder.fixDumps Shelf.storage {} false (projectOf before done) projectDumps =
      { files := projectOf after (done ++ [.written "page.vue"])
        notices := [reorderedNotice "page.vue" 1]
        answer := .ok
          [{ path := "page.vue", modified := true, fixedTags := 1 },
            { path := "tidy.vue", modified := false }] } := by
  have loaded := reorders.load (projectOf before done) rfl rfl
  rw [projectDumps, fixDumps_cons_of_ok loaded (reorders.fixDocument done),
    fixDumps_cons_of_ok (load_tidy _ _) (fixDocument_of_passes tidyDocument_passes)]
  rfl

theorem fixPaths (reorders : ReordersProject before after) (done : List ShelfAction) :
    let outcome := TagOrder.fixPaths Shelf.storage (projectOf before done) {} false projectDumps
    outcome.files = projectOf after (done ++ [.written "page.vue"]) ∧
      outcome.answer = .ok
        [{ path := "page.vue", modified := true, fixedTags := 1 },
          { path := "tidy.vue", modified := false }] := by
  have collected : collectDumps Shelf.storage (projectOf before done) projectDumps =
      .ok (projectDumps, []) := rfl
  simp only [TagOrder.fixPaths, collected, reorders.fixDumps, and_self]

end ReordersProject

theorem reordersProject_strayPage : ReordersProject strayPage fixedPage := by decide +kernel

theorem reordersProject_fixedPage : ReordersProject fixedPage brokenPage := by decide +kernel

/-- The sources that the dumps of the project name. -/
theorem mem_of_source {path : String} (named : ∃ dump ∈ projectDumps,
    Document.source? Shelf.storage (projectOf strayPage []) dump = some path) :
    path ∈ ["page.vue", "tidy.vue"] := by
  have page := (Document.of_load_eq_ok (eq_ok_of_toOption reordersProject_strayPage.loaded)).1
  have tidy := (Document.of_load_eq_ok (load_tidy strayPage [])).1
  obtain ⟨dump, member, source⟩ := named
  rcases List.mem_pair.mp member with rfl | rfl
  · rw [← Option.some.inj (page.symm.trans source)]
    decide
  · rw [← Option.some.inj (tidy.symm.trans source)]
    decide

/-- The dumps and the sources of the project are files of their own. -/
theorem projectOf_separates : Shelf.storage.Separates projectDumps fun path =>
    ∃ dump ∈ projectDumps,
      Document.source? Shelf.storage (projectOf strayPage []) dump = some path := by
  have distinct : ∀ dump ∈ projectDumps, dump ∉ ["page.vue", "tidy.vue"] := by decide
  have copies : ∀ path ∈ ["page.vue", "tidy.vue"],
      ∀ other ∈ projectDumps ++ ["page.vue", "tidy.vue"], other ≠ backupPath path := by decide
  refine Shelf.storage_separates (fun dump member source => ?_) fun path source other within => ?_
  · exact distinct dump member (mem_of_source source)
  · exact copies path (mem_of_source source) other
      (List.mem_append.mpr (within.imp_right mem_of_source))

end TagOrder
