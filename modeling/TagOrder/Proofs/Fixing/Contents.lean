import TagOrder.Proofs.Document.Format
import TagOrder.Proofs.Fixing.Frame

/-!
# What a fix leaves of the contents of a file

A fix puts the attributes of each tag in another order, so the file keeps its characters, and each
one around the tags keeps its place (`fixDocument_contents`). This rests on ranges that are not
empty and lie one after the other, as the ranges of attributes do; but a dump is taken whatever its
ranges are, as long as each lies inside the source, and where two of them overlap text is lost and
other text is there twice (`fixDocument_contents_lost`).
-/

namespace TagOrder

/-- Texts that differ in a span at most, which covers the same characters in both, hold the same
characters. -/
theorem Text.SameExcept.perm {left right : Text} {span : Span}
    (same : Text.SameExcept span.Covers left right) (positive : 0 ≤ span.start)
    (ordered : span.start ≤ span.stop) (inside : (span.of right).Perm (span.of left)) :
    right.Perm left := by
  have front : right.before span.start = left.before span.start := by
    rw [Text.before_eq_take _ positive, Text.before_eq_take _ positive]
    apply List.ext_getElem?
    intro offset
    rw [List.getElem?_take, List.getElem?_take]
    split
    · exact same.elsewhere offset fun covered => by have := covered.1; omega
    · rfl
  have back : right.after span.stop = left.after span.stop := by
    rw [Text.after_eq_drop _ (by omega), Text.after_eq_drop _ (by omega)]
    apply List.ext_getElem?
    intro offset
    rw [List.getElem?_drop, List.getElem?_drop]
    exact same.elsewhere _ fun covered => by have := covered.2; omega
  have whole : ∀ text : Text,
      text = text.before span.start ++ span.of text ++ text.after span.stop := fun text => by
    rw [Span.of, Text.before_append_slice text positive ordered, Text.before_append_after]
  rw [whole right, whole left, front, back]
  exact (inside.append_left _).append_right _

section Repaired

variable {rule : Rule} {original text : Text} {alone : Tag -> Repair} {tags : List Tag} {tag : Tag}

/-- A text with the span of one more tag as it was at first. -/
theorem RepairedIn.restore {span : Span} (repaired : RepairedIn original alone (tag :: tags) text)
    (laid : ∀ other ∈ tag :: tags, Laid original 0 other.attributes)
    (apart : ∀ other ∈ tags, other.Apart tag) (covers : tag.span = some span) :
    ∃ restored, RepairedIn original alone tags restored ∧
      Text.SameExcept span.Covers restored text ∧ span.of restored = span.of original := by
  have bounds := (laid tag List.mem_cons_self).span_bounds covers
  have length := repaired.same.length
  have fits : ((span.of original).length : Int) = span.stop - span.start :=
    original.length_slice bounds.1 (Int.le_of_lt bounds.2.1) bounds.2.2
  have front := text.length_before bounds.1 (by omega : span.start ≤ text.length)
  have changed := text.sameExcept_replace (span.of original) bounds.1
    (Int.le_of_lt bounds.2.1) (by omega) fits
  have inside : span.of (text.before span.start ++ span.of original ++ text.after span.stop) =
      span.of original := Text.slice_append_middle _ _ _ (by omega) (by omega)
  generalize text.before span.start ++ span.of original ++ text.after span.stop = restored
    at changed inside
  refine ⟨restored, ⟨⟨changed.length.trans length, ?_⟩, ?_⟩, ⟨changed.length.symm, ?_⟩, inside⟩
  · intro offset clear
    by_cases covered : span.Covers offset
    · exact Text.getElem?_of_slice_eq bounds.1 inside covered.1 covered.2
    · rw [changed.elsewhere offset covered]
      refine repaired.same.elsewhere offset ?_
      rintro ⟨other, member, here, otherCovers, within⟩
      rcases List.mem_cons.mp member with rfl | later
      · obtain rfl := Option.some.inj (covers.symm.trans otherCovers)
        exact covered within
      · exact clear ⟨other, later, here, otherCovers, within⟩
  · intro other member here otherCovers
    have otherBounds := (laid other (List.mem_cons_of_mem _ member)).span_bounds otherCovers
    rw [← repaired.spans other (List.mem_cons_of_mem _ member) here otherCovers]
    refine changed.slice_eq otherBounds.1 (Int.le_of_lt otherBounds.2.1)
      fun offset above below covered => ?_
    exact apart other member offset ⟨here, otherCovers, above, below⟩ ⟨span, covers, covered⟩
  · exact fun offset clear => (changed.elsewhere offset clear).symm

/-- Repaired tags hold the characters that they held at first. -/
theorem RepairedIn.text_perm (repaired : RepairedIn original alone tags text)
    (laid : ∀ tag ∈ tags, Laid original 0 tag.attributes)
    (apart : tags.Pairwise fun left right => right.Apart left)
    (results : ∀ tag ∈ tags, repair rule ⟨tag, original⟩ = .ok (alone tag)) :
    text.Perm original := by
  induction tags generalizing text with
  | nil =>
    have same : text = original := List.ext_getElem? fun offset =>
      repaired.same.elsewhere offset fun ⟨_, member, _⟩ => nomatch member
    rw [same]
  | cons tag rest ih =>
    obtain ⟨apartHere, apartRest⟩ := List.pairwise_cons.mp apart
    obtain ⟨tagLaid, laidRest⟩ := List.forall_mem_cons.mp laid
    obtain ⟨result, resultsRest⟩ := List.forall_mem_cons.mp results
    cases covers : tag.span with
    | none =>
      refine ih ⟨repaired.same.widen ?_, fun other member => ?_⟩ laidRest apartRest resultsRest
      · rintro offset ⟨other, member, here, otherCovers, inside⟩
        rcases List.mem_cons.mp member with rfl | later
        · rw [covers] at otherCovers
          cases otherCovers
        · exact ⟨other, later, here, otherCovers, inside⟩
      · exact repaired.spans other (List.mem_cons_of_mem _ member)
    | some span =>
      obtain ⟨restored, repairedRest, changed, inside⟩ := repaired.restore laid apartHere covers
      have bounds := tagLaid.span_bounds covers
      have kept : Placed.Kept ⟨tag, original⟩ (alone tag).placed := .repair tagLaid result
      have spans : (span.of text).Perm (span.of restored) := by
        rw [repaired.spans tag List.mem_cons_self span covers, inside,
          ← Placed.spanText_of_span ⟨tag, original⟩ covers]
        exact kept.spanText_perm tagLaid
      exact (changed.perm bounds.1 (Int.le_of_lt bounds.2.1) spans).trans
        (ih repairedRest laidRest apartRest resultsRest)

end Repaired

/-- The ranges of attributes as they stand in a source: not empty, one after the other in each tag,
and those of one tag apart from those of another. -/
structure Document.WellSpaced (document : Document) : Prop where
  filled : ∀ tag ∈ document.tags, ∀ node ∈ tag.attributes, node.range.start < node.range.stop
  ordered : ∀ tag ∈ document.tags,
    tag.attributes.Pairwise fun left right => left.range.stop ≤ right.range.start
  apart : (document.tags.filterMap Tag.span).Pairwise fun left right =>
    left.overlaps right = false

instance Document.WellSpaced.decidable (document : Document) : Decidable document.WellSpaced :=
  decidable_of_iff
    ((∀ tag ∈ document.tags, ∀ node ∈ tag.attributes, node.range.start < node.range.stop) ∧
      (∀ tag ∈ document.tags,
        tag.attributes.Pairwise fun left right => left.range.stop ≤ right.range.start) ∧
      (document.tags.filterMap Tag.span).Pairwise fun left right => left.overlaps right = false)
    ⟨fun ⟨filled, ordered, apart⟩ => ⟨filled, ordered, apart⟩,
      fun spaced => ⟨spaced.filled, spaced.ordered, spaced.apart⟩⟩

/-- Attributes that are read off a text are laid out in it where their ranges come in order. -/
theorem Laid.of_readsOff {source : Text} {floor : Int} {nodes : List Attribute}
    (reads : ∀ node ∈ nodes, node.ReadsOff source)
    (filled : ∀ node ∈ nodes, node.range.start < node.range.stop)
    (ordered : nodes.Pairwise fun left right => left.range.stop ≤ right.range.start)
    (above : ∀ node ∈ nodes, floor ≤ node.range.start) (bounded : floor ≤ source.length) :
    Laid source floor nodes := by
  induction nodes generalizing floor with
  | nil => exact bounded
  | cons node rest ih =>
    obtain ⟨readsHere, readsRest⟩ := List.forall_mem_cons.mp reads
    obtain ⟨filledHere, filledRest⟩ := List.forall_mem_cons.mp filled
    obtain ⟨before, orderedRest⟩ := List.pairwise_cons.mp ordered
    refine ⟨above node List.mem_cons_self, filledHere, readsHere.text, ?_⟩
    exact ih readsRest filledRest orderedRest before readsHere.stops

section Fix

variable {σ : Type} {storage : Storage σ} {allowed : Char -> Prop} {origin files after : σ}
  {rule : Rule} {backups : Bool} {dump : String} {document : Document}

/-- A document that is loaded and well spaced is sound. -/
theorem Document.WellSpaced.sound (spaced : document.WellSpaced)
    (loaded : Document.load storage origin dump = .ok document) : document.Sound where
  laid := by
    intro tag member
    have reads := Document.readsOff_of_load loaded tag member
    exact .of_readsOff reads (spaced.filled tag member) (spaced.ordered tag member)
      (fun node inTag => (reads node inTag).starts) (by omega)
  apart := spaced.apart

/-- However scripts are written, the file then holds what it held or what the scripts make of it. -/
theorem Written.reads {path : String} {scripts : List Script} {source : Text}
    {answer : Except Fault Bool}
    (written : Written storage files backups path scripts after answer)
    (lawful : storage.Lawful allowed) (holds : storage.read files path = .ok source)
    (legal : ∀ c ∈ (Script.merge scripts).apply source, allowed c) :
    storage.read after path = .ok source ∨
      storage.read after path = .ok ((Script.merge scripts).apply source) := by
  cases written with
  | nothing none => exact .inl holds
  | uncopied failed => exact .inl holds
  | unread copied failed => exact .inl ((lawful.read_kept copied).trans holds)
  | same copied reads same => exact .inl ((lawful.read_kept copied).trans holds)
  | refused copied reads failed => exact .inl ((lawful.read_kept copied).trans holds)
  | changed copied reads differs writes =>
    have held := (lawful.read_kept copied).trans holds
    obtain rfl := Except.ok.inj ((Storage.read_of_reread reads).symm.trans held)
    exact .inr (lawful.read_write held writes legal)

/-- A fix neither loses text nor has any twice. The dump is one that is taken, and its ranges are
not empty, come one after the other in each tag and do not overlap those of another tag; the file
holds the text that was loaded. Then, whatever becomes of the fix, the file holds the same
characters as before, and those that no tag covers are where they were. -/
theorem fixDocument_contents (lawful : storage.Lawful allowed)
    (loaded : Document.load storage origin dump = .ok document) (spaced : document.WellSpaced)
    (holds : storage.read files document.path = .ok document.text) :
    ∃ text, storage.read (fixDocument storage files rule backups document).files document.path =
        .ok text ∧
      text.Perm document.text ∧ Text.SameExcept document.Covers document.text text := by
  have sound := spaced.sound loaded
  unfold fixDocument
  cases finished : document.repairs rule with
  | error fault => exact ⟨document.text, holds, .refl _, .refl _ _⟩
  | ok progress =>
    obtain ⟨alone, results, follows⟩ := sound.exists_alone finished
    have repaired := follows.repaired
    have merged : (Script.merge progress.scripts).apply document.text = progress.text := by
      rw [follows.scripts]
      exact merge_changedEdits sound repaired
    have written := writeRepairs_written storage files backups document.path progress
    have reads := written.reads lawful holds fun c member => by
      rw [merged] at member
      exact lawful.read_allowed holds c (repaired.mem_original sound.laid results c member)
    rw [merged] at reads
    rcases reads with unchanged | changed
    · exact ⟨document.text, unchanged, .refl _, .refl _ _⟩
    · exact ⟨progress.text, changed, repaired.text_perm sound.laid sound.tags_apart results,
        repaired.same⟩

end Fix

/-- The document of the first source, whose ranges come one after the other. -/
theorem fixDocument_contents_pageDocument :
    ∃ text, Shelf.storage.read (fixDocument Shelf.storage (projectOf strayPage []) {} false
        (pageDocument "page.vue" strayPage)).files "page.vue" = .ok text ∧
      text.Perm strayPage ∧
      Text.SameExcept (pageDocument "page.vue" strayPage).Covers strayPage text := by
  have loaded : Document.load Shelf.storage (projectOf strayPage []) "page.vue.attrs.json" =
      .ok (pageDocument "page.vue" strayPage) := eq_ok_of_toOption reordersProject_strayPage.loaded
  have spaced : (pageDocument "page.vue" strayPage).WellSpaced := by decide +kernel
  exact fixDocument_contents Shelf.storage_lawful loaded spaced rfl

/-- A dump whose two ranges overlap: that of the bind ends behind the start of the other one. -/
def crossedDump : Text :=
  ("\x7b\"source\":\"page.vue\",\"tags\":[\x7b\"name\":\"a\",\"attributes\":[" ++
    "\x7b\"directive\":true,\"name\":\"bind\",\"argument\":\"to\",\"range\":[3,10]," ++
    "\"keyRange\":[3,6]\x7d," ++
    "\x7b\"name\":\"id\",\"range\":[8,17],\"keyRange\":[11,13]\x7d]\x7d]\x7d").toList

/-- The first source with the dump. -/
def crossedShelf : Shelf where
  texts := [("page.vue", strayPage), ("page.vue.attrs.json", crossedDump)]

/-- The plain attribute with what its range covers. -/
def crossedId : Attribute where
  name := "id"
  range := ⟨8, 17⟩
  keyRange := ⟨11, 13⟩
  text := "x\" id=\"y\"".toList
  keyText := "id".toList
  column := 8

/-- The tag that the dump tells of. -/
def crossedTag : Tag where
  name := "a"
  path := "page.vue"
  attributes := [pageBind strayPage, crossedId]

def crossedDocument : Document where
  path := "page.vue"
  text := strayPage
  tags := [crossedTag]

/-- The source as the fix leaves it. -/
def crossedPage : Text := "<a x\" id=\"y\"o=\"x\">".toList

/-- The two edits of the rotation disturb each other. -/
theorem text_crossedTag :
    (Block.rotate ⟨0, 1, 1⟩ ⟨crossedTag, strayPage⟩).text = crossedPage := by
  have script : Block.script ⟨0, 1, 1⟩ crossedTag.attributes =
      [⟨⟨3, 10⟩, "x\" id=\"y\"".toList⟩, ⟨⟨8, 17⟩, ":to=\"x\"".toList⟩] := by decide +kernel
  change Script.apply (Block.script ⟨0, 1, 1⟩ crossedTag.attributes) strayPage = _
  rw [script, Script.apply, Script.fromBack_of_perm (.refl _) (by simp)]
  decide +kernel

theorem repairs_crossedDocument :
    crossedDocument.repairs {} =
      .ok
        { text := crossedPage, scripts := [[⟨⟨3, 17⟩, crossedPage.slice 3 17⟩]], fixed := 1 } := by
  have found : ((Rule.check {} crossedTag).toOption.bind fun violations =>
      violations.find? (·.fixable)).map (fun violation => (violation.node, violation.previous)) =
        some (crossedId, pageBind strayPage) := by decide +kernel
  have moves : block? crossedTag.attributes crossedId (pageBind strayPage) = some ⟨0, 1, 1⟩ := by
    decide +kernel
  have clean : Rule.check {} (Block.rotate ⟨0, 1, 1⟩ ⟨crossedTag, strayPage⟩).tag = .ok [] :=
    eq_ok_of_toOption (by decide +kernel)
  have repaired : ∃ passes, repair {} ⟨crossedTag, strayPage⟩ =
      .ok { placed := Block.rotate ⟨0, 1, 1⟩ ⟨crossedTag, strayPage⟩, clean := true, passes } :=
    repair_of_rotate found moves clean (by decide)
  obtain ⟨passes, repaired⟩ := repaired
  have tags : crossedDocument.tags = [crossedTag] := rfl
  have covers : crossedTag.span = some ⟨3, 17⟩ := rfl
  have whole := repairs_of_clean tags covers repaired (by
    rw [text_crossedTag]
    decide)
  rw [text_crossedTag] at whole
  exact whole

/-- Where ranges overlap, a fix loses characters and writes others twice. -/
theorem fixDocument_contents_lost :
    Document.load Shelf.storage crossedShelf "page.vue.attrs.json" = .ok crossedDocument ∧
      Shelf.storage.read crossedShelf crossedDocument.path = .ok crossedDocument.text ∧
      Shelf.storage.read (fixDocument Shelf.storage crossedShelf {} false crossedDocument).files
        crossedDocument.path = .ok crossedPage ∧
      ¬ crossedPage.Perm crossedDocument.text := by
  refine ⟨eq_ok_of_toOption (by decide +kernel), rfl, ?_, fun same => ?_⟩
  · have merged : (Script.merge [[⟨⟨3, 17⟩, crossedPage.slice 3 17⟩]]).apply strayPage =
        crossedPage := by decide +kernel
    have reads : Shelf.storage.read crossedShelf "page.vue" = .ok strayPage := rfl
    obtain ⟨after, writes⟩ : ∃ after,
        Shelf.storage.write crossedShelf "page.vue" crossedPage = .ok after := ⟨_, rfl⟩
    have fixed := fixDocument_of_applied repairs_crossedDocument (List.cons_ne_nil _ _)
      (show keepBackup Shelf.storage crossedShelf false crossedDocument.path = _ from rfl)
      (applyScripts_of_written reads merged (by decide) writes)
    rw [fixed]
    exact Shelf.storage_lawful.read_write reads writes fun _ _ => trivial
  · have colons := same.count_eq ':'
    exact absurd colons (by decide)

end TagOrder
