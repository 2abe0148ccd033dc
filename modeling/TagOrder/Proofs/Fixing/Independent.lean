import TagOrder.Proofs.Edit.Merge
import TagOrder.Proofs.Fixing.Repairs
import TagOrder.Proofs.Fixing.Write
import TagOrder.Proofs.Storage.Law

/-!
# Tags are fixed independently

The edits of a document copy from the text that its repairs end in, and that text differs from the
document in their ranges at most; so the file receives exactly this text, whatever way the edits are
put together (`writeRepairs_follows`). The text is the only one with every tag as its repair on its
own leaves it (`RepairedIn.unique`), so it does not depend on the order of the tags
(`fixDocument_repaired`).
-/

namespace TagOrder

/-- Every tag of a document is laid out in its text, and no two tags overlap. -/
structure Document.Sound (document : Document) : Prop where
  laid : ∀ tag ∈ document.tags, Laid document.text 0 tag.attributes
  apart : (document.tags.filterMap Tag.span).Pairwise fun left right =>
    left.overlaps right = false

instance Document.Sound.decidable (document : Document) : Decidable document.Sound :=
  decidable_of_iff ((∀ tag ∈ document.tags, Laid document.text 0 tag.attributes) ∧
      (document.tags.filterMap Tag.span).Pairwise fun left right => left.overlaps right = false)
    ⟨fun both => ⟨both.1, both.2⟩, fun sound => ⟨sound.laid, sound.apart⟩⟩

/-- Spans that share an offset overlap. -/
theorem Span.overlaps_of_covers {left right : Span} {offset : Nat} (inside : left.Covers offset)
    (other : right.Covers offset) : left.overlaps right = true := by
  obtain ⟨above, below⟩ := inside
  obtain ⟨otherAbove, otherBelow⟩ := other
  unfold Span.overlaps
  rw [Bool.and_eq_true, decide_eq_true_iff, decide_eq_true_iff]
  omega

namespace Document.Sound

variable {document : Document}

/-- The order of the tags does not matter. -/
theorem perm (sound : document.Sound) {order : List Tag} (same : order.Perm document.tags) :
    Document.Sound { document with tags := order } where
  laid := fun tag member => sound.laid tag (same.subset member)
  apart := by
    refine ((same.filterMap Tag.span).pairwise_iff fun {left right} clear => ?_).mpr sound.apart
    rwa [Span.overlaps_comm]

/-- Tags that do not overlap cover nothing in common. -/
theorem tags_apart (sound : document.Sound) :
    document.tags.Pairwise fun left right => right.Apart left := by
  refine (List.pairwise_filterMap.mp sound.apart).imp fun clear => ?_
  rintro offset ⟨span, covers, inside⟩ ⟨other, otherCovers, otherInside⟩
  have free := clear other otherCovers span covers
  rw [Span.overlaps_of_covers otherInside inside] at free
  cases free

end Document.Sound

namespace RepairedIn

variable {original left right text : Text} {alone : Tag -> Repair} {tags : List Tag}

/-- There is one such text. -/
theorem unique (first : RepairedIn original alone tags left)
    (second : RepairedIn original alone tags right)
    (laid : ∀ tag ∈ tags, Laid original 0 tag.attributes) : left = right := by
  apply List.ext_getElem?
  intro offset
  by_cases covered : ∃ tag ∈ tags, tag.Covers offset
  · obtain ⟨tag, member, span, covers, above, below⟩ := covered
    have bounds := (laid tag member).span_bounds covers
    refine Text.getElem?_of_slice_eq bounds.1 ?_ above below
    exact (first.spans tag member span covers).trans (second.spans tag member span covers).symm
  · rw [first.same.elsewhere offset covered, second.same.elsewhere offset covered]

/-- The order of the tags does not matter. -/
theorem perm (repaired : RepairedIn original alone tags text) {order : List Tag}
    (same : order.Perm tags) : RepairedIn original alone order text where
  same := repaired.same.widen fun _ ⟨tag, member, inside⟩ =>
    ⟨tag, same.symm.subset member, inside⟩
  spans := fun tag member => repaired.spans tag (same.subset member)

/-- The text differs from the original in the ranges of the edits at most. -/
theorem sameExcept_changedEdits (repaired : RepairedIn original alone tags text)
    (laid : ∀ tag ∈ tags, Laid original 0 tag.attributes) :
    Text.SameExcept (changedEdits original alone tags).Covers original text where
  length := repaired.same.length
  elsewhere := by
    intro offset clear
    by_cases covered : ∃ tag ∈ tags, tag.Covers offset
    · obtain ⟨tag, member, span, covers, inside⟩ := covered
      have bounds := (laid tag member).span_bounds covers
      refine Text.getElem?_of_slice_eq bounds.1 ?_ inside.1 inside.2
      refine (repaired.spans tag member span covers).trans ?_
      -- A tag that changes has an edit over the offset.
      by_contra different
      refine clear ⟨⟨span, (alone tag).placed.spanText⟩, ?_, inside⟩
      refine List.mem_filterMap.mpr ⟨tag, List.mem_filter.mpr ⟨member, ?_⟩, ?_⟩
      · rw [changes, bne_iff_ne, Placed.spanText_of_span ⟨tag, original⟩ covers]
        exact different
      · rw [spanEdit?, covers]
        rfl
    · exact repaired.same.elsewhere offset covered

/-- The edits copy from the text. -/
theorem changedEdits_copies (repaired : RepairedIn original alone tags text)
    (laid : ∀ tag ∈ tags, Laid original 0 tag.attributes) :
    ∀ edit ∈ changedEdits original alone tags, edit.Copies text := by
  intro edit member
  obtain ⟨tag, changed, made⟩ := List.mem_filterMap.mp member
  obtain ⟨span, covers, rfl⟩ := Option.map_eq_some_iff.mp made
  have inTags := (List.mem_filter.mp changed).1
  have bounds := (laid tag inTags).span_bounds covers
  have length := repaired.same.length
  refine ⟨bounds.1, Int.le_of_lt bounds.2.1, ?_, (repaired.spans tag inTags span covers).symm⟩
  dsimp only
  omega

/-- The text holds no character that the original does not hold. -/
theorem mem_original (repaired : RepairedIn original alone tags text)
    (laid : ∀ tag ∈ tags, Laid original 0 tag.attributes) {rule : Rule}
    (results : ∀ tag ∈ tags, repair rule ⟨tag, original⟩ = .ok (alone tag)) :
    ∀ c ∈ text, c ∈ original := by
  intro c member
  obtain ⟨offset, stands⟩ := List.mem_iff_getElem?.mp member
  by_cases covered : ∃ tag ∈ tags, tag.Covers offset
  · obtain ⟨tag, inTags, span, covers, above, below⟩ := covered
    have tagLaid := laid tag inTags
    have bounds := tagLaid.span_bounds covers
    have kept : Placed.Kept ⟨tag, original⟩ (alone tag).placed :=
      .repair tagLaid (results tag inTags)
    have inSpan : c ∈ span.of text := by
      refine List.mem_of_getElem? (i := offset - span.start.toNat) ?_
      rw [Span.of, Text.getElem?_slice text bounds.1 (Int.le_of_lt bounds.2.1), if_pos (by omega),
        Nat.add_sub_cancel' (by omega), stands]
    rw [repaired.spans tag inTags span covers] at inSpan
    have inOriginal := (kept.spanText_perm tagLaid).subset inSpan
    rw [Placed.spanText_of_span ⟨tag, original⟩ covers, Span.of,
      Text.slice_eq_drop_take _ bounds.1 (Int.le_of_lt bounds.2.1)] at inOriginal
    exact List.mem_of_mem_take (List.mem_of_mem_drop inOriginal)
  · rw [repaired.same.elsewhere offset covered] at stands
    exact List.mem_of_getElem? stands

/-- There is an edit for each tag that changes. -/
theorem length_changedEdits {rule : Rule}
    (results : ∀ tag ∈ tags, repair rule ⟨tag, original⟩ = .ok (alone tag)) :
    (changedEdits original alone tags).length = tags.countP (changes original alone) := by
  rw [List.countP_eq_length_filter, changedEdits, List.filterMap_length_eq_length]
  intro tag member
  obtain ⟨inTags, changed⟩ := List.mem_filter.mp member
  rw [spanEdit?, Option.isSome_map, Option.isSome_iff_ne_none]
  intro none
  have stays := repair_of_attributes_nil rule ⟨tag, original⟩
    (Tag.span_eq_none_iff.mp none)
  have same := Except.ok.inj ((results tag inTags).symm.trans stays)
  simp [changes, same] at changed

/-- The text is another one exactly when a tag changes. -/
theorem ne_original_iff (repaired : RepairedIn original alone tags text)
    (laid : ∀ tag ∈ tags, Laid original 0 tag.attributes) {rule : Rule}
    (results : ∀ tag ∈ tags, repair rule ⟨tag, original⟩ = .ok (alone tag)) :
    text ≠ original ↔ 0 < tags.countP (changes original alone) := by
  constructor
  · intro different
    by_contra none
    have length := length_changedEdits results
    have empty := List.eq_nil_of_length_eq_zero (length.trans (by omega))
    apply different
    apply List.ext_getElem?
    intro offset
    refine (repaired.sameExcept_changedEdits laid).elsewhere offset ?_
    rintro ⟨edit, member, -⟩
    rw [empty] at member
    cases member
  · intro some same
    obtain ⟨tag, inTags, changed⟩ := List.countP_pos_iff.mp some
    rw [changes, bne_iff_ne] at changed
    cases covers : tag.span with
    | none =>
      have stays := repair_of_attributes_nil rule ⟨tag, original⟩
        (Tag.span_eq_none_iff.mp covers)
      exact changed (by rw [Except.ok.inj ((results tag inTags).symm.trans stays)])
    | some span =>
      apply changed
      rw [← repaired.spans tag inTags span covers, same,
        Placed.spanText_of_span ⟨tag, original⟩ covers]

end RepairedIn

/-- The edits of a document whose tags do not overlap are put together into the text that the
repairs end in. -/
theorem merge_changedEdits {document : Document} {alone : Tag -> Repair} {text : Text}
    (sound : document.Sound) (repaired : RepairedIn document.text alone document.tags text) :
    (Script.merge ((changedEdits document.text alone document.tags).map fun edit => [edit])).apply
      document.text = text := by
  have ranges : ((changedEdits document.text alone document.tags).map (·.range)).Sublist
      (document.tags.filterMap Tag.span) := by
    have made : (changedEdits document.text alone document.tags).map (·.range) =
        (document.tags.filter (changes document.text alone)).filterMap Tag.span := by
      rw [changedEdits, List.map_filterMap]
      congr 1
      funext tag
      cases covers : tag.span <;> simp [spanEdit?, covers]
    rw [made]
    exact List.filter_sublist.filterMap _
  have apart := List.pairwise_map.mp (sound.apart.sublist ranges)
  rw [Script.merge_singletons (apart.imp fun clear => by rwa [Span.overlaps_comm])]
  exact Script.apply_eq_of_copies (repaired.changedEdits_copies sound.laid)
    (repaired.sameExcept_changedEdits sound.laid)

/-- The file of a document receives the text that the repairs end in, and the answer tells what was
done. -/
theorem writeRepairs_follows {σ : Type} {storage : Storage σ} {allowed : Char -> Prop} {files : σ}
    {backups : Bool} {document : Document} {rule : Rule} {alone : Tag -> Repair}
    {progress : Progress} (lawful : storage.Lawful allowed) (sound : document.Sound)
    (holds : storage.read files document.path = .ok document.text)
    (serves : progress.text ≠ document.text →
      storage.Serves files backups document.path progress.text)
    (results : ∀ tag ∈ document.tags, repair rule ⟨tag, document.text⟩ = .ok (alone tag))
    (follows : progress.Follows document.path document.text alone document.tags) :
    let outcome := writeRepairs storage files backups document.path progress
    storage.read outcome.files document.path = .ok progress.text ∧
      outcome.answer = .ok
        { path := document.path
          modified := decide (progress.text ≠ document.text)
          fixedTags := document.tags.countP (changes document.text alone)
          unresolvedTags := document.tags.countP fun tag => !(alone tag).clean } := by
  obtain ⟨repaired, scripts, fixed, unresolved, -⟩ := follows
  have length := RepairedIn.length_changedEdits results
  have changed := repaired.ne_original_iff sound.laid results
  by_cases none : document.tags.countP (changes document.text alone) = 0
  · have same : progress.text = document.text := by
      by_contra different
      have some := changed.mp different
      omega
    have empty : progress.scripts = [] := by
      rw [← List.length_eq_zero_iff, scripts, List.length_map, length, none]
    rw [writeRepairs_of_nil empty]
    dsimp only
    rw [same, none, unresolved]
    exact ⟨holds, by simp⟩
  · have different := changed.mpr (by omega)
    have some : progress.scripts ≠ [] := by
      rw [← List.length_pos_iff, scripts, List.length_map, length]
      exact Nat.pos_of_ne_zero none
    obtain @⟨kept, held, after, copied, rereads, writes⟩ := serves different
    have source := (lawful.read_kept copied).trans holds
    obtain rfl := Except.ok.inj ((Storage.read_of_reread rereads).symm.trans source)
    have legal := fun c member => lawful.read_allowed holds c
      (repaired.mem_original sound.laid results c member)
    have reads := lawful.read_write source writes legal
    have merged : (Script.merge progress.scripts).apply document.text = progress.text := by
      rw [scripts]
      exact merge_changedEdits sound repaired
    rw [writeRepairs_of_applied some copied
      (applyScripts_of_written rereads merged different writes)]
    dsimp only
    rw [fixed, unresolved]
    exact ⟨reads, by simp [different]⟩

/-- The repairs of a sound document are those of its tags on their own. -/
theorem Document.Sound.exists_alone {document : Document} {rule : Rule} {progress : Progress}
    (sound : document.Sound) (finished : document.repairs rule = .ok progress) :
    ∃ alone : Tag -> Repair,
      (∀ tag ∈ document.tags, repair rule ⟨tag, document.text⟩ = .ok (alone tag)) ∧
        progress.Follows document.path document.text alone document.tags := by
  have start := Progress.follows_nil document.path document.text (repairAlone rule document.text)
  by_cases faulty : ∃ tag ∈ document.tags, ∃ fault, repair rule ⟨tag, document.text⟩ = .error fault
  · obtain ⟨before, tag, behind, fault, split, repaired, faultyTag⟩ := exists_first_fault faulty
    rw [Document.repairs, split, repairTags_fault start (split ▸ sound.laid)
      (split ▸ sound.tags_apart) (fun other member => repair_eq_repairAlone (repaired other member))
      faultyTag] at finished
    cases finished
  · have results : ∀ tag ∈ document.tags, repair rule ⟨tag, document.text⟩ =
        .ok (repairAlone rule document.text tag) := by
      intro tag member
      refine repair_eq_repairAlone ?_
      cases repaired : repair rule ⟨tag, document.text⟩ with
      | error fault => exact absurd ⟨tag, member, fault, repaired⟩ faulty
      | ok result => exact ⟨result, rfl⟩
    obtain ⟨final, ended, follows⟩ := repairTags_follows start sound.laid sound.tags_apart results
    obtain rfl := Except.ok.inj (ended.symm.trans finished)
    exact ⟨_, results, follows⟩

/-- Tags are fixed independently and the file receives exactly the fixed text. With the repair of
each tag on its own given, the file ends with every tag as its repair leaves it and nothing else
changed, in whatever order the tags come; and if one of these repairs is at fault, the fix ends with
the fault of the first such tag: the files stay as they are, and what was said tells of the tags in
front of it. -/
theorem fixDocument_repaired {σ : Type} (storage : Storage σ) (allowed : Char -> Prop)
    (lawful : storage.Lawful allowed) (files : σ) (rule : Rule) (backups : Bool)
    (document : Document) (sound : document.Sound)
    (holds : storage.read files document.path = .ok document.text)
    (serves : ∀ progress, document.repairs rule = .ok progress → progress.text ≠ document.text →
      storage.Serves files backups document.path progress.text) :
    (∀ alone : Tag -> Repair,
      (∀ tag ∈ document.tags, repair rule ⟨tag, document.text⟩ = .ok (alone tag)) →
        ∃ text, RepairedIn document.text alone document.tags text ∧
          ∀ order : List Tag, order.Perm document.tags →
            let outcome := fixDocument storage files rule backups { document with tags := order }
            storage.read outcome.files document.path = .ok text ∧
              ∃ result, outcome.answer = .ok result ∧
                result.fixedTags = document.tags.countP (changes document.text alone) ∧
                result.unresolvedTags = document.tags.countP (fun tag => !(alone tag).clean) ∧
                (result.modified = true ↔ text ≠ document.text) ∧
                (text ≠ document.text ↔ 0 < result.fixedTags)) ∧
      ((∃ tag ∈ document.tags, ∃ fault, repair rule ⟨tag, document.text⟩ = .error fault) →
        ∃ before tag behind, ∃ alone : Tag -> Repair, ∃ fault,
          document.tags = before ++ tag :: behind ∧
          (∀ other ∈ before, repair rule ⟨other, document.text⟩ = .ok (alone other)) ∧
          repair rule ⟨tag, document.text⟩ = .error fault ∧
          fixDocument storage files rule backups document =
            { files
              notices := before.flatMap fun other =>
                repairNotices document.path other (alone other)
              answer := .error (.template fault) }) := by
  -- What the repairs of the tags in some order come to.
  have finishes : ∀ alone : Tag -> Repair,
      (∀ tag ∈ document.tags, repair rule ⟨tag, document.text⟩ = .ok (alone tag)) →
        ∀ order : List Tag, order.Perm document.tags →
          ∃ final, Document.repairs rule { document with tags := order } = .ok final ∧
            final.Follows document.path document.text alone order := by
    intro alone results order same
    have ordered := sound.perm same
    exact repairTags_follows (Progress.follows_nil _ document.text alone) ordered.laid
      ordered.tags_apart fun tag member => results tag (same.subset member)
  refine ⟨fun alone results => ?_, fun faulty => ?_⟩
  · obtain ⟨final, whole, follows⟩ := finishes alone results document.tags (.refl _)
    refine ⟨final.text, follows.repaired, fun order same => ?_⟩
    obtain ⟨other, finished, otherFollows⟩ := finishes alone results order same
    have text : other.text = final.text :=
      (otherFollows.repaired.perm same.symm).unique follows.repaired sound.laid
    have served : other.text ≠ document.text →
        storage.Serves files backups document.path other.text := by
      rw [text]
      exact serves final whole
    obtain ⟨reads, answered⟩ := writeRepairs_follows lawful (sound.perm same) holds served
      (fun tag member => results tag (same.subset member)) otherFollows
    dsimp only at reads answered ⊢
    rw [fixDocument, finished]
    dsimp only
    rw [← text]
    refine ⟨reads, _, answered, same.countP_eq _, same.countP_eq _, by simp, ?_⟩
    exact otherFollows.repaired.ne_original_iff (sound.perm same).laid
      fun tag member => results tag (same.subset member)
  · obtain ⟨before, tag, behind, fault, split, repaired, faultyTag⟩ := exists_first_fault faulty
    have results : ∀ other ∈ before, repair rule ⟨other, document.text⟩ =
        .ok (repairAlone rule document.text other) :=
      fun other member => repair_eq_repairAlone (repaired other member)
    refine ⟨before, tag, behind, _, fault, split, results, faultyTag, ?_⟩
    rw [fixDocument, Document.repairs, split,
      repairTags_fault (Progress.follows_nil document.path document.text _)
        (split ▸ sound.laid) (split ▸ sound.tags_apart) results faultyTag]

/-- A document with two tags, the first of which is out of order. -/
def pairedSample : Document where
  path := "page.vue"
  text := "<a :to=\"x\" id=\"y\"><b id=\"z\">".toList
  tags :=
    [{ name := "a"
       attributes :=
         [{ directive := true, name := "bind", argument := some "to", range := ⟨3, 10⟩
            keyRange := ⟨3, 6⟩, text := ":to=\"x\"".toList, keyText := ":to".toList },
           { name := "id", range := ⟨11, 17⟩, keyRange := ⟨11, 13⟩
             text := "id=\"y\"".toList, keyText := "id".toList }] },
      { name := "b"
        attributes :=
          [{ name := "id", range := ⟨21, 27⟩, keyRange := ⟨21, 23⟩
             text := "id=\"z\"".toList, keyText := "id".toList }] }]

/-- A shelf with the document on it, fixed with the tags in either order. -/
theorem fixDocument_repaired_pairedSample :
    pairedSample.Sound ∧
      ∃ alone text, RepairedIn pairedSample.text alone pairedSample.tags text ∧
        ∀ order : List Tag, order.Perm pairedSample.tags →
          Shelf.storage.read (fixDocument Shelf.storage ⟨[("page.vue", pairedSample.text)],
            false, false, []⟩ {} true { pairedSample with tags := order }).files "page.vue" =
              .ok text := by
  have sound : pairedSample.Sound := by decide +kernel
  have finished : pairedSample.tags.all (fun tag =>
      (repair {} ⟨tag, pairedSample.text⟩).toOption.isSome) = true := by decide +kernel
  have results : ∀ tag ∈ pairedSample.tags,
      repair {} ⟨tag, pairedSample.text⟩ = .ok (repairAlone {} pairedSample.text tag) := by
    intro tag member
    have some := List.all_eq_true.mp finished tag member
    refine repair_eq_repairAlone ?_
    cases repaired : repair {} ⟨tag, pairedSample.text⟩ with
    | error fault => rw [repaired] at some; cases some
    | ok result => exact ⟨result, rfl⟩
  let shelf : Shelf := ⟨[("page.vue", pairedSample.text)], false, false, []⟩
  have reads : Shelf.storage.read shelf "page.vue" = .ok pairedSample.text := rfl
  obtain ⟨text, repaired, orders⟩ := (fixDocument_repaired Shelf.storage (fun _ => True)
    Shelf.storage_lawful shelf {} true pairedSample sound reads
    fun _ _ _ => Shelf.storage_serves reads rfl true _).1 _ results
  exact ⟨sound, _, text, repaired, fun order same => (orders order same).1⟩

end TagOrder
