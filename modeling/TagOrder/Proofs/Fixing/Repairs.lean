import TagOrder.Fixing
import TagOrder.Proofs.Edit.Copy
import TagOrder.Proofs.Repair.Mirror

/-!
# The repairs of a document

The tags of a document are repaired one after the other, each in the text that the repairs before it
left. Tags that cover nothing in common do not notice: each repair mirrors the one in the text of
the document, so after every step the text is that of the document with the tags so far as their
repairs on their own leave them (`repairTag_follows`). `repairTags_follows` carries this over all
tags, and `repairTags_fault` says that the first fault of a tag on its own is a fault in the
document, and what had been said by then.
-/

namespace TagOrder

/-- A text that differs from another in some tags at most, and there is what their repairs on their
own leave. -/
structure RepairedIn (original : Text) (alone : Tag -> Repair) (tags : List Tag) (text : Text) :
    Prop where
  same : Text.SameExcept (fun offset => ∃ tag ∈ tags, tag.Covers offset) original text
  spans : ∀ tag ∈ tags, ∀ span, tag.span = some span → span.of text = (alone tag).placed.spanText

/-- Whether the repair of a tag on its own changes what its attributes cover. -/
def changes (original : Text) (alone : Tag -> Repair) (tag : Tag) : Bool :=
  (alone tag).placed.spanText != Placed.spanText ⟨tag, original⟩

/-- The edit that replaces the span of a tag by what its repair on its own leaves there. -/
def spanEdit? (alone : Tag -> Repair) (tag : Tag) : Option Edit :=
  tag.span.map fun span => ⟨span, (alone tag).placed.spanText⟩

/-- The edits of the tags that change. -/
def changedEdits (original : Text) (alone : Tag -> Repair) (tags : List Tag) : Script :=
  (tags.filter (changes original alone)).filterMap (spanEdit? alone)

/-- Progress over some tags that is what their repairs on their own make of them. -/
structure Progress.Follows (path : String) (original : Text) (alone : Tag -> Repair)
    (tags : List Tag) (progress : Progress) : Prop where
  repaired : RepairedIn original alone tags progress.text
  scripts : progress.scripts = (changedEdits original alone tags).map fun edit => [edit]
  fixed : progress.fixed = tags.countP (changes original alone)
  unresolved : progress.unresolved = tags.countP fun tag => !(alone tag).clean
  notices : progress.notices = tags.flatMap fun tag => repairNotices path tag (alone tag)

/-- Tags that cover nothing in common. -/
def Tag.Apart (left right : Tag) : Prop := ∀ offset, left.Covers offset → ¬ right.Covers offset

variable {rule : Rule} {path : String} {original : Text} {alone : Tag -> Repair} {tags : List Tag}
  {tag : Tag}

/-- One more tag that is as its repair on its own leaves it. -/
theorem RepairedIn.extend {text next : Text} (repaired : RepairedIn original alone tags text)
    (laid : ∀ other ∈ tags, Laid original 0 other.attributes)
    (apart : ∀ other ∈ tags, tag.Apart other) (same : Text.SameExcept tag.Covers text next)
    (span : ∀ span, tag.span = some span → span.of next = (alone tag).placed.spanText) :
    RepairedIn original alone (tags ++ [tag]) next where
  same := by
    refine (repaired.same.widen ?_).trans (same.widen ?_)
    · rintro offset ⟨other, member, inside⟩
      exact ⟨other, List.mem_append_left _ member, inside⟩
    · exact fun offset inside => ⟨tag, List.mem_append_right _ (List.mem_singleton_self _), inside⟩
  spans := by
    intro other member here covers
    rcases List.mem_append.mp member with earlier | last
    · have bounds := (laid other earlier).span_bounds covers
      rw [← repaired.spans other earlier here covers]
      refine same.slice_eq bounds.1 (Int.le_of_lt bounds.2.1) fun offset above below inside => ?_
      exact apart other earlier offset inside ⟨here, covers, above, below⟩
    · obtain rfl := List.mem_singleton.mp last
      exact span here covers

/-- A tag apart from the tags that were repaired mirrors itself in the text so far. -/
theorem RepairedIn.mirrors {text : Text} (repaired : RepairedIn original alone tags text)
    (laid : Laid original 0 tag.attributes) (apart : ∀ other ∈ tags, tag.Apart other) :
    (Placed.mk tag original).Mirrors ⟨tag, text⟩ := by
  refine .of_agree laid repaired.same.length fun offset inside => ?_
  refine repaired.same.elsewhere offset ?_
  rintro ⟨other, member, covered⟩
  exact apart other member offset inside covered

/-- A tag without attributes is clean. -/
theorem repair_of_attributes_nil (rule : Rule) (placed : Placed)
    (none : placed.tag.attributes = []) :
    repair rule placed = .ok { placed, clean := true, passes := [] } := by
  refine repairFrom_clean (Rule.check_eq_nil_iff.mpr ?_)
  rw [none]
  rfl

theorem changedEdits_append (left right : List Tag) :
    changedEdits original alone (left ++ right) =
      changedEdits original alone left ++ changedEdits original alone right := by
  rw [changedEdits, List.filter_append, List.filterMap_append]
  rfl

/-- The repair of one more tag. -/
theorem repairTag_follows {progress : Progress}
    (follows : progress.Follows path original alone tags)
    (laid : ∀ other ∈ tags, Laid original 0 other.attributes)
    (tagLaid : Laid original 0 tag.attributes) (apart : ∀ other ∈ tags, tag.Apart other)
    (repaired : repair rule ⟨tag, original⟩ = .ok (alone tag)) :
    ∃ next, repairTag rule path progress tag = .ok next ∧
      next.Follows path original alone (tags ++ [tag]) := by
  obtain ⟨textRepaired, scripts, fixed, unresolved, notices⟩ := follows
  unfold repairTag
  cases covers : tag.span with
  | none =>
    have clean := repair_of_attributes_nil rule ⟨tag, original⟩
      (Tag.span_eq_none_iff.mp covers)
    have same := Except.ok.inj (repaired.symm.trans clean)
    have stays : changes original alone tag = false := by simp [changes, same]
    refine ⟨progress, rfl, ?_, ?_, ?_, ?_, ?_⟩
    · exact textRepaired.extend laid apart (.refl _ _) fun span found => by
        rw [covers] at found
        cases found
    · rw [scripts, changedEdits_append]
      simp [changedEdits, stays]
    · simp [fixed, stays]
    · simp [unresolved, same]
    · simp [notices, same, repairNotices]
  | some span =>
    have mirrors := textRepaired.mirrors tagLaid apart
    obtain ⟨answer, answered, clean, cycled, ends⟩ := repair_mirrored mirrors repaired
    have kept := Placed.Kept.repair mirrors.otherLaid answered
    have after : span.of answer.placed.text = (alone tag).placed.spanText := by
      rw [← ends.spanText, Placed.spanText_of_span _ (kept.span.trans covers)]
    have before : span.of progress.text = Placed.spanText ⟨tag, original⟩ := by
      rw [← mirrors.spanText, Placed.spanText_of_span ⟨tag, progress.text⟩ covers]
    have extended := textRepaired.extend laid apart kept.text fun here found => by
      obtain rfl := Option.some.inj (covers.symm.trans found)
      exact after
    have differs : ((alone tag).placed.spanText != Placed.spanText ⟨tag, original⟩) =
        changes original alone tag := rfl
    rw [answered]
    dsimp only
    rw [after, before, differs]
    refine ⟨_, rfl, extended, ?_, ?_, ?_, ?_⟩ <;> dsimp only
    · rw [changedEdits_append, List.map_append, ← scripts]
      cases changed : changes original alone tag <;>
        simp [changedEdits, changed, spanEdit?, covers]
    · rw [List.countP_append, ← fixed]
      cases changed : changes original alone tag <;> simp [changed]
    · rw [List.countP_append, ← unresolved, clean]
      cases ended : (alone tag).clean <;> simp [ended]
    · rw [List.flatMap_append, ← notices, List.flatMap_singleton]
      simp only [repairNotices, clean, cycled]

/-- The repairs of more tags. -/
theorem repairTags_follows {rest : List Tag} {progress : Progress}
    (follows : progress.Follows path original alone tags)
    (laid : ∀ other ∈ tags ++ rest, Laid original 0 other.attributes)
    (apart : (tags ++ rest).Pairwise fun left right => right.Apart left)
    (repaired : ∀ other ∈ rest, repair rule ⟨other, original⟩ = .ok (alone other)) :
    ∃ final, repairTags rule path progress rest = .ok final ∧
      final.Follows path original alone (tags ++ rest) := by
  induction rest generalizing tags progress with
  | nil => exact ⟨progress, rfl, by rwa [List.append_nil]⟩
  | cons tag rest ih =>
    have before := (List.pairwise_append.mp apart).2.2
    obtain ⟨next, stepped, further⟩ := repairTag_follows follows
      (fun other member => laid other (List.mem_append_left _ member))
      (laid tag (List.mem_append_right _ List.mem_cons_self))
      (fun other member => before other member tag List.mem_cons_self)
      (repaired tag List.mem_cons_self)
    rw [List.append_cons] at laid apart ⊢
    obtain ⟨final, finished, whole⟩ := ih further laid apart fun other member =>
      repaired other (List.mem_cons_of_mem _ member)
    refine ⟨final, ?_, whole⟩
    rw [repairTags, stepped]
    exact finished

/-- Tags are repaired after others in the progress that these leave. -/
theorem repairTags_append {front rest : List Tag} {progress next : Progress}
    (finished : repairTags rule path progress front = .ok next) :
    repairTags rule path progress (front ++ rest) = repairTags rule path next rest := by
  induction front generalizing progress with
  | nil =>
    obtain rfl := Except.ok.inj finished
    rfl
  | cons tag front ih =>
    rw [repairTags] at finished
    rw [List.cons_append, repairTags]
    cases repaired : repairTag rule path progress tag with
    | error fault =>
      rw [repaired] at finished
      cases finished
    | ok between =>
      rw [repaired] at finished
      exact ih finished

/-- A tag whose repair on its own is at fault is so in the text so far. -/
theorem repairTag_fault {progress : Progress} {fault : TemplateFault}
    (follows : progress.Follows path original alone tags) (tagLaid : Laid original 0 tag.attributes)
    (apart : ∀ other ∈ tags, tag.Apart other)
    (faulty : repair rule ⟨tag, original⟩ = .error fault) :
    repairTag rule path progress tag = .error fault := by
  unfold repairTag
  cases covers : tag.span with
  | none =>
    rw [repair_of_attributes_nil rule ⟨tag, original⟩
      (Tag.span_eq_none_iff.mp covers)] at faulty
    cases faulty
  | some span =>
    dsimp only
    rw [repair_mirrored_fault (follows.repaired.mirrors tagLaid apart) faulty]

/-- The first of some tags whose repair on its own is at fault. -/
theorem exists_first_fault {rest : List Tag}
    (faulty : ∃ other ∈ rest, ∃ fault, repair rule ⟨other, original⟩ = .error fault) :
    ∃ before tag behind fault, rest = before ++ tag :: behind ∧
      (∀ other ∈ before, ∃ result, repair rule ⟨other, original⟩ = .ok result) ∧
      repair rule ⟨tag, original⟩ = .error fault := by
  induction rest with
  | nil =>
    obtain ⟨other, member, -⟩ := faulty
    cases member
  | cons tag rest ih =>
    cases repaired : repair rule ⟨tag, original⟩ with
    | error fault => exact ⟨[], tag, rest, fault, rfl, by simp, repaired⟩
    | ok result =>
      obtain ⟨before, first, behind, fault, rfl, sound, failed⟩ := ih (by
        obtain ⟨other, member, fault, failed⟩ := faulty
        rcases List.mem_cons.mp member with rfl | later
        · rw [repaired] at failed
          cases failed
        · exact ⟨other, later, fault, failed⟩)
      exact ⟨tag :: before, first, behind, fault, rfl,
        List.forall_mem_cons.mpr ⟨⟨result, repaired⟩, sound⟩, failed⟩

/-- The first tag whose repair on its own is at fault ends the repairs of a document, when those of
the tags in front of it have been told of. -/
theorem repairTags_fault {before behind : List Tag} {progress : Progress} {fault : TemplateFault}
    (follows : progress.Follows path original alone [])
    (laid : ∀ other ∈ before ++ tag :: behind, Laid original 0 other.attributes)
    (apart : (before ++ tag :: behind).Pairwise fun left right => right.Apart left)
    (repaired : ∀ other ∈ before, repair rule ⟨other, original⟩ = .ok (alone other))
    (faulty : repair rule ⟨tag, original⟩ = .error fault) :
    repairTags rule path progress (before ++ tag :: behind) = .error
      { fault, notices := before.flatMap fun other => repairNotices path other (alone other) } := by
  obtain ⟨apartBefore, -, across⟩ := List.pairwise_append.mp apart
  obtain ⟨next, finished, further⟩ := repairTags_follows follows
    (fun other member => laid other (List.mem_append_left _ member)) apartBefore repaired
  rw [List.nil_append] at further
  have failed := repairTag_fault further (laid tag (List.mem_append_right _ List.mem_cons_self))
    (fun other member => across other member tag List.mem_cons_self) faulty
  rw [repairTags_append finished, repairTags, failed, further.notices]

/-- The repair of a tag on its own, where it comes to its end. -/
def repairAlone (rule : Rule) (text : Text) (tag : Tag) : Repair :=
  (repair rule ⟨tag, text⟩).toOption.getD
    { placed := ⟨tag, text⟩, clean := false, passes := [] }

theorem repair_eq_repairAlone {text : Text}
    (ends : ∃ result, repair rule ⟨tag, text⟩ = .ok result) :
    repair rule ⟨tag, text⟩ = .ok (repairAlone rule text tag) := by
  obtain ⟨result, repaired⟩ := ends
  rw [repairAlone, repaired]
  rfl

/-- Nothing is repaired at first. -/
theorem Progress.follows_nil (path : String) (original : Text) (alone : Tag -> Repair) :
    Progress.Follows path original alone [] { text := original } where
  repaired := ⟨.refl _ _, fun _ member => by cases member⟩
  scripts := rfl
  fixed := rfl
  unresolved := rfl
  notices := rfl

end TagOrder
