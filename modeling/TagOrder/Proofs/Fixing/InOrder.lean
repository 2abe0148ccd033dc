import TagOrder.Proofs.Fixing.Agree
import TagOrder.Proofs.Fixing.Independent
import TagOrder.Proofs.Repair.Fewest

/-!
# Documents in order

A fix of a document whose tags all pass the check has nothing to do: it leaves the files exactly as
they are (`fixDocument_of_passes`), and so does a run over such documents (`fixDumps_of_passes`). A
document whose tags were brought in order is of this kind as soon as it is described anew, with the
text and the tags as the repairs leave them (`Document.passes_anew`), and then it is sound again
(`Document.Sound.anew`). Whether it passes depends on the attributes that are listed and not on
where they stand (`Document.Passes.of_listing`).
-/

namespace TagOrder

variable {σ : Type} {storage : Storage σ} {files : σ} {rule : Rule} {backups : Bool}

/-- A document all of whose tags pass the check. -/
def Document.Passes (rule : Rule) (document : Document) : Prop :=
  ∀ tag ∈ document.tags, rule.check tag = .ok []

/-- Tags that pass the check are repaired into themselves. -/
theorem repairTags_of_passes (path : String) (text : Text) {tags : List Tag}
    (passes : ∀ tag ∈ tags, rule.check tag = .ok []) :
    repairTags rule path { text } tags = .ok { text } := by
  induction tags with
  | nil => rfl
  | cons tag rest ih =>
    have others := ih fun other member => passes other (List.mem_cons_of_mem _ member)
    have clean : repair rule ⟨tag, text⟩ =
        .ok { placed := ⟨tag, text⟩, clean := true, passes := [] } :=
      repairFrom_clean (passes tag List.mem_cons_self)
    have stays : repairTag rule path { text } tag = .ok { text } := by
      unfold repairTag
      cases tag.span with
      | none => rfl
      | some span => simp [clean, repairNotices]
    rw [repairTags, stays]
    exact others

/-- A document that passes the check has nothing to be rewritten. -/
theorem Document.Passes.still {document : Document} (passes : document.Passes rule) :
    document.Still rule := by
  intro progress finished
  rw [Document.repairs, repairTags_of_passes document.path document.text passes] at finished
  obtain rfl := Except.ok.inj finished
  exact Script.apply_merge_nil document.text

/-- A document that passes the check leaves the files as they are. -/
theorem fixDocument_of_passes {document : Document} (passes : document.Passes rule) :
    fixDocument storage files rule backups document =
      { files, answer := .ok { path := document.path, modified := false } } := by
  unfold fixDocument Document.repairs
  rw [repairTags_of_passes document.path document.text passes]
  rfl

/-- Dumps whose documents pass the check leave the files as they are. -/
theorem fixDumps_of_passes {dumps : List String}
    (passes : ∀ dump ∈ dumps, ∀ document, Document.load storage files dump = .ok document →
      document.Passes rule) : (fixDumps storage rule backups files dumps).files = files := by
  induction dumps with
  | nil => rfl
  | cons dump rest ih =>
    have others := ih fun other member => passes other (List.mem_cons_of_mem _ member)
    unfold fixDumps
    cases loaded : Document.load storage files dump with
    | error error => cases error <;> first | exact others | rfl
    | ok document =>
      dsimp only
      rw [fixDocument_of_passes (passes dump List.mem_cons_self document loaded)]
      exact others

/-- A document described anew: with the text that its repairs end in, and its tags as these leave
them. -/
def Document.anew (document : Document) (text : Text) (alone : Tag -> Repair) : Document :=
  { document with text, tags := document.tags.map fun tag => (alone tag).placed.tag }

/-- The attributes that a document lists, tag by tag, apart from where they stand. -/
def Document.listing (document : Document) : List (List Attribute) :=
  document.tags.map fun tag => tag.attributes.map Attribute.unplaced

/-- Whether a document passes the check is decided by the attributes that it lists. -/
theorem Document.Passes.of_listing {left right : Document} (passes : left.Passes rule)
    (same : right.listing = left.listing) : right.Passes rule := by
  intro tag member
  have listed : tag.attributes.map Attribute.unplaced ∈ left.listing := by
    rw [← same]
    exact List.mem_map_of_mem member
  obtain ⟨other, otherMember, sameAttributes⟩ := List.mem_map.mp listed
  have clean := Rule.check_eq_nil_iff.mp (passes other otherMember)
  have none := congrArg (rule.options.policy.inversions ·) sameAttributes
  rw [Policy.inversions_unplaced, Policy.inversions_unplaced, clean, List.map_nil] at none
  exact Rule.check_eq_nil_iff.mpr (List.map_eq_nil_iff.mp none.symm)

section Anew

variable {document : Document} {text : Text} {alone : Tag -> Repair}

/-- A tag as its repair on its own leaves it is laid out in the text that all repairs end in. -/
theorem RepairedIn.laid_repaired (repaired : RepairedIn document.text alone document.tags text)
    {tag : Tag} (member : tag ∈ document.tags) (laid : Laid document.text 0 tag.attributes)
    (kept : Placed.Kept ⟨tag, document.text⟩ (alone tag).placed) :
    Laid text 0 (alone tag).placed.tag.attributes := by
  have length : text.length = (alone tag).placed.text.length :=
    repaired.same.length.trans kept.text.length.symm
  refine (Placed.Mirrors.of_agree kept.laid length ?_).otherLaid
  rintro offset ⟨span, covers, above, below⟩
  have covered : tag.span = some span := kept.span.symm.trans covers
  have bounds := laid.span_bounds covered
  refine Text.getElem?_of_slice_eq bounds.1 ?_ above below
  exact (repaired.spans tag member span covered).trans
    ((alone tag).placed.spanText_of_span covers)

/-- A document described anew is sound again. -/
theorem Document.Sound.anew (sound : document.Sound)
    (repaired : RepairedIn document.text alone document.tags text)
    (results : ∀ tag ∈ document.tags, repair rule ⟨tag, document.text⟩ = .ok (alone tag)) :
    (document.anew text alone).Sound where
  laid := by
    rintro tag member
    obtain ⟨old, oldMember, rfl⟩ := List.mem_map.mp member
    have laid := sound.laid old oldMember
    exact repaired.laid_repaired oldMember laid (.repair laid (results old oldMember))
  apart := by
    have spans : (document.anew text alone).tags.filterMap Tag.span =
        document.tags.filterMap Tag.span := by
      rw [Document.anew, List.filterMap_map]
      refine List.filterMap_congr fun tag member => ?_
      have kept : Placed.Kept ⟨tag, document.text⟩ (alone tag).placed :=
        .repair (sound.laid tag member) (results tag member)
      exact kept.span
    rw [spans]
    exact sound.apart

/-- A document described anew passes the check when every tag came clean. -/
theorem Document.passes_anew
    (results : ∀ tag ∈ document.tags, repair rule ⟨tag, document.text⟩ = .ok (alone tag))
    (clean : ∀ tag ∈ document.tags, (alone tag).clean = true) :
    (document.anew text alone).Passes rule := by
  intro tag member
  obtain ⟨old, oldMember, rfl⟩ := List.mem_map.mp member
  exact check_of_repair (results old oldMember) (clean old oldMember)

end Anew

end TagOrder
