import Mathlib.Data.List.Forall2
import TagOrder.Proofs.Repair.Kept
import TagOrder.Proofs.Repair.Pass

/-!
# Repairs that mirror each other

Two laid out tags mirror each other when they hold the same attributes in the same order with the
same strings between them, in whatever texts and wherever in these. A repair looks at nothing else,
so repairs of tags that mirror each other go the same way, pass for pass (`RepairRun.mirrored`), and
end alike (`repair_mirrored`), also where they are at fault (`repair_mirrored_fault`).
-/

namespace TagOrder

/-- Laid out tags with the same attributes and the same strings between them. -/
structure Placed.Mirrors (left right : Placed) : Prop where
  laid : Laid left.text 0 left.tag.attributes
  otherLaid : Laid right.text 0 right.tag.attributes
  contents : right.tag.attributes.map Attribute.unplaced =
    left.tag.attributes.map Attribute.unplaced
  strings : between right.text right.tag.attributes = between left.text left.tag.attributes

/-- Visits of tags that mirror each other, with as many violations. -/
structure Visit.Mirrors (left right : Visit) : Prop where
  arrangement : right.arrangement = left.arrangement
  count : right.count = left.count
  placed : left.placed.Mirrors right.placed

namespace Placed.Mirrors

variable {left right : Placed}

theorem symm (mirrors : left.Mirrors right) : right.Mirrors left :=
  ⟨mirrors.otherLaid, mirrors.laid, mirrors.contents.symm, mirrors.strings.symm⟩

/-- A tag mirrors itself in a text that is the same wherever the tag covers it. -/
theorem of_agree {tag : Tag} {text other : Text} (laid : Laid text 0 tag.attributes)
    (length : other.length = text.length)
    (same : ∀ offset, tag.Covers offset → other[offset]? = text[offset]?) :
    (Placed.mk tag text).Mirrors ⟨tag, other⟩ := by
  cases attributes : tag.attributes with
  | nil => exact ⟨laid, by simp [attributes, Laid], rfl, by simp [attributes, between]⟩
  | cons first rest =>
    have covers : ∀ offset : Nat, first.range.start ≤ offset → offset < reach 0 tag.attributes →
        tag.Covers offset :=
      fun offset above below => ⟨_, Tag.span_of_cons attributes, above, below⟩
    rw [attributes] at covers
    have whole := laid
    rw [attributes] at whole
    obtain ⟨above, ordered, reads, behind⟩ := whole
    have tight : Laid text first.range.start (first :: rest) :=
      ⟨Int.le_refl _, ordered, reads, behind⟩
    refine ⟨laid, ?_, rfl, ?_⟩
    · have otherLaid := tight.congr above length fun offset start stop =>
        same offset (covers offset start stop)
      rw [attributes]
      exact otherLaid.lower above
    · rw [attributes]
      exact behind.gaps_congr (by omega) fun offset start stop =>
        same offset (covers offset (by omega) stop)

/-- The attributes cover the same text. -/
theorem spanText (mirrors : left.Mirrors right) : right.spanText = left.spanText := by
  have texts := congrArg (List.map Attribute.text) mirrors.contents
  simp only [List.map_map, Function.comp_def, Attribute.text_unplaced] at texts
  rw [mirrors.otherLaid.spanText_eq, mirrors.laid.spanText_eq, texts, mirrors.strings]

theorem visit (mirrors : left.Mirrors right) (count : Nat) :
    (left.visit count).Mirrors (right.visit count) :=
  ⟨mirrors.spanText, rfl, mirrors⟩

/-- The same block fits both. -/
theorem fits {block : Block} (mirrors : left.Mirrors right)
    (fits : block.Fits left.tag.attributes) : block.Fits right.tag.attributes := by
  have length := congrArg List.length mirrors.contents
  rw [List.length_map, List.length_map] at length
  exact ⟨fits.passes, fits.moves, length ▸ fits.inside⟩

/-- The same rotation of both leaves them alike. -/
theorem rotate {block : Block} (mirrors : left.Mirrors right)
    (fits : block.Fits left.tag.attributes) :
    (block.rotate left).Mirrors (block.rotate right) := by
  have otherFits := mirrors.fits fits
  have kept := Placed.Kept.rotate fits mirrors.laid
  have otherKept := Placed.Kept.rotate otherFits mirrors.otherLaid
  refine ⟨kept.laid, otherKept.laid, ?_, ?_⟩
  · rw [Block.rotate_unplaced fits, Block.rotate_unplaced otherFits]
    simp only [Block.movers, Block.passed, List.map_append, List.map_take, List.map_drop,
      mirrors.contents]
  · rw [← tail_gaps _ 0, ← tail_gaps _ 0, kept.gaps, otherKept.gaps, tail_gaps, tail_gaps,
      mirrors.strings]

/-- A pass rotates the same block of both. -/
theorem block?_eq (mirrors : left.Mirrors right) (policy : Policy) :
    policy.block? right.tag.attributes = policy.block? left.tag.attributes := by
  rw [← policy.block?_unplaced, mirrors.contents, policy.block?_unplaced]

/-- Their messages are made from the same keys. -/
theorem keys_eq (mirrors : left.Mirrors right) (policy : Policy) :
    (policy.inversions right.tag.attributes).map Inversion.keys =
      (policy.inversions left.tag.attributes).map Inversion.keys := by
  have images : (policy.inversions right.tag.attributes).map Inversion.unplaced =
      (policy.inversions left.tag.attributes).map Inversion.unplaced := by
    rw [← Policy.inversions_unplaced, ← Policy.inversions_unplaced, mirrors.contents]
  have keys := congrArg (List.map Inversion.keys) images
  simpa only [List.map_map, Function.comp_def, Inversion.keys_unplaced] using keys

/-- A check of one comes to its end when that of the other does, with as many violations. -/
theorem check {rule : Rule} {violations : List Violation} (mirrors : left.Mirrors right)
    (checked : rule.check left.tag = .ok violations) :
    ∃ others, rule.check right.tag = .ok others ∧ others.length = violations.length := by
  have keys := mirrors.keys_eq rule.options.policy
  obtain ⟨texts, built, rfl⟩ := Rule.check_eq_ok_iff.mp checked
  have otherChecked : rule.check right.tag = .ok _ :=
    Rule.check_eq_ok_iff.mpr ⟨texts, keys ▸ built, rfl⟩
  refine ⟨_, otherChecked, ?_⟩
  have lengths := congrArg List.length keys
  rw [List.length_map, List.length_map] at lengths
  rw [Rule.length_of_check_eq_ok otherChecked, Rule.length_of_check_eq_ok checked, lengths]

/-- A check of one is at fault when that of the other is, and the fault is the same. -/
theorem check_fault {rule : Rule} {fault : TemplateFault} (mirrors : left.Mirrors right)
    (failed : rule.check left.tag = .error fault) : rule.check right.tag = .error fault := by
  rw [Rule.check_eq] at failed ⊢
  rw [mirrors.keys_eq]
  cases built : rule.messages
      ((rule.options.policy.inversions left.tag.attributes).map Inversion.keys) with
  | ok texts =>
    rw [built] at failed
    cases failed
  | error other =>
    rw [built] at failed
    obtain rfl := Except.error.inj failed
    rfl

end Placed.Mirrors

/-- An arrangement was visited by the one exactly when it was visited by the other. -/
theorem any_arrangement_mirrored {visited others : List Visit} (arrangement : Text)
    (mirrors : List.Forall₂ Visit.Mirrors visited others) :
    others.any (·.arrangement == arrangement) = visited.any (·.arrangement == arrangement) := by
  induction mirrors with
  | nil => rfl
  | cons first _ ih => rw [List.any_cons, List.any_cons, ih, first.arrangement]

/-- The visits with the fewest violations mirror each other. -/
theorem fewest_mirrored {best other : Visit} {visited others : List Visit}
    (here : best.Mirrors other) (mirrors : List.Forall₂ Visit.Mirrors visited others) :
    (fewest best visited).Mirrors (fewest other others) := by
  induction mirrors generalizing best other with
  | nil => exact here
  | cons first _ ih =>
    rw [fewest, fewest, first.count, here.count]
    split
    · exact ih first
    · exact ih here

/-- Repairs that settle on a visit settle on visits that mirror each other. -/
theorem settled_mirrored {placed other : Placed} {visited others : List Visit}
    (here : placed.Mirrors other) (mirrors : List.Forall₂ Visit.Mirrors visited others)
    (passes otherPasses : List RepairPass) (cycled : Bool) :
    (Repair.settled placed visited passes cycled).placed.Mirrors
      (Repair.settled other others otherPasses cycled).placed := by
  cases mirrors with
  | nil => exact here
  | cons first rest => exact (fewest_mirrored first rest).placed

/-- A pass over one is a pass over the other, and leaves them alike. -/
theorem exists_pass_mirrored {rule : Rule} {placed other next : Placed}
    {visited others : List Visit} {violations : List Violation} {violation : Violation}
    (here : placed.Mirrors other)
    (mirrors : List.Forall₂ Visit.Mirrors visited others)
    (checked : rule.check placed.tag = .ok violations)
    (fresh : visited.any (·.arrangement == placed.spanText) = false)
    (found : violations.find? (·.fixable) = some violation)
    (rotated : rotate? placed violation.node violation.previous = some next) :
    ∃ otherViolations otherViolation otherNext,
      rule.check other.tag = .ok otherViolations ∧
      others.any (·.arrangement == other.spanText) = false ∧
      otherViolations.find? (·.fixable) = some otherViolation ∧
      rotate? other otherViolation.node otherViolation.previous = some otherNext ∧
      next.Mirrors otherNext ∧
      List.Forall₂ Visit.Mirrors (visited ++ [placed.visit violations.length])
        (others ++ [other.visit otherViolations.length]) := by
  obtain ⟨otherViolations, otherChecked, length⟩ := here.check checked
  obtain ⟨block, chosen, fits, rfl⟩ := Rule.block?_of_find? here.laid.nodup checked found rotated
  rw [← here.block?_eq] at chosen
  obtain ⟨otherViolation, otherFound, otherRotated⟩ :=
    Rule.find?_of_block? here.otherLaid.nodup otherChecked chosen
  refine ⟨otherViolations, otherViolation, _, otherChecked, ?_, otherFound, otherRotated,
    here.rotate fits, ?_⟩
  · rw [here.spanText, any_arrangement_mirrored _ mirrors, fresh]
  · rw [length]
    exact List.rel_append mirrors (.cons (here.visit _) .nil)

/-- Repairs of tags that mirror each other go the same way. -/
theorem RepairRun.mirrored {rule : Rule} {left : Nat} {visited : List Visit}
    {passes : List RepairPass} {placed : Placed} {result : Repair}
    (run : RepairRun rule left visited passes placed result) :
    ∀ {others : List Visit} {otherPasses : List RepairPass} {other : Placed},
      placed.Mirrors other → List.Forall₂ Visit.Mirrors visited others →
      ∃ answer, RepairRun rule left others otherPasses other answer ∧
        answer.clean = result.clean ∧ answer.cycled = result.cycled ∧
        result.placed.Mirrors answer.placed := by
  induction run with
  | clean checked =>
    intro others otherPasses other here mirrors
    obtain ⟨violations, otherChecked, length⟩ := here.check checked
    obtain rfl := List.eq_nil_of_length_eq_zero length
    exact ⟨_, .clean otherChecked, rfl, rfl, here⟩
  | cycled checked misplaced seen =>
    intro others otherPasses other here mirrors
    obtain ⟨violations, otherChecked, length⟩ := here.check checked
    have otherMisplaced : violations ≠ [] := by
      rintro rfl
      exact misplaced (List.eq_nil_of_length_eq_zero length.symm)
    refine ⟨_, .cycled otherChecked otherMisplaced ?_, rfl, rfl,
      settled_mirrored here mirrors _ _ _⟩
    rw [here.spanText, any_arrangement_mirrored _ mirrors, seen]
  | stopped checked misplaced fresh ending =>
    intro others otherPasses other here mirrors
    obtain ⟨violations, otherChecked, length⟩ := here.check checked
    have otherMisplaced : violations ≠ [] := by
      rintro rfl
      exact misplaced (List.eq_nil_of_length_eq_zero length.symm)
    refine ⟨_, .stopped otherChecked otherMisplaced ?_ ?_, rfl, rfl,
      settled_mirrored here ?_ _ _ _⟩
    · rw [here.spanText, any_arrangement_mirrored _ mirrors, fresh]
    · refine ending.imp_right fun none => ?_
      rw [Rule.find?_eq_none_iff here.laid.nodup checked, ← here.block?_eq] at none
      exact (Rule.find?_eq_none_iff here.otherLaid.nodup otherChecked).mpr none
    · rw [length]
      exact List.rel_append mirrors (.cons (here.visit _) .nil)
  | pass checked fresh found rotated _ ih =>
    intro others otherPasses other here mirrors
    obtain ⟨_, _, _, otherChecked, otherFresh, otherFound, otherRotated, after, visits⟩ :=
      exists_pass_mirrored here mirrors checked fresh found rotated
    obtain ⟨answer, rest, ends⟩ := ih after visits
    exact ⟨answer, .pass otherChecked otherFresh otherFound otherRotated rest, ends⟩

/-- Repairs of tags that mirror each other come to the same fault. -/
theorem repairFrom_mirrored_fault {rule : Rule} {left : Nat} {visited : List Visit}
    {passes : List RepairPass} {placed : Placed} {fault : TemplateFault}
    (failed : repairFrom rule left visited passes placed = .error fault) :
    ∀ {others : List Visit} {otherPasses : List RepairPass} {other : Placed},
      placed.Mirrors other → List.Forall₂ Visit.Mirrors visited others →
      repairFrom rule left others otherPasses other = .error fault := by
  induction left using Nat.strongRecOn generalizing visited passes placed with
  | _ left ih =>
    intro others otherPasses other here mirrors
    rcases repairFrom_split rule left visited passes placed with ⟨first, checked, ended⟩ |
      ⟨result, run⟩ | ⟨fewer, _, _, _, rfl, checked, fresh, found, rotated, goesOn⟩
    · obtain rfl := Except.error.inj (ended.symm.trans failed)
      exact repairFrom_fault (here.check_fault checked)
    · cases run.repairFrom_eq.symm.trans failed
    · obtain ⟨_, _, _, otherChecked, otherFresh, otherFound, otherRotated, after, visits⟩ :=
        exists_pass_mirrored here mirrors checked fresh found rotated
      rw [repairFrom_pass otherChecked otherFresh otherFound otherRotated]
      exact ih fewer (Nat.lt_succ_self _) (goesOn.symm.trans failed) after visits

/-- Repairs of tags that mirror each other end alike. -/
theorem repair_mirrored {rule : Rule} {placed other : Placed} {result : Repair}
    (mirrors : placed.Mirrors other) (repaired : repair rule placed = .ok result) :
    ∃ answer, repair rule other = .ok answer ∧ answer.clean = result.clean ∧
      answer.cycled = result.cycled ∧ result.placed.Mirrors answer.placed := by
  obtain ⟨answer, run, ends⟩ := (RepairRun.of_repairFrom repaired).mirrored mirrors .nil
  exact ⟨answer, run.repairFrom_eq, ends⟩

theorem repair_mirrored_fault {rule : Rule} {placed other : Placed} {fault : TemplateFault}
    (mirrors : placed.Mirrors other) (failed : repair rule placed = .error fault) :
    repair rule other = .error fault :=
  repairFrom_mirrored_fault failed mirrors .nil

end TagOrder
