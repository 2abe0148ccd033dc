import TagOrder.Proofs.Repair.Run

/-!
# What a pass rotates

A pass of a repair rotates the block of the first inversion that has one. `Policy.block?` finds it
by places, so it is the same wherever the attributes stand in a text (`Policy.block?_unplaced`), and
the violation that the pass resolves is that of the same block (`Rule.find?_of_block?`).
-/

namespace TagOrder

/-- The block that a pass over a tag rotates, if it rotates one. -/
def Policy.block? (policy : Policy) (attributes : List Attribute) : Option Block :=
  (policy.inversions attributes).findSome? fun inversion =>
    blockAt? attributes inversion.node.place inversion.previous.place

/-- What a pass rotates does not depend on where the attributes stand in a text. -/
theorem Policy.block?_unplaced (policy : Policy) (attributes : List Attribute) :
    policy.block? (attributes.map Attribute.unplaced) = policy.block? attributes := by
  unfold Policy.block?
  rw [Policy.inversions_unplaced, List.findSome?_map]
  simp only [Function.comp_def, blockAt?_unplaced]
  rfl

namespace Rule

variable {rule : Rule} {tag : Tag} {violations : List Violation}

/-- Among the violations of inversions that stand at their places, the first one that is fixable has
the first block that there is. -/
theorem bind_find?_violation (distinct : tag.attributes.Nodup) {inversions : List Inversion}
    {texts : List Text} (built : texts.length = inversions.length)
    (placed : ∀ inversion ∈ inversions,
      tag.attributes[inversion.node.place]? = some inversion.node.node ∧
        tag.attributes[inversion.previous.place]? = some inversion.previous.node) :
    ((List.zipWith (fun inversion message => inversion.violation tag message) inversions
        texts).find? (·.fixable)).bind
      (fun violation => TagOrder.block? tag.attributes violation.node violation.previous) =
    inversions.findSome? fun inversion =>
      blockAt? tag.attributes inversion.node.place inversion.previous.place := by
  induction inversions generalizing texts with
  | nil => rfl
  | cons inversion rest ih =>
    obtain ⟨message, others, rfl⟩ := List.exists_cons_of_length_eq_add_one built
    obtain ⟨atPlace, atFirst⟩ := placed inversion List.mem_cons_self
    have same := block?_eq_blockAt? distinct atPlace atFirst
    have tail := ih (by simpa using built) fun other member =>
      placed other (List.mem_cons_of_mem _ member)
    rw [List.zipWith_cons_cons, List.findSome?_cons, ← same]
    cases found : TagOrder.block? tag.attributes inversion.node.node inversion.previous.node with
    | none =>
      rw [List.find?_cons_of_neg (by simp [Inversion.violation, canFix, found]), tail]
    | some block =>
      rw [List.find?_cons_of_pos (by simp [Inversion.violation, canFix, found])]
      exact found

/-- The first violation that is fixable has the block that a pass rotates. -/
theorem bind_find? (distinct : tag.attributes.Nodup) (checked : rule.check tag = .ok violations) :
    (violations.find? (·.fixable)).bind
      (fun violation => TagOrder.block? tag.attributes violation.node violation.previous) =
    rule.options.policy.block? tag.attributes := by
  obtain ⟨texts, built, rfl⟩ := check_eq_ok_iff.mp checked
  refine bind_find?_violation distinct ?_ fun inversion member => ?_
  · rw [length_of_messages_eq_ok built, List.length_map]
  · obtain ⟨node, previous⟩ := Policy.mem_ranked_of_mem_inversions member
    exact ⟨getElem?_of_mem_ranked node, getElem?_of_mem_ranked previous⟩

/-- A violation that a pass resolves is resolved by the block of the pass. -/
theorem block?_of_find? {placed next : Placed} {violation : Violation}
    (distinct : placed.tag.attributes.Nodup) (checked : rule.check placed.tag = .ok violations)
    (found : violations.find? (·.fixable) = some violation)
    (rotated : rotate? placed violation.node violation.previous = some next) :
    ∃ block, rule.options.policy.block? placed.tag.attributes = some block ∧
      block.Fits placed.tag.attributes ∧ next = block.rotate placed := by
  obtain ⟨block, chosen, rfl⟩ := rotate?_eq_some.mp rotated
  refine ⟨block, ?_, block?_fits chosen, rfl⟩
  rw [← bind_find? distinct checked, found]
  exact chosen

/-- The block of a pass resolves the violation that the pass is about. -/
theorem find?_of_block? {placed : Placed} {block : Block}
    (distinct : placed.tag.attributes.Nodup) (checked : rule.check placed.tag = .ok violations)
    (chosen : rule.options.policy.block? placed.tag.attributes = some block) :
    ∃ violation, violations.find? (·.fixable) = some violation ∧
      rotate? placed violation.node violation.previous = some (block.rotate placed) := by
  rw [← bind_find? distinct checked] at chosen
  obtain ⟨violation, found, blocked⟩ := Option.bind_eq_some_iff.mp chosen
  exact ⟨violation, found, rotate?_eq_some.mpr ⟨block, blocked, rfl⟩⟩

/-- Without a block no violation can be fixed. -/
theorem find?_eq_none_iff (distinct : tag.attributes.Nodup)
    (checked : rule.check tag = .ok violations) :
    violations.find? (·.fixable) = none ↔
      rule.options.policy.block? tag.attributes = none := by
  rw [← bind_find? distinct checked]
  constructor
  · intro none
    rw [none]
    rfl
  · intro none
    cases found : violations.find? (·.fixable) with
    | none => rfl
    | some violation =>
      have rotates : ∃ next, rotate? ⟨tag, []⟩ violation.node violation.previous = some next :=
        exists_rotate?_of_find? checked found
      obtain ⟨next, rotated⟩ := rotates
      obtain ⟨block, blocked, -⟩ := rotate?_eq_some.mp rotated
      rw [found, Option.bind_some, blocked] at none
      cases none

end Rule

end TagOrder
