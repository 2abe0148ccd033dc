import TagOrder.Proofs.Answer
import TagOrder.Proofs.Ranking
import TagOrder.Rule

/-!
# What a check reports

A check turns the inversions of a tag into violations, one for one and in order, unless the
message of one of them cannot be built (`Rule.check_eq`). Messages are built from keys alone, so
whether a check comes to its end does not depend on where the attributes stand.
-/

namespace TagOrder

/-- The keys that the message of an inversion is filled with. -/
def Inversion.keys (inversion : Inversion) : MessageKeys :=
  ⟨inversion.node.node.keyText, inversion.previous.node.keyText⟩

@[simp] theorem Inversion.keys_unplaced (inversion : Inversion) :
    inversion.unplaced.keys = inversion.keys := rfl

/-- The violation that an inversion of a tag is, under a message. -/
def Inversion.violation (inversion : Inversion) (tag : Tag) (message : Text) : Violation :=
  let fixable := Rule.canFix tag inversion.node.node inversion.previous.node
  { message, tag, fixable, node := inversion.node.node, previous := inversion.previous.node
    failureReason := if fixable then none else some unfixableReason }

/-- The messages that some keys give, or the first fault among them. -/
def Rule.messages (rule : Rule) : List MessageKeys -> Except TemplateFault (List Text)
  | [] => .ok []
  | keys :: rest =>
    match Template.message rule.template keys with
    | .error fault => .error fault
    | .ok message =>
      match rule.messages rest with
      | .error fault => .error fault
      | .ok others => .ok (message :: others)

namespace Rule

variable {rule : Rule} {tag : Tag}

theorem violation_eq (rule : Rule) (tag : Tag) (inversion : Inversion) :
    rule.violation tag inversion =
      (Template.message rule.template inversion.keys).map (inversion.violation tag) := by
  unfold violation Inversion.keys
  dsimp only
  cases Template.message rule.template
    ⟨inversion.node.node.keyText, inversion.previous.node.keyText⟩ <;> rfl

theorem violations_eq (rule : Rule) (tag : Tag) (inversions : List Inversion) :
    rule.violations tag inversions = (rule.messages (inversions.map Inversion.keys)).map
      (List.zipWith (fun inversion message => inversion.violation tag message) inversions) := by
  induction inversions with
  | nil => rfl
  | cons inversion rest ih =>
    simp only [violations, violation_eq, List.map_cons, messages, ih]
    cases Template.message rule.template inversion.keys with
    | error fault => rfl
    | ok message => cases rule.messages (rest.map Inversion.keys) <;> rfl

/-- A check gives one violation for each inversion, once every message is built. -/
theorem check_eq (rule : Rule) (tag : Tag) :
    rule.check tag =
      (rule.messages ((rule.options.policy.inversions tag.attributes).map Inversion.keys)).map
        (List.zipWith (fun inversion message => inversion.violation tag message)
          (rule.options.policy.inversions tag.attributes)) :=
  violations_eq rule tag _

/-- There is one message for each of the keys. -/
theorem length_of_messages_eq_ok {keys : List MessageKeys} {texts : List Text}
    (built : rule.messages keys = .ok texts) : texts.length = keys.length := by
  induction keys generalizing texts with
  | nil =>
    obtain rfl := Except.ok.inj built
    rfl
  | cons first rest ih =>
    simp only [messages] at built
    cases head : Template.message rule.template first with
    | error fault => simp [head] at built
    | ok message =>
      cases tail : rule.messages rest with
      | error fault => simp [head, tail] at built
      | ok others =>
        simp only [head, tail] at built
        obtain rfl := Except.ok.inj built
        simp [ih tail]

/-- When messages cannot be built, one of the keys is at fault. -/
theorem exists_of_messages_eq_error {keys : List MessageKeys} {fault : TemplateFault}
    (failed : rule.messages keys = .error fault) :
    ∃ bad ∈ keys, Template.message rule.template bad = .error fault := by
  induction keys with
  | nil => cases failed
  | cons first rest ih =>
    simp only [messages] at failed
    cases head : Template.message rule.template first with
    | error other =>
      simp only [head] at failed
      obtain rfl := Except.error.inj failed
      exact ⟨first, List.mem_cons_self, head⟩
    | ok message =>
      cases tail : rule.messages rest with
      | ok others => simp [head, tail] at failed
      | error other =>
        simp only [head, tail] at failed
        obtain rfl := Except.error.inj failed
        obtain ⟨bad, member, faulty⟩ := ih tail
        exact ⟨bad, List.mem_cons_of_mem _ member, faulty⟩

/-- The violations of a check that comes to its end. -/
theorem check_eq_ok_iff {violations : List Violation} :
    rule.check tag = .ok violations ↔
      ∃ texts, rule.messages
          ((rule.options.policy.inversions tag.attributes).map Inversion.keys) = .ok texts ∧
        violations = List.zipWith (fun inversion message => inversion.violation tag message)
          (rule.options.policy.inversions tag.attributes) texts := by
  rw [check_eq]
  cases rule.messages ((rule.options.policy.inversions tag.attributes).map Inversion.keys) with
  | error fault => simp [Except.map]
  | ok texts =>
    simp only [Except.map, Except.ok.injEq, exists_eq_left']
    exact eq_comm

/-- When a check is at fault, no message can be built for two of the attributes. -/
theorem exists_of_check_eq_error {fault : TemplateFault} (failed : rule.check tag = .error fault) :
    ∃ node ∈ tag.attributes, ∃ previous ∈ tag.attributes,
      Template.message rule.template ⟨node.keyText, previous.keyText⟩ = .error fault := by
  rw [check_eq] at failed
  cases built : rule.messages
      ((rule.options.policy.inversions tag.attributes).map Inversion.keys) with
  | ok texts =>
    rw [built] at failed
    cases failed
  | error other =>
    rw [built] at failed
    obtain rfl := Except.error.inj failed
    obtain ⟨keys, member, faulty⟩ := exists_of_messages_eq_error built
    obtain ⟨inversion, reported, rfl⟩ := List.mem_map.mp member
    obtain ⟨node, previous⟩ := Policy.mem_ranked_of_mem_inversions reported
    exact ⟨_, List.mem_of_getElem? (getElem?_of_mem_ranked node), _,
      List.mem_of_getElem? (getElem?_of_mem_ranked previous), faulty⟩

/-- There are as many violations as inversions. -/
theorem length_of_check_eq_ok {violations : List Violation}
    (checked : rule.check tag = .ok violations) :
    violations.length = (rule.options.policy.inversions tag.attributes).length := by
  obtain ⟨texts, built, rfl⟩ := check_eq_ok_iff.mp checked
  have length := length_of_messages_eq_ok built
  rw [List.length_map] at length
  rw [List.length_zipWith, length, Nat.min_self]

/-- A check is clean exactly when there is no inversion. -/
theorem check_eq_nil_iff :
    rule.check tag = .ok [] ↔ rule.options.policy.inversions tag.attributes = [] := by
  constructor
  · intro checked
    have length := length_of_check_eq_ok checked
    exact List.eq_nil_of_length_eq_zero length.symm
  · intro none
    rw [check_eq, none]
    rfl

/-- Every violation of a check is that of an inversion. -/
theorem exists_of_mem_check {violations : List Violation} {violation : Violation}
    (checked : rule.check tag = .ok violations) (member : violation ∈ violations) :
    ∃ inversion ∈ rule.options.policy.inversions tag.attributes, ∃ message,
      violation = inversion.violation tag message := by
  obtain ⟨texts, built, rfl⟩ := check_eq_ok_iff.mp checked
  rw [← List.map_uncurry_zip_eq_zipWith] at member
  obtain ⟨⟨inversion, message⟩, both, rfl⟩ := List.mem_map.mp member
  exact ⟨inversion, (List.of_mem_zip both).1, message, rfl⟩

/-- The tests that a fix makes before and after the script is built never turn one down. -/
theorem fix?_eq {violation : Violation} (owned : owns violation = true) :
    fix? violation =
      rotationScript? violation.tag.attributes violation.node violation.previous := by
  unfold fix?
  dsimp only
  rw [owned, Bool.not_true, if_neg Bool.false_ne_true]
  cases found : block? violation.tag.attributes violation.node violation.previous with
  | none => simp [rotationScript?, found]
  | some block =>
    obtain ⟨node, previous⟩ := mem_of_block? found
    have edits := Block.script_ne_nil (block?_fits found)
    simp [rotationScript?, found, node, previous, edits]

/-- A violation that a check reports is fixed by the edits that rotate its two attributes. -/
theorem fix?_of_mem_check {violations : List Violation} {violation : Violation}
    (checked : rule.check tag = .ok violations) (member : violation ∈ violations) :
    fix? violation = rotationScript? tag.attributes violation.node violation.previous := by
  obtain ⟨inversion, inside, message, rfl⟩ := exists_of_mem_check checked member
  exact fix?_eq rfl

/-- A violation that a check reports is resolved by the rotation of its two attributes. -/
theorem applyFix?_of_mem_check {violations : List Violation} {violation : Violation}
    (checked : rule.check tag = .ok violations) (member : violation ∈ violations) (text : Text) :
    applyFix? violation text = rotate? ⟨tag, text⟩ violation.node violation.previous := by
  rw [applyFix?, fix?_of_mem_check checked member]
  obtain ⟨inversion, inside, message, rfl⟩ := exists_of_mem_check checked member
  simp only [rotationScript?, rotate?, Option.isSome_map, Inversion.violation]
  cases block? tag.attributes inversion.node.node inversion.previous.node <;> rfl

theorem applyFix?_of_block? {violations : List Violation} {violation : Violation} {block : Block}
    (checked : rule.check tag = .ok violations) (member : violation ∈ violations)
    (found : block? tag.attributes violation.node violation.previous = some block) (text : Text) :
    applyFix? violation text = some (block.rotate ⟨tag, text⟩) := by
  rw [applyFix?_of_mem_check checked member]
  exact rotate?_eq_some.mpr ⟨block, found, rfl⟩

/-- A violation is fixable exactly when the rotation of its two attributes can be made. -/
theorem fixable_iff_of_mem_check {violations : List Violation} {violation : Violation}
    (checked : rule.check tag = .ok violations) (member : violation ∈ violations) (text : Text) :
    violation.fixable = (rotate? ⟨tag, text⟩ violation.node violation.previous).isSome := by
  obtain ⟨inversion, inside, message, rfl⟩ := exists_of_mem_check checked member
  simp [rotate?, Inversion.violation, canFix]

end Rule

end TagOrder
