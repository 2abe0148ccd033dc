import TagOrder.Scan

/-!
# Who may follow whom

Ranks, plain before bound, qualifiers on top and the alphabet are keys that are compared one after
the other. `lexBy` compares by one key and then by what is left; `Policy.mayFollow` is such a
comparison throughout (`Policy.mayFollow_eq`). Among items that a policy decides on, it is
transitive, and of two of them one may follow the other (`Policy.Decides.trans`,
`Policy.Decides.total`). A qualified item may not follow itself, so it is no preorder on single
items.
-/

namespace TagOrder

/-- By a key, and where that is the same by what is left. -/
def lexBy {α : Type} (key : α -> Nat) (tie : α -> α -> Bool) (left right : α) : Bool :=
  key left < key right || (key left == key right && tie left right)

section LexBy

variable {α : Type} {key : α -> Nat} {tie : α -> α -> Bool} {first second third : α}

theorem lexBy_iff : lexBy key tie first second = true ↔
    key first < key second ∨ key first = key second ∧ tie first second = true := by
  simp [lexBy]

theorem lexBy_trans (tieTrans : key second = key third → tie first second = true →
      tie second third = true → tie first third = true)
    (before : lexBy key tie first second = true) (after : lexBy key tie second third = true) :
    lexBy key tie first third = true := by
  rw [lexBy_iff] at before after ⊢
  rcases before with below | ⟨same, tied⟩
  · rcases after with further | ⟨same, -⟩
    · exact .inl (Nat.lt_trans below further)
    · exact .inl (same ▸ below)
  · rcases after with further | ⟨sameToo, tiedToo⟩
    · exact .inl (same ▸ further)
    · exact .inr ⟨same.trans sameToo, tieTrans sameToo tied tiedToo⟩

/-- What is left to compare by may be weakened. -/
theorem lexBy_imp {other : α -> α -> Bool}
    (tieImp : tie first second = true → other first second = true)
    (before : lexBy key tie first second = true) : lexBy key other first second = true := by
  rw [lexBy_iff] at before ⊢
  exact before.imp_right fun tied => ⟨tied.1, tieImp tied.2⟩

theorem lexBy_total (tieTotal : key first = key second →
      tie first second = true ∨ tie second first = true) :
    lexBy key tie first second = true ∨ lexBy key tie second first = true := by
  rw [lexBy_iff, lexBy_iff]
  rcases Nat.lt_trichotomy (key first) (key second) with below | same | above
  · exact .inl (.inl below)
  · rcases tieTotal same with tied | tied
    · exact .inl (.inr ⟨same, tied⟩)
    · exact .inr (.inr ⟨same.symm, tied⟩)
  · exact .inr (.inl above)

end LexBy

/-- Of two attributes one may follow the other in alphabetical order. -/
theorem inAlphabeticalOrder_total (left right : Attribute) :
    inAlphabeticalOrder left right = true ∨ inAlphabeticalOrder right left = true := by
  unfold inAlphabeticalOrder
  cases left.hasStaticName with
  | false => exact .inl rfl
  | true =>
    cases right.hasStaticName with
    | false => exact .inl rfl
    | true =>
      by_cases same : left.displayName = right.displayName
      · simp only [same, Bool.and_self, if_true]
        cases left.isBind <;> cases right.isBind <;> simp
      · simp only [same, Ne.symm same, Bool.and_self, if_true, if_false]
        exact precedes_of_ne same

/-- Alphabetical order is transitive among static names. -/
theorem inAlphabeticalOrder_trans {first second third : Attribute}
    (firstStatic : first.hasStaticName = true) (secondStatic : second.hasStaticName = true)
    (thirdStatic : third.hasStaticName = true) (before : inAlphabeticalOrder first second = true)
    (after : inAlphabeticalOrder second third = true) :
    inAlphabeticalOrder first third = true := by
  unfold inAlphabeticalOrder at before after ⊢
  simp only [firstStatic, secondStatic, thirdStatic, Bool.and_self, if_true] at before after ⊢
  by_cases same : first.displayName = second.displayName
  · by_cases sameToo : second.displayName = third.displayName
    · rw [if_pos same] at before
      rw [if_pos sameToo] at after
      rw [if_pos (same.trans sameToo)]
      cases binds : second.isBind <;> simp_all
    · rw [if_neg sameToo] at after
      rw [if_neg (same ▸ sameToo), same]
      exact after
  · rw [if_neg same] at before
    by_cases sameToo : second.displayName = third.displayName
    · rw [if_neg (sameToo ▸ same), ← sameToo]
      exact before
    · rw [if_neg sameToo] at after
      have further := precedes_trans before after
      rw [if_neg fun loop => ?_]
      · exact further
      · rw [loop, precedes_irrefl] at further
        cases further

namespace Policy

/-- What decides within one rank, qualifiers apart: the alphabet, if it counts. -/
def byAlphabet (policy : Policy) (previous current : Attribute) : Bool :=
  !policy.alphabetical || inAlphabeticalOrder previous current

/-- Plain attributes before bound ones, if that counts, and then the alphabet. -/
def byKind (policy : Policy) (previous current : Attribute) : Bool :=
  if policy.plainBeforeBound then
    lexBy (fun node : Attribute => node.directive.toNat) policy.byAlphabet previous current
  else policy.byAlphabet previous current

/-- The place of the qualifier that names an attribute; those that none names come last. -/
def pin (onTop : OnTop) (node : Attribute) : Nat := (onTop.index node).getD onTop.length

/-- What decides within the rank of the other attributes: their qualifiers, and without these their
kind and the alphabet. -/
def byPin (policy : Policy) (items : List Ranked) (previous current : Attribute) : Bool :=
  match policy.onTop with
  | none => policy.byKind previous current
  | some onTop =>
    let active := onTop.active policy.table.otherRank items
    lexBy (pin active)
      (fun previous current => (active.index previous).isNone && policy.byKind previous current)
      previous current

/-- What decides within one rank. -/
def withinRank (policy : Policy) (items : List Ranked) (previous current : Ranked) : Bool :=
  if some current.rank = policy.table.otherRank then
    policy.byPin items previous.node current.node
  else policy.byAlphabet previous.node current.node

variable {policy : Policy} {items : List Ranked}

theorem byRank_eq (policy : Policy) (previous current : Ranked) :
    policy.byRank previous current =
      lexBy Ranked.rank (fun previous current => policy.byAlphabet previous.node current.node)
        previous current := by
  rw [Bool.eq_iff_iff, lexBy_iff, byRank, byAlphabet]
  simp only [Bool.and_eq_true, Bool.or_eq_true, decide_eq_true_eq, Bool.not_eq_true',
    Bool.and_eq_false_iff, decide_eq_false_iff_not]
  constructor
  · rintro ⟨ranks, tie⟩
    by_cases same : previous.rank = current.rank
    · exact .inr ⟨same, tie.imp_left fun apart => apart.resolve_right (not_not_intro same)⟩
    · exact .inl (Nat.lt_of_le_of_ne ranks same)
  · rintro (below | ⟨same, tie⟩)
    · exact ⟨Nat.le_of_lt below, .inl (.inr (Nat.ne_of_lt below))⟩
    · exact ⟨Nat.le_of_eq same, tie.imp_left .inl⟩

theorem byBinding_eq (policy : Policy) (previous current : Attribute) :
    policy.byBinding previous current =
      lexBy (fun node : Attribute => node.directive.toNat) policy.byAlphabet previous current := by
  unfold byBinding lexBy byAlphabet
  rcases previous.directive.eq_false_or_eq_true with here | here <;>
    rcases current.directive.eq_false_or_eq_true with there | there <;> simp [here, there]

theorem index_lt_length {onTop : OnTop} {node : Attribute} {place : Nat}
    (found : onTop.index node = some place) : place < onTop.length :=
  (List.findIdx?_eq_some_iff_getElem.mp found).1

theorem allows_eq (onTop : OnTop) (otherwise : Bool) (previous current : Attribute) :
    onTop.allows otherwise previous current =
      lexBy (pin onTop) (fun previous _ => (onTop.index previous).isNone && otherwise)
        previous current := by
  rw [Bool.eq_iff_iff, lexBy_iff]
  unfold OnTop.allows pin
  cases before : onTop.index previous with
  | none =>
    cases after : onTop.index current with
    | none => simp
    | some place =>
      have bound := index_lt_length after
      simp
      omega
  | some place =>
    have bound := index_lt_length before
    cases after : onTop.index current with
    | none => simpa using bound
    | some other => simp

/-- Who may follow whom is decided by the rank and then within it. -/
theorem mayFollow_eq (policy : Policy) (items : List Ranked) (previous current : Ranked) :
    policy.mayFollow items previous current =
      lexBy Ranked.rank (policy.withinRank items) previous current := by
  have base : previous.rank = current.rank →
      (if policy.plainBeforeBound then policy.byBinding previous.node current.node
        else policy.byRank previous current) = policy.byKind previous.node current.node := by
    intro same
    rw [byBinding_eq, byRank_eq, byKind]
    split
    · rfl
    · simp [lexBy, same]
  unfold mayFollow
  by_cases tied : previous.rank = current.rank ∧ some current.rank = policy.table.otherRank
  · obtain ⟨same, other⟩ := tied
    have within : lexBy Ranked.rank (policy.withinRank items) previous current =
        policy.byPin items previous.node current.node := by
      simp [lexBy, same, withinRank, other]
    rw [if_pos (by simp [same, other]), base same, within]
    unfold byPin OnTop.adjust
    cases policy.onTop with
    | none => rfl
    | some onTop =>
      dsimp only
      rw [allows_eq]
      rfl
  · rw [if_neg (by simpa using tied), byRank_eq]
    rw [Bool.eq_iff_iff, lexBy_iff, lexBy_iff]
    refine or_congr_right (and_congr_right fun same => ?_)
    rw [withinRank, if_neg fun other => tied ⟨same, other⟩]

/-- Items that a policy can tell apart: no computed key among them where the alphabet counts, and no
qualifier that names two of the other attributes. -/
structure Decides (policy : Policy) (items : List Ranked) : Prop where
  static : policy.alphabetical = true → ∀ item ∈ items, item.node.hasStaticName = true
  pinned : items.Pairwise fun left right =>
    some left.rank = policy.table.otherRank → some right.rank = policy.table.otherRank →
      ∀ onTop, policy.onTop = some onTop → ∀ qualifier ∈ onTop,
        ¬ (qualifier.names left.node = true ∧ qualifier.names right.node = true)

theorem byAlphabet_total (policy : Policy) (left right : Attribute) :
    policy.byAlphabet left right = true ∨ policy.byAlphabet right left = true := by
  unfold byAlphabet
  cases policy.alphabetical with
  | false => exact .inl rfl
  | true => exact inAlphabeticalOrder_total left right

theorem byKind_total (policy : Policy) (left right : Attribute) :
    policy.byKind left right = true ∨ policy.byKind right left = true := by
  unfold byKind
  split
  · exact lexBy_total fun _ => policy.byAlphabet_total left right
  · exact policy.byAlphabet_total left right

/-- Two attributes at the same pin are not pinned, or one qualifier names both. -/
theorem index_eq_none_of_pin_eq {onTop : OnTop} {left right : Attribute}
    (same : pin onTop left = pin onTop right)
    (apart : ∀ qualifier ∈ onTop,
      ¬ (qualifier.names left = true ∧ qualifier.names right = true)) :
    onTop.index left = none ∧ onTop.index right = none := by
  unfold pin at same
  cases before : onTop.index left with
  | none =>
    cases after : onTop.index right with
    | none => exact ⟨rfl, rfl⟩
    | some place =>
      have bound := index_lt_length after
      rw [before, after, Option.getD_none, Option.getD_some] at same
      omega
  | some place =>
    have bound := index_lt_length before
    cases after : onTop.index right with
    | none =>
      rw [before, after, Option.getD_none, Option.getD_some] at same
      omega
    | some other =>
      rw [before, after, Option.getD_some, Option.getD_some] at same
      subst same
      obtain ⟨inside, leftNamed, -⟩ := List.findIdx?_eq_some_iff_getElem.mp before
      obtain ⟨_, rightNamed, _⟩ := List.findIdx?_eq_some_iff_getElem.mp after
      exact absurd ⟨leftNamed, rightNamed⟩ (apart _ (List.getElem_mem inside))

/-- Of two items one may follow the other if no qualifier names both. -/
theorem mayFollow_either {left right : Ranked}
    (apart : some left.rank = policy.table.otherRank → some right.rank = policy.table.otherRank →
      ∀ onTop, policy.onTop = some onTop → ∀ qualifier ∈ onTop,
        ¬ (qualifier.names left.node = true ∧ qualifier.names right.node = true)) :
    policy.mayFollow items left right = true ∨ policy.mayFollow items right left = true := by
  rw [mayFollow_eq, mayFollow_eq]
  refine lexBy_total fun same => ?_
  unfold withinRank
  by_cases other : some right.rank = policy.table.otherRank
  · rw [if_pos other, if_pos (same ▸ other)]
    unfold byPin
    cases pins : policy.onTop with
    | none => exact policy.byKind_total _ _
    | some onTop =>
      dsimp only
      refine lexBy_total fun samePin => ?_
      obtain ⟨leftFree, rightFree⟩ := index_eq_none_of_pin_eq samePin fun qualifier active =>
        apart (same ▸ other) other onTop pins qualifier (List.mem_filter.mp active).1
      simpa [leftFree, rightFree] using policy.byKind_total left.node right.node
  · rw [if_neg other, if_neg (same ▸ other)]
    exact policy.byAlphabet_total _ _

/-- Of any two items one may follow the other if no qualifier names two of them. -/
theorem mayFollow_total
    (pinned : items.Pairwise fun left right =>
      some left.rank = policy.table.otherRank → some right.rank = policy.table.otherRank →
        ∀ onTop, policy.onTop = some onTop → ∀ qualifier ∈ onTop,
          ¬ (qualifier.names left.node = true ∧ qualifier.names right.node = true)) :
    items.Pairwise fun left right =>
      policy.mayFollow items left right = true ∨ policy.mayFollow items right left = true :=
  pinned.imp mayFollow_either

/-- Of two items on which a policy decides, one may follow the other. -/
theorem Decides.total (decides : policy.Decides items) :
    items.Pairwise fun left right =>
      policy.mayFollow items left right = true ∨ policy.mayFollow items right left = true :=
  mayFollow_total decides.pinned

section Transitivity

variable {first second third : Ranked}

theorem byAlphabet_trans {first second third : Attribute}
    (static : policy.alphabetical = true → first.hasStaticName = true ∧
      second.hasStaticName = true ∧ third.hasStaticName = true)
    (before : policy.byAlphabet first second = true)
    (after : policy.byAlphabet second third = true) : policy.byAlphabet first third = true := by
  unfold byAlphabet at before after ⊢
  cases alphabetical : policy.alphabetical with
  | false => rfl
  | true =>
    obtain ⟨firstStatic, secondStatic, thirdStatic⟩ := static alphabetical
    rw [alphabetical] at before after
    exact inAlphabeticalOrder_trans firstStatic secondStatic thirdStatic before after

theorem byKind_trans {first second third : Attribute}
    (static : policy.alphabetical = true → first.hasStaticName = true ∧
      second.hasStaticName = true ∧ third.hasStaticName = true)
    (before : policy.byKind first second = true) (after : policy.byKind second third = true) :
    policy.byKind first third = true := by
  unfold byKind at before after ⊢
  split
  · rename_i apart
    rw [if_pos apart] at before after
    exact lexBy_trans (fun _ => byAlphabet_trans static) before after
  · rename_i together
    rw [if_neg together] at before after
    exact byAlphabet_trans static before after

/-- What may follow an item that may follow another may follow that one, if the names are known. -/
theorem mayFollow_trans
    (static : policy.alphabetical = true → first.node.hasStaticName = true ∧
      second.node.hasStaticName = true ∧ third.node.hasStaticName = true)
    (before : policy.mayFollow items first second = true)
    (after : policy.mayFollow items second third = true) :
    policy.mayFollow items first third = true := by
  rw [mayFollow_eq] at before after ⊢
  refine lexBy_trans (fun same tied tiedToo => ?_) before after
  unfold withinRank at tied tiedToo ⊢
  rw [same] at tied
  split
  · rename_i other
    rw [if_pos other] at tied tiedToo
    unfold byPin at tied tiedToo ⊢
    cases pins : policy.onTop with
    | none =>
      rw [pins] at tied tiedToo
      exact byKind_trans static tied tiedToo
    | some onTop =>
      rw [pins] at tied tiedToo
      dsimp only at tied tiedToo ⊢
      refine lexBy_trans (fun _ free freeToo => ?_) tied tiedToo
      rw [Bool.and_eq_true] at free freeToo ⊢
      exact ⟨free.1, byKind_trans static free.2 freeToo.2⟩
  · rename_i plain
    rw [if_neg plain] at tied tiedToo
    exact byAlphabet_trans static tied tiedToo

end Transitivity

/-- Among items on which a policy decides, who may follow whom is transitive. -/
theorem Decides.trans (decides : policy.Decides items) {first second third : Ranked}
    (firstMember : first ∈ items) (secondMember : second ∈ items) (thirdMember : third ∈ items)
    (before : policy.mayFollow items first second = true)
    (after : policy.mayFollow items second third = true) :
    policy.mayFollow items first third = true :=
  mayFollow_trans (fun alphabetical =>
    ⟨decides.static alphabetical first firstMember, decides.static alphabetical second secondMember,
      decides.static alphabetical third thirdMember⟩) before after

end Policy

end TagOrder
