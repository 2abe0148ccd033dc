import TagOrder.Proofs.Template.Segment

/-!
# Which templates give messages

A template is filled in piece by piece, and the first piece that cannot be filled decides
(`Template.fill_eq_ok_iff`, `Template.fill_eq_error_iff`). When it asks for what is not there the
standard message stands in; any other fault of it, of form or of use, leaves no message. So a check
comes to its end exactly when no message that it needs meets such a fault first
(`Rule.check_answers`). A template with a lone brace does (`Rule.check_loneOpen`).
-/

namespace TagOrder

namespace Template

/-- What a piece puts into a message, where `expand` fills the shapes that hold braces. -/
def fillPiece (expand : Text -> Except FillError Text) (keys : MessageKeys) :
    TemplatePiece -> Except FillError Text
  | .literal c => .ok [c]
  | .fault fault => .error (.fault fault)
  | .field field => do
    let item ← fieldItem keys field
    let shape ← if '\x7b' ∈ field.shape then expand field.shape else pure field.shape
    (shaped shape item).mapError .fault

/-- What the pieces of a template put into a message, one by one. -/
def parts (template : Text) (keys : MessageKeys) : List (Except FillError Text) :=
  (piecesOf template).map (fillPiece (fillWithin keys 1) keys)

/-- A message that a template gives: what its pieces put in, one after another, or the standard
message when the first that puts nothing in asks for what is not there. -/
inductive Gives (template : Text) (keys : MessageKeys) : Text -> Prop where
  | filled {texts : List Text} (each : parts template keys = texts.map .ok) :
      Gives template keys texts.flatten
  | standing (missing : FirstError (parts template keys) .missing) :
      Gives template keys (standardMessage keys)

section Pieces

variable {expand : Text -> Except FillError Text} {keys : MessageKeys}

/-- The first piece is filled before the rest. -/
theorem fillPieces_cons (piece : TemplatePiece) (rest : List TemplatePiece) :
    fillPieces expand keys (piece :: rest) =
      fillPiece expand keys piece >>= fun text =>
        (fillPieces expand keys rest).map (text ++ ·) := by
  cases piece with
  | literal c =>
    rw [fillPieces]
    cases fillPieces expand keys rest <;> rfl
  | fault fault => rfl
  | field field =>
    have others : ∀ text, (do return text ++ (← fillPieces expand keys rest)) =
        (fillPieces expand keys rest).map (text ++ ·) := by
      intro text
      cases fillPieces expand keys rest <;> rfl
    simp only [fillPieces, fillPiece, others, bind_assoc]
    refine bind_congr fun item => ?_
    split <;> simp only [bind_assoc]

/-- Pieces are filled when each of them is. -/
theorem fillPieces_eq_ok_iff {pieces : List TemplatePiece} {text : Text} :
    fillPieces expand keys pieces = .ok text ↔
      ∃ texts : List Text, pieces.map (fillPiece expand keys) = texts.map .ok ∧
        text = texts.flatten := by
  induction pieces generalizing text with
  | nil =>
    simp only [fillPieces, Except.ok.injEq, List.map_nil, List.nil_eq, List.map_eq_nil_iff,
      exists_eq_left, List.flatten_nil]
  | cons piece rest ih =>
    simp only [fillPieces_cons, bind_eq_ok_iff, map_eq_ok_iff, ih, List.map_cons]
    constructor
    · rintro ⟨first, here, _, ⟨texts, later, rfl⟩, rfl⟩
      exact ⟨first :: texts, by rw [here, later, List.map_cons], rfl⟩
    · rintro ⟨texts, each, rfl⟩
      obtain ⟨first, texts, rfl, here, later⟩ := List.map_eq_cons_iff.mp each.symm
      exact ⟨first, here.symm, _, ⟨texts, later.symm, rfl⟩, rfl⟩

/-- Pieces cannot be filled when one of them cannot, and the first such piece says why. -/
theorem fillPieces_eq_error_iff {pieces : List TemplatePiece} {error : FillError} :
    fillPieces expand keys pieces = .error error ↔
      FirstError (pieces.map (fillPiece expand keys)) error := by
  induction pieces with
  | nil =>
    rw [List.map_nil, iff_false_right not_firstError_nil]
    nofun
  | cons piece rest ih =>
    rw [fillPieces_cons, bind_eq_error_iff, List.map_cons]
    simp only [map_eq_error_iff, ih]
    cases fillPiece expand keys piece with
    | ok text => simp [firstError_cons_ok]
    | error first => simp [firstError_cons_error]

end Pieces

section Message

variable {template : Text} {keys : MessageKeys}

theorem fill_eq_ok_iff {text : Text} :
    fill template keys = .ok text ↔
      ∃ texts : List Text, parts template keys = texts.map .ok ∧ text = texts.flatten :=
  fillPieces_eq_ok_iff

theorem fill_eq_error_iff {error : FillError} :
    fill template keys = .error error ↔ FirstError (parts template keys) error :=
  fillPieces_eq_error_iff

theorem message_eq_ok_iff {text : Text} :
    message template keys = .ok text ↔ Gives template keys text := by
  unfold message
  constructor
  · intro given
    split at given
    · rename_i filled
      obtain rfl := Except.ok.inj given
      obtain ⟨texts, each, rfl⟩ := fill_eq_ok_iff.mp filled
      exact .filled each
    · rename_i missing
      obtain rfl := Except.ok.inj given
      exact .standing (fill_eq_error_iff.mp missing)
    · cases given
  · intro gives
    cases gives with
    | filled each => rw [fill_eq_ok_iff.mpr ⟨_, each, rfl⟩]
    | standing missing => rw [fill_eq_error_iff.mpr missing]

theorem message_eq_error_iff {fault : TemplateFault} :
    message template keys = .error fault ↔ FirstError (parts template keys) (.fault fault) := by
  rw [← fill_eq_error_iff]
  unfold message
  constructor
  · intro failed
    split at failed
    · cases failed
    · cases failed
    · rename_i faulty
      obtain rfl := Except.error.inj failed
      exact faulty
  · intro faulty
    rw [faulty]

/-- There is a message unless a fault comes first. -/
theorem exists_message_iff :
    (∃ text, message template keys = .ok text) ↔
      ∀ fault, ¬ FirstError (parts template keys) (.fault fault) := by
  simp only [← message_eq_error_iff]
  cases message template keys with
  | ok text => simp
  | error fault => simp

/-- A template that is written from segments is at no fault. -/
theorem exists_message_written (segments : List Segment) (keys : MessageKeys) :
    ∃ text, message (written segments) keys = .ok text := by
  refine exists_message_iff.mpr fun fault faulty => ?_
  have filled := fill_written keys segments
  rw [fill_eq_error_iff.mpr faulty] at filled
  split at filled <;> cases filled

end Message

end Template

namespace Rule

variable {rule : Rule} {tag : Tag}

/-- Messages are built when each of them can be. -/
theorem exists_messages_iff {keys : List MessageKeys} :
    (∃ texts, rule.messages keys = .ok texts) ↔
      ∀ each ∈ keys, ∃ text, Template.message rule.template each = .ok text := by
  induction keys with
  | nil => simp [messages]
  | cons first rest ih =>
    rw [List.forall_mem_cons, ← ih, messages]
    cases Template.message rule.template first with
    | error fault => simp
    | ok text => cases rule.messages rest <;> simp

/-- A check comes to its end when the message of each inversion can be built. -/
theorem exists_check_iff :
    (∃ violations, rule.check tag = .ok violations) ↔
      ∀ inversion ∈ rule.options.policy.inversions tag.attributes,
        ∃ text, Template.message rule.template inversion.keys = .ok text := by
  refine Iff.trans ?_ (exists_messages_iff.trans List.forall_mem_map)
  rw [check_eq]
  cases rule.messages ((rule.options.policy.inversions tag.attributes).map Inversion.keys) with
  | error fault => simp [Except.map]
  | ok texts => simp [Except.map]

/-- Which messages are built and which checks come to their end, whatever the template. The message
for two keys is what the pieces of the template put in one after another, or the standard one when
the first piece that cannot be filled asks for what is not there; when that piece is at fault there
is none. A check comes to its end exactly when it meets no such fault, as it does under every
template that is written from literal text and fields with nothing but a name. -/
theorem check_answers (rule : Rule) :
    (∀ keys text, Template.message rule.template keys = .ok text ↔
        Template.Gives rule.template keys text) ∧
      (∀ keys fault, Template.message rule.template keys = .error fault ↔
        FirstError (Template.parts rule.template keys) (.fault fault)) ∧
      (∀ tag, (∃ violations, rule.check tag = .ok violations) ↔
        ∀ inversion ∈ rule.options.policy.inversions tag.attributes, ∀ fault,
          ¬ FirstError (Template.parts rule.template inversion.keys) (.fault fault)) ∧
      ∀ segments tag, ∃ violations,
        ({ rule with template := Template.written segments } : Rule).check tag =
          .ok violations := by
  refine ⟨fun keys text => Template.message_eq_ok_iff,
    fun keys fault => Template.message_eq_error_iff, fun tag => ?_, fun segments tag => ?_⟩
  · rw [exists_check_iff]
    exact forall₂_congr fun inversion _ => Template.exists_message_iff
  · exact exists_check_iff.mpr fun inversion _ =>
      Template.exists_message_written segments inversion.keys

/-- A tag with an attribute that should stand in front of another. -/
def swappedTag : Tag where
  name := "a"
  attributes :=
    [{ name := "class", keyText := "class".toList }, { name := "id", keyText := "id".toList }]

/-- A lone brace gives no message, and no check comes to its end that needs one. -/
theorem check_loneOpen :
    Template.message ['\x7b'] ⟨"id".toList, "class".toList⟩ = .error .loneOpen ∧
      check { template := ['\x7b'] } swappedTag = .error .loneOpen ∧
      ∃ violation, check {} swappedTag = .ok [violation] := by
  have failed : error? (check { template := ['\x7b'] } swappedTag) = some .loneOpen := by
    decide +kernel
  have inversions : ((check {} swappedTag).toOption.map List.length) = some 1 := by decide +kernel
  obtain ⟨violations, checked, length⟩ := Option.map_eq_some_iff.mp inversions
  obtain ⟨violation, rfl⟩ := List.length_eq_one_iff.mp length
  exact ⟨rfl, eq_error_of_error? failed, violation, eq_ok_of_toOption checked⟩

end Rule

end TagOrder
