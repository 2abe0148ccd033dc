import TagOrder.Proofs.Rule.Check

/-!
# The standard message

The standard template can be filled with any two keys (`Template.message_standard`). So a check
under it always comes to its end (`Rule.check_standard`): only a template of a registry can be at
fault.
-/

namespace TagOrder

namespace Template

variable (expand : Text -> Except FillError Text) (keys : MessageKeys)

/-- The pieces of a text without fields. -/
def literals (text : Text) : List TemplatePiece := text.map .literal

/-- The field of a template that is put in as it is. -/
def bareField (name : Text) : TemplatePiece := .field { name, conversion := none, shape := [] }

theorem fillPieces_literals_append (text : Text) (rest : List TemplatePiece) :
    fillPieces expand keys (literals text ++ rest) =
      (fillPieces expand keys rest).map (text ++ ·) := by
  induction text with
  | nil =>
    rw [literals, List.map_nil, List.nil_append]
    cases fillPieces expand keys rest <;> rfl
  | cons c text ih =>
    rw [literals] at ih ⊢
    rw [List.map_cons, List.cons_append, fillPieces, ih]
    cases fillPieces expand keys rest <;> rfl

theorem fillPieces_cons_bareField {name key : Text} (found : fieldItem keys
      { name, conversion := none, shape := [] } = .ok (.text key)) (rest : List TemplatePiece) :
    fillPieces expand keys (bareField name :: rest) =
      (fillPieces expand keys rest).map (key ++ ·) := by
  rw [bareField, fillPieces, found]
  cases fillPieces expand keys rest <;> rfl

theorem fieldItem_current : fieldItem keys
    { name := "current".toList, conversion := none, shape := [] } = .ok (.text keys.current) := rfl

theorem fieldItem_previous : fieldItem keys
    { name := "previous".toList, conversion := none, shape := [] } = .ok (.text keys.previous) :=
  rfl

/-- A template with its two fields put in as they are. -/
theorem fillPieces_framed (lead middle tail : Text) :
    fillPieces expand keys (literals lead ++ bareField "current".toList ::
        (literals middle ++ bareField "previous".toList :: (literals tail ++ []))) =
      .ok (lead ++ keys.current ++ middle ++ keys.previous ++ tail) := by
  rw [fillPieces_literals_append, fillPieces_cons_bareField _ _ (fieldItem_current keys),
    fillPieces_literals_append, fillPieces_cons_bareField _ _ (fieldItem_previous keys),
    fillPieces_literals_append, fillPieces]
  simp only [Except.map, List.append_nil, List.append_assoc]

theorem piecesOf_standard :
    piecesOf standard =
      literals "Attribute \"".toList ++ bareField "current".toList ::
        (literals "\" should go before \"".toList ++ bareField "previous".toList ::
          (literals "\".".toList ++ [])) := rfl

/-- The standard template gives the standard message. -/
theorem message_standard : message standard keys = .ok (standardMessage keys) := by
  have filled : fill standard keys = .ok (standardMessage keys) :=
    (congrArg (fillPieces (fillWithin keys 1) keys) piecesOf_standard).trans
      (fillPieces_framed _ keys _ _ _)
  rw [message.eq_1, filled]

end Template

/-- A check under the standard template comes to its end. -/
theorem Rule.check_standard {rule : Rule} (standard : rule.template = Template.standard)
    (tag : Tag) : ∃ violations, rule.check tag = .ok violations := by
  cases checked : rule.check tag with
  | ok violations => exact ⟨violations, rfl⟩
  | error fault =>
    obtain ⟨node, -, previous, -, failed⟩ := Rule.exists_of_check_eq_error checked
    rw [standard, Template.message_standard] at failed
    cases failed

end TagOrder
