import Mathlib.Data.List.Forall2

/-!
# Answers with errors

How an answer that may be an error is taken apart: into the steps that gave it, or into what a
computed part of it says about the whole.
-/

namespace TagOrder

/-- A step that may fail gives a result when it does not fail and the rest gives that result. -/
theorem bind_eq_ok_iff {ε α β : Type} {answer : Except ε α} {next : α -> Except ε β} {result : β} :
    answer >>= next = .ok result ↔ ∃ value, answer = .ok value ∧ next value = .ok result := by
  cases answer with
  | error fault => simp [bind, Except.bind]
  | ok value => simp [bind, Except.bind]

/-- A step that may fail ends in an error when it fails or the rest does. -/
theorem bind_eq_error_iff {ε α β : Type} {answer : Except ε α} {next : α -> Except ε β}
    {error : ε} :
    answer >>= next = .error error ↔
      answer = .error error ∨ ∃ value, answer = .ok value ∧ next value = .error error := by
  cases answer with
  | error fault => simp [bind, Except.bind]
  | ok value => simp [bind, Except.bind]

/-- A changed result. -/
theorem map_eq_ok_iff {ε α β : Type} {answer : Except ε α} {change : α -> β} {result : β} :
    answer.map change = .ok result ↔ ∃ value, answer = .ok value ∧ change value = result := by
  cases answer with
  | error fault => simp [Except.map]
  | ok value => simp [Except.map]

theorem map_eq_error_iff {ε α β : Type} {answer : Except ε α} {change : α -> β} {error : ε} :
    answer.map change = .error error ↔ answer = .error error := by
  cases answer with
  | error fault => simp [Except.map]
  | ok value => simp [Except.map]

theorem eq_ok_of_toOption {ε α : Type} {value : Except ε α} {inner : α}
    (found : value.toOption = some inner) : value = .ok inner := by
  cases value with
  | error error => cases found
  | ok other => exact congrArg Except.ok (Option.some.inj found)

/-- The error that an answer is. -/
def error? {ε α : Type} (answer : Except ε α) : Option ε :=
  match answer with
  | .ok _ => none
  | .error error => some error

theorem eq_error_of_error? {ε α : Type} {answer : Except ε α} {error : ε}
    (found : error? answer = some error) : answer = .error error := by
  cases answer with
  | ok value => cases found
  | error other => exact congrArg Except.error (Option.some.inj found)

/-- The first error among some answers. -/
def FirstError {ε α : Type} (answers : List (Except ε α)) (error : ε) : Prop :=
  ∃ before after, answers = before ++ .error error :: after ∧
    ∀ answer ∈ before, ∃ value, answer = .ok value

theorem not_firstError_nil {ε α : Type} {error : ε} :
    ¬ FirstError ([] : List (Except ε α)) error := by
  rintro ⟨before, after, same, -⟩
  simp at same

/-- The first error of answers that start with a result is that of the rest. -/
theorem firstError_cons_ok {ε α : Type} {answers : List (Except ε α)} {value : α} {error : ε} :
    FirstError (.ok value :: answers) error ↔ FirstError answers error := by
  constructor
  · rintro ⟨before, after, same, fine⟩
    cases before with
    | nil => cases same
    | cons answer before =>
      exact ⟨before, after, (List.cons.inj same).2, (List.forall_mem_cons.mp fine).2⟩
  · rintro ⟨before, after, rfl, fine⟩
    exact ⟨.ok value :: before, after, rfl, List.forall_mem_cons.mpr ⟨⟨value, rfl⟩, fine⟩⟩

/-- An error that comes first is the first one. -/
theorem firstError_cons_error {ε α : Type} {answers : List (Except ε α)} {first error : ε} :
    FirstError (.error first :: answers) error ↔ first = error := by
  constructor
  · rintro ⟨before, after, same, fine⟩
    cases before with
    | nil => exact Except.error.inj (List.cons.inj same).1
    | cons answer before =>
      obtain rfl := (List.cons.inj same).1
      obtain ⟨value, result⟩ := fine _ List.mem_cons_self
      cases result
  · rintro rfl
    exact ⟨[], answers, rfl, nofun⟩

/-- Every item of a list has a result when there is a list of results for them. -/
theorem exists_forall₂_iff {α β : Type} {relation : α -> β -> Prop} {items : List α} :
    (∃ results, List.Forall₂ relation items results) ↔
      ∀ item ∈ items, ∃ result, relation item result := by
  induction items with
  | nil => simp
  | cons item rest ih =>
    rw [List.forall_mem_cons, ← ih]
    constructor
    · rintro ⟨_, related⟩
      obtain ⟨result, results, here, others, -⟩ := List.forall₂_cons_left_iff.mp related
      exact ⟨⟨result, here⟩, results, others⟩
    · rintro ⟨⟨result, here⟩, results, others⟩
      exact ⟨result :: results, .cons here others⟩

/-- Related lists are related place by place. -/
theorem exists_getElem?_of_forall₂ {α β : Type} {relation : α -> β -> Prop} {items : List α}
    {results : List β} (related : List.Forall₂ relation items results) {place : Nat} {item : α}
    (stands : items[place]? = some item) :
    ∃ result, results[place]? = some result ∧ relation item result := by
  induction related generalizing place with
  | nil => cases stands
  | cons here _ ih =>
    cases place with
    | zero =>
      obtain rfl := Option.some.inj stands
      exact ⟨_, rfl, here⟩
    | succ place => exact ih stands

end TagOrder
