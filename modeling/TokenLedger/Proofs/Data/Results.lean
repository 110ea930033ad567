/-
This file collects what a result says about the steps that led to it: a sequence of steps succeeds
if each of them does, one after the other, and a loop of checks passes if every check does. A result
that fails does so with a reason that one of the steps has given.
-/

import Mathlib

namespace TokenLedger

/-- A sequence that succeeds has a first step that does. -/
theorem bind_eq_ok {ε α β : Type} {first : Except ε α} {next : α → Except ε β} {result : β}
    (run : first >>= next = .ok result) :
    ∃ value, first = .ok value ∧ next value = .ok result := by
  cases first with
  | error reason => cases run
  | ok value => exact ⟨value, rfl, run⟩

theorem map_eq_ok {ε α β : Type} {result : Except ε α} {change : α → β} {value : β}
    (run : result.map change = .ok value) :
    ∃ before, result = .ok before ∧ change before = value := by
  cases result with
  | error reason => cases run
  | ok before => exact ⟨before, rfl, Except.ok.inj run⟩

theorem toOption_eq_some {ε α : Type} {result : Except ε α} {value : α}
    (found : result.toOption = some value) : result = .ok value := by
  cases result with
  | error reason => cases found
  | ok other => exact congrArg Except.ok (Option.some.inj found)

theorem mapM_map_eq_ok {ε α β γ : Type} {written : α → β} {read : β → Except ε γ} {found : α → γ}
    (readBack : ∀ value, read (written value) = .ok (found value)) (values : List α) :
    (values.map written).mapM read = .ok (values.map found) := by
  induction values with
  | nil => rfl
  | cons value rest inductionHypothesis =>
    rw [List.map_cons, List.mapM_cons, readBack, inductionHypothesis]
    rfl

/-- A guard that passes has not found what it looks for. -/
theorem ite_error_eq_ok_iff {ε α : Type} {condition : Prop} [Decidable condition] {reason : ε}
    {rest : Except ε α} {value : α} :
    (if condition then .error reason else rest) = .ok value ↔ ¬ condition ∧ rest = .ok value := by
  split
  next found => simp [found]
  next absent => simp [absent]

/-- A guard comes before any change of the result. -/
theorem map_ite_error {ε α β : Type} {condition : Prop} [Decidable condition] {reason : ε}
    {rest : Except ε α} (change : α → β) :
    (if condition then .error reason else rest).map change =
      if condition then .error reason else rest.map change := by
  split <;> rfl

/-- A loop of checks passes if every check does. -/
theorem for_eq_ok_iff {ε α : Type} (check : α → Except ε Unit) (items : List α) :
    (do for item in items do check item : Except ε Unit) = .ok () ↔
      ∀ item ∈ items, check item = .ok () := by
  induction items with
  | nil => simp [pure, Except.pure, bind, Except.bind]
  | cons item rest inductionHypothesis =>
    rw [List.forIn_cons]
    cases checked : check item with
    | error flaw => simp [bind, Except.bind, checked]
    | ok value =>
      simp only [bind, Except.bind, pure, Except.pure] at inductionHypothesis ⊢
      simp [inductionHypothesis, checked]

theorem mapError_eq_ok_iff {ε δ α : Type} {relabel : ε → δ} {result : Except ε α} {value : α} :
    result.mapError relabel = .ok value ↔ result = .ok value := by
  cases result <;> simp [Except.mapError]

/-! ### What a result fails with -/

/-- If the result is an error, it is one of those that are expected. -/
def FailsOnlyWith {ε α : Type} (expected : ε → Prop) (result : Except ε α) : Prop :=
  ∀ reason, result = .error reason → expected reason

namespace FailsOnlyWith

variable {ε α β : Type} {expected : ε → Prop}

theorem ok (value : α) : FailsOnlyWith expected (.ok value) := by
  intro reason same
  cases same

theorem error {reason : ε} (isExpected : expected reason) :
    FailsOnlyWith expected (.error reason : Except ε α) := by
  intro other same
  cases same
  exact isExpected

theorem bind {first : Except ε α} {next : α → Except ε β} (fails : FailsOnlyWith expected first)
    (failsNext : ∀ value, FailsOnlyWith expected (next value)) :
    FailsOnlyWith expected (first >>= next) := by
  cases first with
  | error reason => exact error (fails reason rfl)
  | ok value => exact failsNext value

theorem ite {condition : Prop} [Decidable condition] {yes no : Except ε α}
    (failsYes : FailsOnlyWith expected yes) (failsNo : FailsOnlyWith expected no) :
    FailsOnlyWith expected (if condition then yes else no) := by
  split
  · exact failsYes
  · exact failsNo

theorem mapError {δ : Type} {result : Except δ α} {relabel : δ → ε}
    (relabelled : ∀ reason, expected (relabel reason)) :
    FailsOnlyWith expected (result.mapError relabel) := by
  cases result with
  | error reason => exact error (relabelled reason)
  | ok value => exact ok value

theorem mapM {read : α → Except ε β} (fails : ∀ item, FailsOnlyWith expected (read item))
    (items : List α) : FailsOnlyWith expected (items.mapM read) := by
  induction items with
  | nil => exact ok []
  | cons item rest inductionHypothesis =>
    rw [List.mapM_cons]
    exact (fails item).bind fun value => inductionHypothesis.bind fun values => ok (value :: values)

theorem forIn (check : α → Except ε Unit) (fails : ∀ item, FailsOnlyWith expected (check item))
    (items : List α) :
    FailsOnlyWith expected (do for item in items do check item : Except ε Unit) := by
  induction items with
  | nil => exact ok ()
  | cons item rest inductionHypothesis =>
    rw [List.forIn_cons]
    cases checked : check item with
    | error reason => exact error (fails item reason checked)
    | ok value => exact inductionHypothesis

end FailsOnlyWith

end TokenLedger
