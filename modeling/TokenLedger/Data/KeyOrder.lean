/-
The order in which the ledger lists things. Bytes are ordered by value, lists lexicographically,
and texts by their UTF-8 bytes, so that a listing by symbol and a listing by stored key agree.
-/

import TokenLedger.Data.Bytes

namespace TokenLedger

/-- A strict linear order that can be decided. -/
class KeyOrder (κ : Type) where
  /-- Whether the first key is listed before the second. -/
  before : κ → κ → Bool
  irrefl : ∀ key, before key key = false
  trans : ∀ first second third,
    before first second = true → before second third = true → before first third = true
  connected : ∀ first second, first ≠ second →
    before first second = true ∨ before second first = true

namespace KeyOrder

/-- Of two keys listed one before the other, the converse does not hold. -/
theorem asymm {κ : Type} [KeyOrder κ] {first second : κ} (ordered : before first second = true) :
    before second first = false := by
  cases converse : before second first with
  | false => rfl
  | true =>
    have loop := trans _ _ _ ordered converse
    rw [irrefl] at loop
    contradiction

theorem ne_of_before {κ : Type} [KeyOrder κ] {first second : κ}
    (ordered : before first second = true) : first ≠ second := by
  rintro rfl
  rw [irrefl] at ordered
  contradiction

instance : KeyOrder UInt8 where
  before first second := decide (first < second)
  irrefl key := by simp
  trans first second third := by
    simp only [decide_eq_true_eq]
    exact UInt8.lt_trans
  connected first second distinct := by
    simp only [decide_eq_true_eq]
    rcases UInt8.lt_or_le first second with less | notLess
    · exact .inl less
    · exact .inr (UInt8.lt_of_le_of_ne notLess fun same => distinct same.symm)

instance : KeyOrder UInt64 where
  before first second := decide (first < second)
  irrefl key := by simp
  trans first second third := by
    simp only [decide_eq_true_eq]
    exact UInt64.lt_trans
  connected first second distinct := by
    simp only [decide_eq_true_eq]
    rcases UInt64.lt_or_le first second with less | notLess
    · exact .inl less
    · exact .inr (UInt64.lt_of_le_of_ne notLess fun same => distinct same.symm)

/-- The lexicographic order: a list comes before its extensions, and otherwise the first
difference decides. -/
def beforeList {κ : Type} [KeyOrder κ] : List κ → List κ → Bool
  | [], [] => false
  | [], _ :: _ => true
  | _ :: _, [] => false
  | first :: firsts, second :: seconds =>
    before first second || (!before second first && beforeList firsts seconds)

/-- With equal heads the tails decide. -/
theorem beforeList_cons_self {κ : Type} [KeyOrder κ] (head : κ) (firsts seconds : List κ) :
    beforeList (head :: firsts) (head :: seconds) = beforeList firsts seconds := by
  simp [beforeList, irrefl]

/-- With different heads the heads decide. -/
theorem beforeList_cons_of_ne {κ : Type} [KeyOrder κ] {first second : κ} (distinct : first ≠ second)
    (firsts seconds : List κ) :
    beforeList (first :: firsts) (second :: seconds) = before first second := by
  rcases connected first second distinct with ordered | ordered
  · simp [beforeList, ordered]
  · simp [beforeList, ordered, asymm ordered]

theorem beforeList_irrefl {κ : Type} [KeyOrder κ] (keys : List κ) :
    beforeList keys keys = false := by
  induction keys with
  | nil => rfl
  | cons head tail inductionHypothesis => rw [beforeList_cons_self, inductionHypothesis]

theorem beforeList_trans {κ : Type} [KeyOrder κ] (first second third : List κ) :
    beforeList first second = true → beforeList second third = true →
      beforeList first third = true := by
  induction first generalizing second third with
  | nil =>
    cases second <;> cases third <;> simp [beforeList]
  | cons a first inductionHypothesis =>
    cases second with
    | nil => simp [beforeList]
    | cons b second =>
      cases third with
      | nil => simp [beforeList]
      | cons c third =>
        intro left right
        by_cases ab : a = b
        · subst ab
          rw [beforeList_cons_self] at left
          by_cases ac : a = c
          · subst ac
            rw [beforeList_cons_self] at right ⊢
            exact inductionHypothesis _ _ left right
          · rw [beforeList_cons_of_ne ac] at right ⊢
            exact right
        · rw [beforeList_cons_of_ne ab] at left
          by_cases bc : b = c
          · subst bc
            rw [beforeList_cons_of_ne ab]
            exact left
          · rw [beforeList_cons_of_ne bc] at right
            have ac := trans _ _ _ left right
            rw [beforeList_cons_of_ne (ne_of_before ac)]
            exact ac

theorem beforeList_connected {κ : Type} [KeyOrder κ] (first second : List κ) :
    first ≠ second → beforeList first second = true ∨ beforeList second first = true := by
  induction first generalizing second with
  | nil =>
    cases second <;> simp [beforeList]
  | cons a first inductionHypothesis =>
    cases second with
    | nil => simp [beforeList]
    | cons b second =>
      intro distinct
      by_cases ab : a = b
      · subst ab
        rw [beforeList_cons_self, beforeList_cons_self]
        exact inductionHypothesis _ fun same => distinct (by rw [same])
      · rw [beforeList_cons_of_ne ab, beforeList_cons_of_ne fun same => ab same.symm]
        exact connected a b ab

instance {κ : Type} [KeyOrder κ] : KeyOrder (List κ) where
  before := beforeList
  irrefl := beforeList_irrefl
  trans := beforeList_trans
  connected := beforeList_connected

/-- Texts are listed by their UTF-8 bytes. -/
instance : KeyOrder String where
  before first second := before (utf8 first) (utf8 second)
  irrefl key := irrefl (utf8 key)
  trans first second third := trans (utf8 first) (utf8 second) (utf8 third)
  connected first second distinct :=
    connected (utf8 first) (utf8 second) fun same => distinct (utf8_injective same)

end KeyOrder

end TokenLedger
