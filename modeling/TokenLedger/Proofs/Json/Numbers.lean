/-
This file proves that the digits of a number are read back, if what follows them does not go on with
a number, and that the digits of a word are read as that word.
-/

import Mathlib
import TokenLedger.Json.Reader

namespace TokenLedger.Json

/-- What follows does not go on with a number. -/
def EndsNumber (rest : List Char) : Prop :=
  ∀ char ∈ rest.head?, char.isDigit = false ∧ char ≠ '.' ∧ char ≠ 'e' ∧ char ≠ 'E'

theorem endsNumber_nil : EndsNumber [] := by
  intro char member
  cases member

theorem endsNumber_cons {char : Char} (notDigit : char.isDigit = false) (notPoint : char ≠ '.')
    (notExponent : char ≠ 'e' ∧ char ≠ 'E') (rest : List Char) : EndsNumber (char :: rest) := by
  intro other member
  cases member
  exact ⟨notDigit, notPoint, notExponent⟩

theorem EndsNumber.takeWhile_eq {rest : List Char} (ends : EndsNumber rest) :
    rest.takeWhile Char.isDigit = [] := by
  cases rest with
  | nil => rfl
  | cons char others => rw [List.takeWhile_cons_of_neg (by simp [(ends char rfl).1])]

theorem EndsNumber.dropWhile_eq {rest : List Char} (ends : EndsNumber rest) :
    rest.dropWhile Char.isDigit = rest := by
  cases rest with
  | nil => rfl
  | cons char others => rw [List.dropWhile_cons_of_neg (by simp [(ends char rfl).1])]

theorem readDigits_append {digits rest : List Char} (nonempty : digits ≠ [])
    (allDigits : ∀ digit ∈ digits, digit.isDigit = true) (ends : EndsNumber rest) :
    readDigits (digits ++ rest) = some (digits, rest) := by
  rw [readDigits, List.takeWhile_append_of_pos allDigits, List.dropWhile_append_of_pos allDigits,
    ends.takeWhile_eq, ends.dropWhile_eq, List.append_nil, if_neg nonempty]

theorem readFraction_of_ends {rest : List Char} (ends : EndsNumber rest) :
    readFraction rest = some (none, rest) := by
  cases rest with
  | nil => rfl
  | cons char others =>
    have notPoint := (ends char rfl).2.1
    rw [readFraction.eq_def]
    split
    next point =>
      cases point
      exact absurd rfl notPoint
    next => rfl

theorem readExponent_of_ends {rest : List Char} (ends : EndsNumber rest) :
    readExponent rest = some (none, rest) := by
  cases rest with
  | nil => rfl
  | cons char others =>
    have notExponent : ¬ (char = 'e' ∨ char = 'E') :=
      fun exponent => exponent.elim (ends char rfl).2.2.1 (ends char rfl).2.2.2
    rw [readExponent.eq_def]
    exact if_neg notExponent

theorem isDigit_of_mem_toDigits {number : Nat} :
    ∀ digit ∈ Nat.toDigits 10 number, digit.isDigit = true :=
  fun _ member => Nat.isDigit_of_mem_toDigits (by decide) (by decide) member

/-- Only zero is written with a leading zero. -/
theorem head?_toDigits {number : Nat} (leading : (Nat.toDigits 10 number).head? = some '0') :
    Nat.toDigits 10 number = ['0'] := by
  induction number using Nat.strongRecOn with
  | ind number inductionHypothesis =>
    by_cases small : number < 10
    · rw [Nat.toDigits_of_lt_base small] at leading ⊢
      rw [List.head?_cons, Option.some.injEq] at leading
      rw [leading]
    · have smaller : number / 10 < number := by omega
      rw [Nat.toDigits_of_base_le (by decide) (by omega)] at leading
      rw [List.head?_append_of_ne_nil _ Nat.toDigits_ne_nil] at leading
      have tens := inductionHypothesis _ smaller leading
      have zero := congrArg (fun digits => Nat.ofDigitChars 10 digits 0) tens
      rw [Nat.ofDigitChars_ten_toDigits] at zero
      have value : Nat.ofDigitChars 10 ['0'] 0 = 0 := by decide
      omega

theorem le_ofDigitChars (digits : List Char) (value : Nat) :
    value ≤ Nat.ofDigitChars 10 digits value := by
  induction digits generalizing value with
  | nil => rw [Nat.ofDigitChars_nil]
  | cons digit rest inductionHypothesis =>
    rw [Nat.ofDigitChars_cons]
    exact le_trans (by omega) (inductionHypothesis _)

/-- Digits of a word are all taken. -/
theorem takeDigits_eq (digits : List Char) (value : Nat)
    (fits : Nat.ofDigitChars 10 digits value < UInt64.size) :
    Numeral.takeDigits value digits = (Nat.ofDigitChars 10 digits value, []) := by
  induction digits generalizing value with
  | nil => rw [Numeral.takeDigits, Nat.ofDigitChars_nil]
  | cons digit rest inductionHypothesis =>
    rw [Nat.ofDigitChars_cons, Nat.mul_comm] at fits ⊢
    have next : value * 10 + Numeral.digitValue digit < UInt64.size :=
      lt_of_le_of_lt (le_ofDigitChars rest _) fits
    rw [Numeral.takeDigits, if_pos next]
    exact inductionHypothesis _ fits

theorem number?_toDigits {number : Nat} (fits : number < UInt64.size) :
    (Numeral.mk false (Nat.toDigits 10 number) none none).number? =
      some (.integer number) := by
  have taken := takeDigits_eq (Nat.toDigits 10 number) 0 (by rwa [Nat.ofDigitChars_ten_toDigits])
  rw [Nat.ofDigitChars_ten_toDigits] at taken
  simp [Numeral.number?, taken]

/-- The digits of a number are read as the numeral that they are. -/
theorem readNumeral_toDigits (number : Nat) {rest : List Char} (ends : EndsNumber rest) :
    readNumeral (Nat.toDigits 10 number ++ rest) =
      some (⟨false, Nat.toDigits 10 number, none, none⟩, rest) := by
  have unsigned : readNumeral (Nat.toDigits 10 number ++ rest) =
      readUnsigned false (Nat.toDigits 10 number ++ rest) := by
    rw [readNumeral.eq_def]
    split
    next minus =>
      have signed : (Nat.toDigits 10 number ++ rest).head? = some '-' := by rw [minus]; rfl
      rw [List.head?_append_of_ne_nil _ Nat.toDigits_ne_nil] at signed
      cases isDigit_of_mem_toDigits _ (List.mem_of_mem_head? signed)
    next => rfl
  have noLeadingZero : ¬ ((Nat.toDigits 10 number).head? = some '0' ∧
      Nat.toDigits 10 number ≠ ['0']) :=
    fun leading => leading.2 (head?_toDigits leading.1)
  rw [unsigned, readUnsigned, readDigits_append Nat.toDigits_ne_nil isDigit_of_mem_toDigits ends]
  simp only [Option.bind_eq_bind, Option.bind_some, if_neg noLeadingZero,
    readFraction_of_ends ends, readExponent_of_ends ends, Option.pure_def]

theorem chars_ofWord (word : UInt64) :
    (Number.ofWord word).chars = Nat.toDigits 10 word.toNat := by
  simp [Number.ofWord, Number.chars, Number.integerChars]

end TokenLedger.Json
