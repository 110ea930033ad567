/-
This file says which texts are amounts, and what is wrong with each of the others. An amount is
written in decimal digits, and there may be any number of zeros before them: the length of the text
is not bounded, only the number that it stands for is. A text can be refused for one reason only,
since a numeral has no minus, and of the other texts those with a minus are told apart first.
-/

import Mathlib
import TokenLedger.Ledger.Amount

namespace TokenLedger.Amount

/-- A string of decimal digits, at least one. -/
def IsNumeral (raw : String) : Prop :=
  raw ≠ "" ∧ ∀ char ∈ raw.toList, '0' ≤ char ∧ char ≤ '9'

/-- The number that digits stand for: the last one counts ones, and every other one ten times as much
as the one after it. -/
def valueOf (raw : String) : Nat :=
  Nat.ofDigits 10 (raw.toList.reverse.map fun char => char.toNat - '0'.toNat)

variable {raw : String}

/-! ### Numerals -/

theorem isDigits_iff : isDigits raw.toList = true ↔ IsNumeral raw := by
  simp only [isDigits, IsNumeral, Bool.and_eq_true, Bool.not_eq_true', List.isEmpty_eq_false_iff,
    List.all_eq_true, Char.isDigit, decide_eq_true_eq, ne_eq, String.toList_eq_nil_iff, Char.le_def,
    ge_iff_le]

/-- Digits taken from the first on and digits counted from the last on give one number. -/
theorem ofDigitChars_eq_valueOf (raw : String) :
    Nat.ofDigitChars 10 raw.toList 0 = valueOf raw := by
  rw [valueOf]
  induction raw.toList using List.reverseRecOn with
  | nil => rfl
  | append_singleton earlier last inductionHypothesis =>
    rw [Nat.ofDigitChars_append, Nat.ofDigitChars_cons, Nat.ofDigitChars_nil, inductionHypothesis,
      List.reverse_concat, List.map_cons, Nat.ofDigits_cons]
    exact Nat.add_comm _ _

theorem IsNumeral.noMinus (numeral : IsNumeral raw) : '-' ∉ raw.toList :=
  fun minus => absurd (numeral.2 '-' minus).1 (by decide)

/-- The decimal text of an amount, after any number of zeros. -/
theorem toList_padded (zeros : Nat) (amount : Amount) :
    (String.ofList (List.replicate zeros '0') ++ amount.text).toList =
      List.replicate zeros '0' ++ Nat.toDigits 10 amount.toNat := by
  rw [String.toList_append, String.toList_ofList, text, Nat.repr, String.toList_ofList]

theorem isNumeral_padded (zeros : Nat) (amount : Amount) :
    IsNumeral (String.ofList (List.replicate zeros '0') ++ amount.text) := by
  refine isDigits_iff.mp ?_
  have digits : ∀ char ∈ List.replicate zeros '0' ++ Nat.toDigits 10 amount.toNat,
      char.isDigit = true := by
    intro char member
    rcases List.mem_append.mp member with zero | digit
    · rw [List.eq_of_mem_replicate zero]
      rfl
    · exact Nat.isDigit_of_mem_toDigits (by decide) (by decide) digit
  rw [toList_padded, isDigits, List.all_eq_true.mpr digits, Bool.and_true, Bool.not_eq_true',
    List.isEmpty_eq_false_iff]
  exact List.append_ne_nil_of_right_ne_nil _ Nat.toDigits_ne_nil

/-- Zeros before the digits count nothing. -/
theorem valueOf_padded (zeros : Nat) (amount : Amount) :
    valueOf (String.ofList (List.replicate zeros '0') ++ amount.text) = amount.toNat := by
  have digits : valueOf amount.text = amount.toNat := by
    rw [← ofDigitChars_eq_valueOf, text, Nat.repr, String.toList_ofList,
      Nat.ofDigitChars_ten_toDigits]
  rw [valueOf, text, Nat.repr, String.toList_ofList] at digits
  rw [valueOf, toList_padded, List.reverse_append, List.reverse_replicate, List.map_append,
    List.map_replicate]
  exact (Nat.ofDigits_append_replicate_zero _).trans digits

/-! ### Reading -/

/-- The three ways in which a text is read. -/
theorem parse_eq (raw : String) :
    ('-' ∈ raw.toList ∧ parse raw = .error .negative) ∨
    ('-' ∉ raw.toList ∧ ¬ IsNumeral raw ∧ parse raw = .error (.notDigits raw)) ∨
    (IsNumeral raw ∧ parse raw = (ofNat? (valueOf raw)).elim (.error .tooLarge) .ok) := by
  -- The minus is looked for before the digits are, so a text with both faults is negative.
  by_cases minus : '-' ∈ raw.toList
  · exact .inl ⟨minus, if_pos minus⟩
  · by_cases numeral : IsNumeral raw
    · refine .inr (.inr ⟨numeral, ?_⟩)
      rw [parse, if_neg minus, isDigits_iff.mpr numeral, ofDigitChars_eq_valueOf]
      cases ofNat? (valueOf raw) <;> rfl
    · refine .inr (.inl ⟨minus, numeral, ?_⟩)
      rw [parse, if_neg minus, Bool.eq_false_iff.mpr fun digits => numeral (isDigits_iff.mp digits)]
      rfl

theorem parse_eq_ok_iff {amount : Amount} :
    parse raw = .ok amount ↔ IsNumeral raw ∧ valueOf raw = amount.toNat := by
  rcases parse_eq raw with ⟨minus, read⟩ | ⟨_, other, read⟩ | ⟨numeral, read⟩
  · rw [read]
    exact ⟨nofun, fun written => absurd minus written.1.noMinus⟩
  · rw [read]
    exact ⟨nofun, fun written => absurd written.1 other⟩
  · rw [read, and_iff_right numeral, @eq_comm _ (valueOf raw), ← ofNat?_eq_some_iff]
    cases ofNat? (valueOf raw) <;> simp

theorem parse_eq_negative_iff : parse raw = .error .negative ↔ '-' ∈ raw.toList := by
  rcases parse_eq raw with ⟨minus, read⟩ | ⟨noMinus, _, read⟩ | ⟨numeral, read⟩
  · exact iff_of_true read minus
  · rw [read]
    exact iff_of_false nofun noMinus
  · rw [read]
    refine iff_of_false ?_ numeral.noMinus
    cases ofNat? (valueOf raw) <;> exact nofun

theorem parse_eq_tooLarge_iff :
    parse raw = .error .tooLarge ↔ IsNumeral raw ∧ UInt64.size ≤ valueOf raw := by
  rcases parse_eq raw with ⟨minus, read⟩ | ⟨_, other, read⟩ | ⟨numeral, read⟩
  · rw [read]
    exact ⟨nofun, fun written => absurd minus written.1.noMinus⟩
  · rw [read]
    exact ⟨nofun, fun written => absurd written.1 other⟩
  · rw [read, and_iff_right numeral, ← ofNat?_eq_none_iff]
    cases ofNat? (valueOf raw) <;> simp

theorem parse_eq_notDigits_iff :
    parse raw = .error (.notDigits raw) ↔ '-' ∉ raw.toList ∧ ¬ IsNumeral raw := by
  rcases parse_eq raw with ⟨minus, read⟩ | ⟨noMinus, other, read⟩ | ⟨numeral, read⟩
  · rw [read]
    exact iff_of_false nofun fun noMinus => noMinus.1 minus
  · exact iff_of_true read ⟨noMinus, other⟩
  · rw [read]
    refine iff_of_false ?_ fun other => other.2 numeral
    cases ofNat? (valueOf raw) <;> exact nofun

/-- An amount that must not be zero is read like any other, unless it is zero. -/
theorem parsePositive_eq (raw : String) :
    (parse raw = .ok 0 ∧ parsePositive raw = .error .zero) ∨
      (parse raw ≠ .ok 0 ∧ parsePositive raw = parse raw) := by
  rw [parsePositive]
  cases parse raw with
  | error flaw => exact .inr ⟨nofun, rfl⟩
  | ok amount =>
    by_cases zero : amount = 0
    · exact .inl ⟨congrArg Except.ok zero, if_pos zero⟩
    · exact .inr ⟨fun same => zero (Except.ok.inj same), if_neg zero⟩

/-- A text is read as an amount exactly if it is a numeral whose value fits into the word, and it is
then read as that value. A text with a minus is negative, a numeral with another value is too large,
and whatever is left is no string of digits. The decimal text of every amount is read as that
amount, however many zeros stand before it. -/
theorem parse_accepts_exactly :
    (∀ raw : String,
      (∀ number, (∃ amount, parse raw = .ok amount ∧ amount.toNat = number) ↔
        IsNumeral raw ∧ valueOf raw = number ∧ number < UInt64.size) ∧
      (parse raw = .error .negative ↔ '-' ∈ raw.toList) ∧
      (parse raw = .error .tooLarge ↔ IsNumeral raw ∧ UInt64.size ≤ valueOf raw) ∧
      (parse raw = .error (.notDigits raw) ↔ '-' ∉ raw.toList ∧ ¬ IsNumeral raw) ∧
      ((parse raw = .ok 0 ∧ parsePositive raw = .error .zero) ∨
        (parse raw ≠ .ok 0 ∧ parsePositive raw = parse raw))) ∧
    ∀ (zeros : Nat) (amount : Amount),
      parse (String.ofList (List.replicate zeros '0') ++ amount.text) = .ok amount := by
  refine ⟨fun raw => ⟨fun number => ?_, parse_eq_negative_iff, parse_eq_tooLarge_iff,
    parse_eq_notDigits_iff, parsePositive_eq raw⟩, fun zeros amount =>
      parse_eq_ok_iff.mpr ⟨isNumeral_padded zeros amount, valueOf_padded zeros amount⟩⟩
  constructor
  · rintro ⟨amount, read, rfl⟩
    obtain ⟨numeral, value⟩ := parse_eq_ok_iff.mp read
    exact ⟨numeral, value, amount.toNat_lt_size⟩
  · rintro ⟨numeral, rfl, fits⟩
    have word := UInt64.toNat_ofNat_of_lt fits
    exact ⟨.ofNat (valueOf raw), parse_eq_ok_iff.mpr ⟨numeral, word.symm⟩, word⟩

end TokenLedger.Amount
