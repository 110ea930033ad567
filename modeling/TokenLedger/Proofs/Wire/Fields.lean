/-
This file proves that the fields of a message are read back from the bytes of the message. A field
is read back as long as its number fits into a key and its kind is one that is written; what follows
the field is arbitrary. A length needs a look of its own: the reader first tries a word, and only a
length that no word holds makes it try again, so the first attempt has to fail on exactly those.
-/

import Mathlib
import TokenLedger.Wire.Field

namespace TokenLedger.Wire

/-! ### Lengths -/

/-- A number is below the power that its groups reach. -/
theorem lt_pow_length_groups (limit number : Nat) (fits : number < Nat.pow 128 (limit + 1)) :
    number < Nat.pow 128 (groups (limit + 1) number).length := by
  induction limit generalizing number with
  | zero =>
    have small : number < 128 := by simpa using fits
    simp [groups, small]
  | succ limit inductionHypothesis =>
    rw [groups]
    split
    next small => simpa using small
    next large =>
      have quotient : number / 128 < Nat.pow 128 (limit + 1) :=
        Nat.div_lt_of_lt_mul (Nat.mul_comm _ _ ▸ fits)
      have power : Nat.pow 128 ((groups (limit + 1) (number / 128)).length + 1) =
          Nat.pow 128 (groups (limit + 1) (number / 128)).length * 128 := rfl
      have below := inductionHypothesis _ quotient
      rw [List.length_cons, power]
      omega

/-- A reader that stops before the last group finds nothing. -/
theorem readGroups_groups_eq_none (limit reach number : Nat)
    (fits : number < Nat.pow 128 (limit + 1)) (beyond : Nat.pow 128 reach ≤ number)
    (rest : Bytes) : readGroups reach (groups (limit + 1) number ++ rest) = none := by
  induction reach generalizing limit number with
  | zero => rfl
  | succ reach inductionHypothesis =>
    have power : Nat.pow 128 (reach + 1) = Nat.pow 128 reach * 128 := rfl
    have positive : 0 < Nat.pow 128 reach := Nat.pow_pos (by decide)
    have large : ¬ number < 128 := by omega
    cases limit with
    | zero => exact absurd (by simpa using fits) large
    | succ limit =>
      have quotient : number / 128 < Nat.pow 128 (limit + 1) :=
        Nat.div_lt_of_lt_mul (Nat.mul_comm _ _ ▸ fits)
      have quotientBeyond : Nat.pow 128 reach ≤ number / 128 := by omega
      rw [groups, if_neg large, List.cons_append, readGroups, if_neg (high_byte number),
        inductionHypothesis limit _ quotient quotientBeyond]
      rfl

/-- A number that no word holds is not taken for a word. -/
theorem readVarint_groups_eq_none (limit number : Nat) (fits : number < Nat.pow 128 (limit + 1))
    (large : UInt64.size ≤ number) (rest : Bytes) :
    readVarint (groups (limit + 1) number ++ rest) = none := by
  have noWord : ¬ number < UInt64.size := Nat.not_lt.mpr large
  rw [readVarint]
  rcases Nat.lt_or_ge number (Nat.pow 128 longestVarint) with within | beyond
  · rw [longestVarint, readGroups_groups limit 9 number fits within]
    simp only [Option.bind_eq_bind, Option.bind_some, if_neg noWord]
  · rw [readGroups_groups_eq_none limit longestVarint number fits beyond]
    rfl

/-- A length is read back, whatever follows it. -/
theorem readLength_lengthVarint (length : Nat) (rest : Bytes) :
    readLength (lengthVarint length ++ rest) = some (length, rest) := by
  have fits : length < Nat.pow 128 (length + 1) :=
    lt_trans (Nat.lt_succ_self length) (Nat.lt_pow_self (by decide))
  rw [readLength, lengthVarint]
  rcases Nat.lt_or_ge length UInt64.size with word | large
  · have within : length < Nat.pow 128 (9 + 1) := lt_trans word (by decide)
    have read : readVarint (groups (length + 1) length ++ rest) =
        some (UInt64.ofNat length, rest) := by
      rw [readVarint, longestVarint, readGroups_groups length 9 length fits within]
      simp only [Option.bind_eq_bind, Option.bind_some, if_pos word]
    rw [read]
    simp only [UInt64.toNat_ofNat_of_lt' word]
  · have enough : length < Nat.pow 128 (groups (length + 1) length ++ rest).length := by
      refine lt_of_lt_of_le (lt_pow_length_groups length length fits) ?_
      exact Nat.pow_le_pow_right (by decide) (by simp)
    obtain ⟨reach, whole⟩ : ∃ reach, (groups (length + 1) length ++ rest).length = reach + 1 := by
      refine Nat.exists_eq_succ_of_ne_zero fun zero => ?_
      rw [zero] at enough
      have one : Nat.pow 128 0 = 1 := rfl
      have word : 1 < UInt64.size := by decide
      omega
    rw [readVarint_groups_eq_none length length fits large, whole,
      readGroups_groups length reach length fits (whole ▸ enough)]
    simp only [Option.bind_eq_bind, Option.bind_some, if_neg (Nat.not_lt.mpr large)]

/-! ### One field -/

/-- A field that is written as it is: its number fits into a key, and its kind is in use. -/
structure Field.Plain (field : Field) : Prop where
  positive : 0 < field.number
  fits : field.number * 8 + 8 ≤ UInt32.size
  kind : field.payload ≠ .skipped

theorem readKey_key {number kind : Nat} (positive : 0 < number)
    (fits : number * 8 + 8 ≤ UInt32.size) (small : kind < 8) (rest : Bytes) :
    readKey (key number kind ++ rest) = some (number, kind, rest) := by
  have word : number * 8 + kind < UInt32.size := by omega
  have value : (UInt64.ofNat (number * 8 + kind)).toNat = number * 8 + kind :=
    UInt64.toNat_ofNat_of_lt' (lt_trans word (by decide))
  have quotient : (number * 8 + kind) / 8 = number := by omega
  have remainder : (number * 8 + kind) % 8 = kind := by omega
  rw [readKey, key, readVarint_varint]
  simp only [Option.bind_eq_bind, Option.bind_some, value, quotient, remainder,
    if_pos (And.intro word positive)]

theorem splitAt?_append (content rest : Bytes) :
    splitAt? content.length (content ++ rest) = some (content, rest) := by
  simp [splitAt?]

/-- A message that starts with a key has a field. -/
theorem readFields_key {number kind : Nat} (positive : 0 < number)
    (fits : number * 8 + 8 ≤ UInt32.size) (small : kind < 8) (depth bound : Nat) (rest : Bytes) :
    readFields depth (bound + 1) (key number kind ++ rest) = (do
      let (payload, rest) ← readPayload (rest.length + 1) depth number kind rest
      return ⟨number, payload⟩ :: (← readFields depth bound rest)) := by
  have read := readKey_key positive fits small rest
  cases bytes : key number kind ++ rest with
  | nil =>
    rw [bytes] at read
    cases read
  | cons byte others =>
    rw [bytes] at read
    simp only [readFields, read, Option.bind_eq_bind, Option.bind_some]

/-- The first field of a message is read back, and what follows is read next. -/
theorem readFields_write_append {field : Field} (plain : field.Plain) (depth bound : Nat)
    (rest : Bytes) :
    readFields (depth + 1) (bound + 1) (field.write ++ rest) =
      (readFields (depth + 1) bound rest).map (field :: ·) := by
  obtain ⟨number, payload⟩ := field
  cases payload with
  | word value =>
    rw [Field.write, List.append_assoc, readFields_key plain.positive plain.fits (by decide)]
    simp only [readPayload, readVarint_varint, Option.bind_eq_bind, Option.bind_some,
      Option.pure_def]
    cases readFields (depth + 1) bound rest <;> rfl
  | bytes content =>
    rw [Field.write, List.append_assoc, List.append_assoc,
      readFields_key plain.positive plain.fits (by decide)]
    simp only [readPayload, readLength_lengthVarint, splitAt?_append, Option.bind_eq_bind,
      Option.bind_some, Option.pure_def]
    cases readFields (depth + 1) bound rest <;> rfl
  | skipped => exact absurd rfl plain.kind

/-! ### A whole message -/

theorem length_pos_write {field : Field} (plain : field.Plain) : 0 < field.write.length := by
  by_contra empty
  have nothing : field.write = [] := List.length_eq_zero_iff.mp (by omega)
  have read := readFields_write_append plain 0 0 []
  rw [nothing] at read
  cases read

theorem length_le_length_write {fields : List Field} (plain : ∀ field ∈ fields, field.Plain) :
    fields.length ≤ (write fields).length := by
  induction fields with
  | nil => exact Nat.zero_le _
  | cons field others inductionHypothesis =>
    have first := length_pos_write (plain field List.mem_cons_self)
    have following := inductionHypothesis fun other member =>
      plain other (List.mem_cons_of_mem _ member)
    rw [write, List.flatMap_cons, List.length_append, List.length_cons]
    rw [write] at following
    omega

theorem readFields_write {fields : List Field} (plain : ∀ field ∈ fields, field.Plain)
    {depth bound : Nat} (enough : fields.length ≤ bound) :
    readFields (depth + 1) bound (write fields) = some fields := by
  induction fields generalizing bound with
  | nil => exact readFields.eq_1 _ _
  | cons field others inductionHypothesis =>
    obtain ⟨smaller, rfl⟩ : ∃ smaller, bound = smaller + 1 :=
      Nat.exists_eq_succ_of_ne_zero (by rw [List.length_cons] at enough; omega)
    rw [write, List.flatMap_cons, readFields_write_append (plain field List.mem_cons_self), ← write,
      inductionHypothesis (fun other member => plain other (List.mem_cons_of_mem _ member))
        (Nat.le_of_succ_le_succ enough)]
    rfl

/-- The fields of a message are read back, as long as the message is not nested too deeply. -/
theorem read_write {fields : List Field} (plain : ∀ field ∈ fields, field.Plain) {enclosing : Nat}
    (shallow : enclosing < nestingLimit) : read enclosing (write fields) = some fields := by
  obtain ⟨depth, deep⟩ : ∃ depth, nestingLimit - enclosing = depth + 1 :=
    Nat.exists_eq_succ_of_ne_zero (by omega)
  rw [read, deep]
  exact readFields_write plain (length_le_length_write plain)

end TokenLedger.Wire
