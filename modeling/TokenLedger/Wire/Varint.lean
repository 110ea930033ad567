/-
Variable-length numbers. A number is written in groups of seven bits, the lowest group first, and
the high bit of a byte says that another group follows. A reader accepts up to ten bytes, needless
zero groups included, as long as the number fits into a 64-bit word.
-/

import TokenLedger.Data.Bytes

namespace TokenLedger.Wire

/-- The groups of a number, at most as many as given. -/
def groups : Nat → Nat → Bytes
  | 0, _ => []
  | limit + 1, number =>
    if number < 128 then [UInt8.ofNat number]
    else UInt8.ofNat (number % 128 + 128) :: groups limit (number / 128)

/-- The most bytes that a number takes. -/
def longestVarint : Nat := 10

/-- A word as a variable-length number. -/
def varint (word : UInt64) : Bytes :=
  groups longestVarint word.toNat

/-- Read the groups of a number, at most as many as given. -/
def readGroups : Nat → Bytes → Option (Nat × Bytes)
  | 0, _ => none
  | _ + 1, [] => none
  | limit + 1, byte :: rest =>
    if byte < 128 then some (byte.toNat, rest)
    else do
      let (high, rest) ← readGroups limit rest
      return (byte.toNat % 128 + 128 * high, rest)

/-- Read a word. -/
def readVarint (bytes : Bytes) : Option (UInt64 × Bytes) := do
  let (number, rest) ← readGroups longestVarint bytes
  if number < UInt64.size then some (UInt64.ofNat number, rest) else none

/-- A length as a variable-length number. The texts of the ledger have no greatest length, so a
length that no word holds takes as many groups as it needs. -/
def lengthVarint (length : Nat) : Bytes :=
  groups (length + 1) length

/-- Read a length: a word, or else a number that no word holds. -/
def readLength (bytes : Bytes) : Option (Nat × Bytes) :=
  match readVarint bytes with
  | some (word, rest) => some (word.toNat, rest)
  | none => do
    let (number, rest) ← readGroups bytes.length bytes
    if number < UInt64.size then none else some (number, rest)

/-! ### A number is read back from its groups -/

/-- A group that another one follows has its high bit set. -/
theorem high_byte (number : Nat) : ¬ UInt8.ofNat (number % 128 + 128) < 128 := by
  simp only [UInt8.lt_iff_toNat_lt, UInt8.toNat_ofNat']
  show ¬ (number % 128 + 128) % 256 < 128
  omega

/-- The reader may allow another number of groups than the writer, as long as both are enough. -/
theorem readGroups_groups (limit reach number : Nat) (fits : number < Nat.pow 128 (limit + 1))
    (reached : number < Nat.pow 128 (reach + 1)) (rest : Bytes) :
    readGroups (reach + 1) (groups (limit + 1) number ++ rest) = some (number, rest) := by
  induction limit generalizing reach number with
  | zero =>
    have small : number < 128 := by simpa using fits
    have inByte : number % 256 = number := Nat.mod_eq_of_lt (by omega)
    simp [groups, readGroups, small, UInt8.lt_iff_toNat_lt, inByte]
  | succ limit inductionHypothesis =>
    rw [groups]
    split
    next small =>
      simp [readGroups, small, UInt8.lt_iff_toNat_lt, Nat.mod_eq_of_lt (a := number) (b := 256)
        (by omega)]
    next large =>
      cases reach with
      | zero => exact absurd (by simpa using reached) large
      | succ reach =>
        have quotient : number / 128 < Nat.pow 128 (limit + 1) :=
          Nat.div_lt_of_lt_mul (Nat.mul_comm _ _ ▸ fits)
        have quotientReached : number / 128 < Nat.pow 128 (reach + 1) :=
          Nat.div_lt_of_lt_mul (Nat.mul_comm _ _ ▸ reached)
        rw [List.cons_append, readGroups, if_neg (high_byte number),
          inductionHypothesis reach _ quotient quotientReached]
        simp only [UInt8.toNat_ofNat', Option.bind_eq_bind, Option.bind_some, Option.pure_def,
          Option.some.injEq, Prod.mk.injEq, and_true]
        omega

/-- A word is read back, whatever follows it. -/
theorem readVarint_varint (word : UInt64) (rest : Bytes) :
    readVarint (varint word ++ rest) = some (word, rest) := by
  have bound := word.toNat_lt
  have fits : word.toNat < Nat.pow 128 (9 + 1) :=
    Nat.lt_of_lt_of_le bound (by decide)
  rw [readVarint, varint, longestVarint, readGroups_groups 9 9 _ fits fits]
  simp [bound]

end TokenLedger.Wire
