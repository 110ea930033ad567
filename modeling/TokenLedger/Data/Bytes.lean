/-
Byte strings. Keys, stored records, log frames and hash inputs are all lists of bytes; this file
holds the three ways of writing something as bytes that the ledger uses: a text in UTF-8, a
64-bit word with its most significant byte first, and bytes as hexadecimal digits.
-/

namespace TokenLedger

/-- A string of bytes. -/
abbrev Bytes := List UInt8

/-! ### Text as bytes -/

/-- The UTF-8 bytes of a text. -/
def utf8 (text : String) : Bytes :=
  text.toByteArray.data.toList

/-- The text whose UTF-8 bytes these are, if there is one. -/
def utf8? (bytes : Bytes) : Option String :=
  String.fromUTF8? ⟨bytes.toArray⟩

theorem utf8_injective {first second : String} (same : utf8 first = utf8 second) :
    first = second := by
  unfold utf8 at same
  exact String.toByteArray_inj.mp (ByteArray.ext (Array.toList_inj.mp same))

/-- Every text is read back from its bytes. -/
theorem utf8?_utf8 (text : String) : utf8? (utf8 text) = some text := by
  simp [utf8?, utf8, String.fromUTF8?, text.isValidUTF8, String.fromUTF8]

/-! ### Words as bytes -/

/-- The lowest bytes of a number, as many as are asked for, the least significant first. -/
def littleEndian : Nat → Nat → Bytes
  | 0, _ => []
  | count + 1, number => UInt8.ofNat number :: littleEndian count (number / 256)

/-- The number whose bytes these are, the least significant first. -/
def ofLittleEndian : Bytes → Nat
  | [] => 0
  | byte :: rest => byte.toNat + 256 * ofLittleEndian rest

/-- The eight bytes of a word, the most significant first. -/
def bigEndian (word : UInt64) : Bytes :=
  (littleEndian 8 word.toNat).reverse

theorem length_littleEndian (count number : Nat) : (littleEndian count number).length = count := by
  induction count generalizing number with
  | zero => rfl
  | succ count inductionHypothesis => simp [littleEndian, inductionHypothesis]

/-- A number that fits is read back from its bytes. -/
theorem ofLittleEndian_littleEndian (count number : Nat) (fits : number < Nat.pow 256 count) :
    ofLittleEndian (littleEndian count number) = number := by
  induction count generalizing number with
  | zero =>
    have none : number = 0 := Nat.lt_one_iff.mp fits
    rw [none, littleEndian, ofLittleEndian]
  | succ count inductionHypothesis =>
    have smaller : number / 256 < Nat.pow 256 count := by
      exact Nat.div_lt_of_lt_mul (Nat.mul_comm _ _ ▸ fits)
    rw [littleEndian, ofLittleEndian, inductionHypothesis _ smaller]
    simp only [UInt8.toNat_ofNat', Nat.reducePow]
    omega

/-- Bytes are written back from their number. -/
theorem littleEndian_ofLittleEndian (bytes : Bytes) :
    littleEndian bytes.length (ofLittleEndian bytes) = bytes := by
  induction bytes with
  | nil => rfl
  | cons byte rest inductionHypothesis =>
    have small : byte.toNat < 256 := byte.toNat_lt
    have lowest : UInt8.ofNat (byte.toNat + 256 * ofLittleEndian rest) = byte :=
      UInt8.toNat_inj.mp (by rw [UInt8.toNat_ofNat']; omega)
    have others : (byte.toNat + 256 * ofLittleEndian rest) / 256 = ofLittleEndian rest := by omega
    rw [ofLittleEndian, List.length_cons, littleEndian, lowest, others, inductionHypothesis]

/-! ### Hexadecimal -/

/-- The digit of a value below sixteen, counting on from the given letter after nine. -/
def hexDigit (ten : Char) (value : UInt8) : Char :=
  if value < 10 then Char.ofNat ('0'.toNat + value.toNat)
  else Char.ofNat (ten.toNat + (value.toNat - 10))

/-- Two digits a byte, the high half first, with `ten` for the digit of value ten. -/
def hexDigits (ten : Char) (bytes : Bytes) : List Char :=
  bytes.flatMap fun (byte : UInt8) => [hexDigit ten (byte / 16), hexDigit ten (byte % 16)]

/-- Bytes in lower-case hexadecimal. -/
def hex (bytes : Bytes) : String :=
  String.ofList (hexDigits 'a' bytes)

/-- The value of a hexadecimal digit in either case. -/
def hexValue? (digit : Char) : Option Nat :=
  if '0' ≤ digit ∧ digit ≤ '9' then some (digit.toNat - '0'.toNat)
  else if 'a' ≤ digit ∧ digit ≤ 'f' then some (digit.toNat - 'a'.toNat + 10)
  else if 'A' ≤ digit ∧ digit ≤ 'F' then some (digit.toNat - 'A'.toNat + 10)
  else none

/-- The bytes that a list of hexadecimal digits spells, two digits a byte. -/
def ofHex? : List Char → Option Bytes
  | [] => some []
  | high :: low :: rest => do
    let byte := (← hexValue? high) * 16 + (← hexValue? low)
    return UInt8.ofNat byte :: (← ofHex? rest)
  | [_] => none

end TokenLedger
