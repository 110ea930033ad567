/-
JSON numbers. A numeral without fraction and exponent is an integer when it fits into 64 bits, with
or without sign; every other numeral is a double. A double is approximated from the leading digits
of the numeral that fit into 64 bits and a power of ten, so that very long numerals may be off in
the last place.
-/

import TokenLedger.Number.Shortest

namespace TokenLedger.Json

/-- A number as data. -/
inductive Number where
  /-- An integer, between `-2 ^ 63` and `2 ^ 64 - 1` when it was read from a text. -/
  | integer (value : Int)
  /-- A double: whether it is negative, and its magnitude. -/
  | float (negative : Bool) (magnitude : Binary64)
  deriving DecidableEq, Repr, Inhabited

/-- A number as it is written, in digits. -/
structure Numeral where
  negative : Bool
  whole : List Char
  fraction : Option (List Char)
  /-- The sign of the exponent, true for a minus, and its digits. -/
  exponent : Option (Bool × List Char)
  deriving DecidableEq, Repr

namespace Numeral

/-- The value of a digit. -/
def digitValue (digit : Char) : Nat :=
  digit.toNat - '0'.toNat

/-- Go on with a number digit by digit as long as it fits into a word: the number, and the
digits that did not fit. -/
def takeDigits (value : Nat) : List Char → Nat × List Char
  | [] => (value, [])
  | digit :: rest =>
    let next := value * 10 + digitValue digit
    if next < UInt64.size then takeDigits next rest else (value, digit :: rest)

/-- The magnitude nearest to a power of ten. -/
def powerOfTen? (power : Nat) : Option Binary64 :=
  Binary64.ofNat? (Nat.pow 10 power)

/-- The greatest power of ten that is a double. -/
def greatestPower : Nat := 308

/-- A magnitude times a power of ten, in steps that are each rounded. A power below the table is
taken in steps of the greatest power; after the given number of steps nothing is left. -/
def timesPower? : Nat → Binary64 → Int → Option Binary64
  | 0, _, _ => some Binary64.zero
  | steps + 1, magnitude, power =>
    if power.natAbs ≤ greatestPower then do
      let factor ← powerOfTen? power.natAbs
      if 0 ≤ power then magnitude.mul? factor else magnitude.div? factor
    else if magnitude.mantissa = 0 then some magnitude
    else if 0 ≤ power then none
    else do
      timesPower? steps (← magnitude.div? (← powerOfTen? greatestPower)) (power + greatestPower)

/-- The greatest exponent that is taken at its value. -/
def greatestExponent : Nat := 0x7fffffff

/-- The number that a numeral stands for, unless it is out of the range of doubles. -/
def number? (numeral : Numeral) : Option Number :=
  let (leading, dropped) := takeDigits 0 numeral.whole
  let (significand, power) : Nat × Int :=
    match numeral.fraction with
    | none => (leading, dropped.length)
    | some digits =>
      let (significand, ignored) := takeDigits leading digits
      (significand, (dropped.length : Int) - (digits.length - ignored.length : Nat))
  let float (power : Int) : Option Number := do
    let magnitude ← Binary64.ofNat? significand
    return .float numeral.negative (← timesPower? 3 magnitude power)
  match numeral.exponent with
  | some (negative, digits) =>
    let exponent := Nat.ofDigitChars 10 digits 0
    if exponent ≤ greatestExponent then
      float (if negative then power - exponent else power + exponent)
    else if significand ≠ 0 ∧ !negative then none
    else some (.float numeral.negative Binary64.zero)
  | none =>
    if numeral.fraction.isSome ∨ dropped ≠ [] then float power
    else if !numeral.negative then some (.integer leading)
    else if leading = 0 ∨ -(leading : Int) < Int64.minValue.toInt then float 0
    else some (.integer (-leading))

end Numeral

namespace Number

/-- The number of leading positions in which a double is written without an exponent. -/
def positionalDigits : Int := 16

/-- How many zeros may follow the point of a double written without an exponent. -/
def positionalZeros : Int := 4

/-- The digits of a double with a point after the first one, and the power of ten that the first
digit stands for, always with its sign. -/
def scientific (digits : List Char) (power : Int) : List Char :=
  let mantissa :=
    match digits with
    | lead :: rest => if rest = [] then [lead] else lead :: '.' :: rest
    | [] => []
  let sign := if power < 0 then '-' else '+'
  mantissa ++ ['e', sign] ++ Nat.toDigits 10 power.natAbs

/-- The shortest decimal that reads back as the magnitude: positional, with at least one digit on
each side of the point, up to sixteen places before it and four zeros after it, and with an
exponent otherwise. -/
def magnitudeChars (magnitude : Binary64) : List Char :=
  if magnitude.mantissa = 0 then ['0', '.', '0']
  else
    let decimal := magnitude.shortest
    let digits := Nat.toDigits 10 decimal.digits
    let point : Int := digits.length + decimal.exponent
    if 0 ≤ decimal.exponent ∧ point ≤ positionalDigits then
      digits ++ List.replicate decimal.exponent.toNat '0' ++ ['.', '0']
    else if 0 < point ∧ point ≤ positionalDigits then
      digits.take point.toNat ++ ['.'] ++ digits.drop point.toNat
    else if -positionalZeros ≤ point ∧ point ≤ 0 then
      ['0', '.'] ++ List.replicate (-point).toNat '0' ++ digits
    else scientific digits (point - 1)

/-- The digits of an integer after its sign. -/
def integerChars (value : Int) : List Char :=
  (if value < 0 then ['-'] else []) ++ Nat.toDigits 10 value.natAbs

/-- A number as it is written. -/
def chars : Number → List Char
  | .integer value => integerChars value
  | .float negative magnitude => (if negative then ['-'] else []) ++ magnitudeChars magnitude

/-- The number as an unsigned 64-bit word, if it is one. -/
def word? : Number → Option UInt64
  | .integer value =>
    if 0 ≤ value ∧ value < UInt64.size then some (UInt64.ofNat value.toNat) else none
  | .float _ _ => none

/-- A word as a number. -/
def ofWord (word : UInt64) : Number :=
  .integer word.toNat

theorem word?_ofWord (word : UInt64) : (ofWord word).word? = some word := by
  have bound := word.toNat_lt_size
  simp only [ofWord, word?]
  rw [if_pos ⟨Int.natCast_nonneg _, Int.ofNat_lt.mpr bound⟩]
  simp

end Number

end TokenLedger.Json
