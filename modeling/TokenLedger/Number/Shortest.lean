/-
The shortest decimal of a double: of all decimals that round to the magnitude, one with the fewest
digits, and of those the nearest one. Each grid of decimals is tried in turn from one digit up; the
two grid points next to the magnitude decide whether the grid has a decimal that rounds to it.
-/

import TokenLedger.Number.Binary64

namespace TokenLedger

/-- A decimal: `digits * 10 ^ exponent`. -/
structure ShortDecimal where
  digits : Nat
  exponent : Int
  deriving DecidableEq, Repr

namespace ShortDecimal

/-- A decimal as a fraction. -/
def fraction (decimal : ShortDecimal) : Nat × Nat :=
  (decimal.digits * Nat.pow 10 decimal.exponent.toNat, Nat.pow 10 (-decimal.exponent).toNat)

/-- A decimal without the trailing zeros of its digits; the first argument bounds their number. -/
def strip : Nat → ShortDecimal → ShortDecimal
  | 0, decimal => decimal
  | bound + 1, decimal =>
    if decimal.digits % 10 = 0 then strip bound ⟨decimal.digits / 10, decimal.exponent + 1⟩
    else decimal

end ShortDecimal

namespace Binary64

/-- The exponent of the leading decimal digit of a positive magnitude. -/
def leadingExponent (magnitude : Binary64) : Int :=
  let (numerator, denominator) := magnitude.fraction
  if denominator ≤ numerator then ((Nat.toDigits 10 (numerator / denominator)).length : Int) - 1
  else -((Nat.toDigits 10 ((denominator - 1) / numerator)).length : Int)

/-- Whether a decimal rounds to the magnitude. The ends of the interval, half a step away on each
side, round to it when its mantissa is even; below a power of two the step is half as wide. -/
def roundsTo (magnitude : Binary64) (decimal : ShortDecimal) : Bool :=
  let (numerator, denominator) := decimal.fraction
  let quarters := 4 * magnitude.mantissa
  let narrow := magnitude.mantissa = leastNormal ∧ leastExponent < magnitude.exponent
  let low := if narrow then quarters - 1 else quarters - 2
  let (lowNumerator, unit) := (⟨low, magnitude.exponent⟩ : Binary64).fraction
  let (highNumerator, _) := (⟨quarters + 2, magnitude.exponent⟩ : Binary64).fraction
  let atLeast := compare (lowNumerator * denominator) (4 * numerator * unit)
  let atMost := compare (4 * numerator * unit) (highNumerator * denominator)
  if magnitude.mantissa % 2 = 0 then atLeast != .gt && atMost != .gt
  else atLeast == .lt && atMost == .lt

/-- The decimal with a given last place that rounds to the magnitude and is nearest to it, if one
does; of two equally near ones that with an even last digit. -/
def onGrid? (magnitude : Binary64) (place : Int) : Option ShortDecimal :=
  let (numerator, denominator) := magnitude.fraction
  let scaled := numerator * Nat.pow 10 (-place).toNat
  let unit := denominator * Nat.pow 10 place.toNat
  let below : ShortDecimal := ⟨scaled / unit, place⟩
  let above : ShortDecimal := ⟨scaled / unit + 1, place⟩
  let nearest : ShortDecimal := ⟨roundQuotient scaled unit, place⟩
  if below.digits ≠ 0 ∧ magnitude.roundsTo below then
    if magnitude.roundsTo above then some nearest else some below
  else if magnitude.roundsTo above then some above
  else none

/-- The shortest decimal of a positive magnitude; seventeen digits always suffice. -/
def shortest (magnitude : Binary64) : ShortDecimal :=
  let grids := (List.range 17).map fun (digits : Nat) => magnitude.leadingExponent - digits
  match grids.findSome? magnitude.onGrid? with
  | some decimal => decimal.strip 20
  | none => ⟨0, 0⟩

end Binary64

end TokenLedger
