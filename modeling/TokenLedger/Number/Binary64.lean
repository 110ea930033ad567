/-
Double-precision magnitudes in exact arithmetic. A magnitude is a mantissa times a power of two,
and an operation on magnitudes is the exact rational result rounded once to the nearest magnitude.
-/

namespace TokenLedger

/-- The magnitude of a finite double: `mantissa * 2 ^ exponent`. The mantissa is below `2 ^ 53`, and
it is at least `2 ^ 52` unless the exponent is the least one, `-1074`. -/
structure Binary64 where
  mantissa : Nat
  exponent : Int
  deriving DecidableEq, Repr, Inhabited

namespace Binary64

/-- The least mantissa of a magnitude whose exponent is not the least one. -/
def leastNormal : Nat := Nat.pow 2 52

/-- The least exponent of a double. -/
def leastExponent : Int := -1074

/-- The greatest exponent of a double. -/
def greatestExponent : Int := 971

def zero : Binary64 := ⟨0, leastExponent⟩

/-- A quotient rounded to the nearest natural number, a half going to the even neighbour. -/
def roundQuotient (numerator denominator : Nat) : Nat :=
  let quotient := numerator / denominator
  let twice := 2 * (numerator % denominator)
  if twice < denominator then quotient
  else if denominator < twice then quotient + 1
  else quotient + quotient % 2

/-- The quotient of `numerator / denominator` by `2 ^ exponent`, as a fraction. -/
def scale (numerator denominator : Nat) (exponent : Int) : Nat × Nat :=
  (numerator * Nat.pow 2 (-exponent).toNat, denominator * Nat.pow 2 exponent.toNat)

/-- The magnitude nearest to a positive fraction, of two equally near ones that with an even
mantissa; nothing when the fraction is too large for a double. -/
def ofFraction? (numerator denominator : Nat) : Option Binary64 :=
  let bits : Int := (Nat.log2 numerator : Int) - Nat.log2 denominator
  let low := max (bits - 53) leastExponent
  let (scaled, unit) := scale numerator denominator low
  let exponent := if 2 * leastNormal ≤ scaled / unit then low + 1 else low
  let (scaled, unit) := scale numerator denominator exponent
  let mantissa := roundQuotient scaled unit
  let rounded : Binary64 :=
    if mantissa = 2 * leastNormal then ⟨leastNormal, exponent + 1⟩ else ⟨mantissa, exponent⟩
  if numerator = 0 then some zero
  else if greatestExponent < rounded.exponent then none
  else some rounded

/-- A magnitude as a fraction. -/
def fraction (magnitude : Binary64) : Nat × Nat :=
  (magnitude.mantissa * Nat.pow 2 magnitude.exponent.toNat, Nat.pow 2 (-magnitude.exponent).toNat)

/-- The magnitude nearest to a natural number. -/
def ofNat? (number : Nat) : Option Binary64 :=
  ofFraction? number 1

/-- The rounded product. -/
def mul? (first second : Binary64) : Option Binary64 :=
  let (numerator, denominator) := first.fraction
  let (numerator', denominator') := second.fraction
  ofFraction? (numerator * numerator') (denominator * denominator')

/-- The rounded quotient. -/
def div? (first second : Binary64) : Option Binary64 :=
  let (numerator, denominator) := first.fraction
  let (numerator', denominator') := second.fraction
  ofFraction? (numerator * denominator') (denominator * numerator')

end Binary64

end TokenLedger
