/-
Amounts. An amount counts the smallest units of a token in a 64-bit word, and no operation on
amounts wraps around: it fails instead. Main statements: a sum exists exactly when it fits into the
word, and a difference exactly when the second amount is not the larger one.
-/

import TokenLedger.Text.Quoted

namespace TokenLedger

/-- A number of the smallest units of a token. -/
abbrev Amount := UInt64

/-- Why an amount is refused. -/
inductive AmountFlaw where
  | zero
  | negative
  /-- The text is not a string of digits. -/
  | notDigits (raw : String)
  /-- The amount does not fit into the word. -/
  | tooLarge
  deriving DecidableEq, Repr

def AmountFlaw.message : AmountFlaw → String
  | .zero => "amount must be greater than zero"
  | .negative => "amount cannot be negative"
  | .notDigits raw => "amount " ++ Text.quoted raw ++ " is not a base-10 integer"
  | .tooLarge => "amount overflows u64"

namespace Amount

/-- The amount of a natural number, if it fits. -/
def ofNat? (number : Nat) : Option Amount :=
  if number < UInt64.size then some (UInt64.ofNat number) else none

/-- The sum, if it fits. -/
def add? (first second : Amount) : Option Amount :=
  ofNat? (first.toNat + second.toNat)

/-- The difference, if the second amount is not the larger one. -/
def sub? (first second : Amount) : Option Amount :=
  if second ≤ first then some (first - second) else none

/-- An amount in decimal. -/
def text (amount : Amount) : String :=
  amount.toNat.repr

/-- Whether a text is a string of digits, at least one. -/
def isDigits (chars : List Char) : Bool :=
  !chars.isEmpty && chars.all Char.isDigit

/-- Read an amount from its decimal digits, in which leading zeros do not count. Any text with a
minus in it is taken for a negative amount. -/
def parse (raw : String) : Except AmountFlaw Amount :=
  let chars := raw.toList
  if '-' ∈ chars then .error .negative
  else if !isDigits chars then .error (.notDigits raw)
  else
    match ofNat? (Nat.ofDigitChars 10 chars 0) with
    | some amount => .ok amount
    | none => .error .tooLarge

/-- Read an amount that must not be zero. -/
def parsePositive (raw : String) : Except AmountFlaw Amount := do
  let amount ← parse raw
  if amount = 0 then .error .zero else .ok amount

/-! ### Sums and differences as numbers -/

theorem ofNat?_eq_some_iff {number : Nat} {amount : Amount} :
    ofNat? number = some amount ↔ amount.toNat = number := by
  unfold ofNat?
  constructor
  · intro found
    split at found
    next fits =>
      obtain rfl := Option.some.inj found
      exact UInt64.toNat_ofNat_of_lt fits
    next => contradiction
  · intro same
    subst same
    rw [if_pos amount.toNat_lt_size, UInt64.ofNat_toNat]

theorem ofNat?_eq_none_iff {number : Nat} : ofNat? number = none ↔ UInt64.size ≤ number := by
  unfold ofNat?
  split <;> simp_all

theorem add?_eq_some_iff {first second sum : Amount} :
    add? first second = some sum ↔ sum.toNat = first.toNat + second.toNat :=
  ofNat?_eq_some_iff

theorem add?_eq_none_iff {first second : Amount} :
    add? first second = none ↔ UInt64.size ≤ first.toNat + second.toNat :=
  ofNat?_eq_none_iff

end Amount

end TokenLedger
