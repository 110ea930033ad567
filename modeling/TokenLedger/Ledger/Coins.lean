/-
Coins: an amount for each of finitely many denominations. Setting an amount to zero removes the
denomination; only a single coin that starts at zero, or a document, keeps a zero.
-/

import TokenLedger.Data.SortedMap
import TokenLedger.Ledger.Amount

namespace TokenLedger

/-- Amounts by denomination. -/
abbrev Coins := SortedMap String Amount

namespace Coins

/-- The amount of a denomination, zero for one that is not there. -/
def amountOf (coins : Coins) (denomination : String) : Amount :=
  (coins.get? denomination).getD 0

/-- One denomination and its amount, kept even when it is zero: a token whose whole supply has been
burned still names its denomination. -/
def single (denomination : String) (amount : Amount) : Coins :=
  SortedMap.empty.insert denomination amount

/-- Overwrite the amount of one denomination; at zero it is removed. -/
def setAmount (coins : Coins) (denomination : String) (amount : Amount) : Coins :=
  if amount = 0 then coins.erase denomination else coins.insert denomination amount

/-- Add to one denomination, if the sum fits: the new amount and the coins with it. -/
def add? (coins : Coins) (denomination : String) (amount : Amount) : Option (Amount × Coins) := do
  let sum ← Amount.add? (coins.amountOf denomination) amount
  return (sum, coins.setAmount denomination sum)

/-- Whether some denomination has a zero amount. -/
def hasZero (coins : Coins) : Bool :=
  coins.values.any (· == 0)

/-- The amounts, each before its denomination, with commas between them. -/
def text (coins : Coins) : String :=
  ",".intercalate (coins.entries.map fun entry => Amount.text entry.2 ++ entry.1)

/-- After an amount is set, it is the amount. -/
@[simp] theorem amountOf_setAmount_self (coins : Coins) (denomination : String) (amount : Amount) :
    (coins.setAmount denomination amount).amountOf denomination = amount := by
  unfold setAmount amountOf
  split <;> simp [*]

/-- Setting an amount leaves the other denominations alone. -/
theorem get?_setAmount_other (coins : Coins) {denomination other : String}
    (distinct : other ≠ denomination) (amount : Amount) :
    (coins.setAmount denomination amount).get? other = coins.get? other := by
  rw [setAmount]
  split
  · exact SortedMap.get?_erase_other _ distinct
  · exact SortedMap.get?_insert_other _ distinct _

theorem amountOf_setAmount_other (coins : Coins) {denomination other : String}
    (distinct : other ≠ denomination) (amount : Amount) :
    (coins.setAmount denomination amount).amountOf other = coins.amountOf other := by
  rw [amountOf, get?_setAmount_other coins distinct, amountOf]

end Coins

end TokenLedger
