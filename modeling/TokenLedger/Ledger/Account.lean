/-
Accounts. An account holds two buckets of coins: those its owner can spend, and those that are
frozen. Freezing moves an amount from the first bucket to the second, unfreezing moves it back, and
neither changes the sum of the two.
-/

import TokenLedger.Ledger.Token
import TokenLedger.Ledger.Fault

namespace TokenLedger

/-- The two buckets of one address. -/
structure Account where
  address : Address
  /-- What can be spent. -/
  coins : Coins
  /-- What is kept from being spent until it is unfrozen. -/
  frozenCoins : Coins
  deriving DecidableEq

namespace Account

/-- The account of an address that holds nothing. -/
def new (address : Address) : Account :=
  ⟨address, SortedMap.empty, SortedMap.empty⟩

def unfrozen (account : Account) (symbol : String) : Amount :=
  account.coins.amountOf symbol

def frozen (account : Account) (symbol : String) : Amount :=
  account.frozenCoins.amountOf symbol

def setUnfrozen (account : Account) (symbol : String) (amount : Amount) : Account :=
  { account with coins := account.coins.setAmount symbol amount }

def setFrozen (account : Account) (symbol : String) (amount : Amount) : Account :=
  { account with frozenCoins := account.frozenCoins.setAmount symbol amount }

/-- Whether both buckets are empty. -/
def isEmpty (account : Account) : Bool :=
  account.coins.isEmpty && account.frozenCoins.isEmpty

/-- Whether some bucket holds a zero amount. -/
def hasZero (account : Account) : Bool :=
  account.coins.hasZero || account.frozenCoins.hasZero

/-! ### Moves between the buckets -/

/-- A change of an account in place. What it has changed before it failed remains changed. -/
abbrev Change := ExceptT Fault (StateM Account)

/-- Carry out a change: what it comes to, and the account after it. -/
def Change.perform (change : Change Unit) (account : Account) : Except Fault Unit × Account :=
  change.run.run account

/-- The account after a change that succeeds. -/
def Change.result (change : Change Unit) (account : Account) : Except Fault Account :=
  match change.perform account with
  | (.ok (), after) => .ok after
  | (.error fault, _) => .error fault

/-- Move an amount of a symbol from the spendable bucket to the frozen one. -/
def freezeInPlace (symbol : String) (amount : Amount) : Change Unit := do
  if amount = 0 then throw (.badAmount .zero)
  let account ← get
  let available := account.unfrozen symbol
  match Amount.sub? available amount with
  | none => throw (.balanceTooLow account.address symbol available amount)
  | some left =>
    -- The sum is made first, so that one that does not fit is found before anything is changed.
    match account.frozenCoins.add? symbol amount with
    | none => throw (.badAmount .tooLarge)
    | some (_, frozenCoins) =>
      modify fun account => account.setUnfrozen symbol left
      modify fun account => { account with frozenCoins }

/-- Move an amount of a symbol from the frozen bucket back to the spendable one. -/
def unfreezeInPlace (symbol : String) (amount : Amount) : Change Unit := do
  if amount = 0 then throw (.badAmount .zero)
  let account ← get
  let available := account.frozen symbol
  match Amount.sub? available amount with
  | none => throw (.frozenBalanceTooLow account.address symbol available amount)
  | some left =>
    match account.coins.add? symbol amount with
    | none => throw (.badAmount .tooLarge)
    | some (_, coins) =>
      modify fun account => account.setFrozen symbol left
      modify fun account => { account with coins }

/-- The account with an amount of a symbol frozen. -/
def freeze (account : Account) (symbol : String) (amount : Amount) : Except Fault Account :=
  (freezeInPlace symbol amount).result account

/-- The account with a frozen amount of a symbol given back. -/
def unfreeze (account : Account) (symbol : String) (amount : Amount) : Except Fault Account :=
  (unfreezeInPlace symbol amount).result account

/-- Freezing looks at the amount, at the balance and at the sum, and only then changes anything. -/
theorem perform_freezeInPlace (account : Account) (symbol : String) (amount : Amount) :
    (freezeInPlace symbol amount).perform account =
      if amount = 0 then (.error (.badAmount .zero), account)
      else
        match Amount.sub? (account.unfrozen symbol) amount with
        | none =>
          (.error (.balanceTooLow account.address symbol (account.unfrozen symbol) amount), account)
        | some left =>
          match account.frozenCoins.add? symbol amount with
          | none => (.error (.badAmount .tooLarge), account)
          | some (_, frozenCoins) =>
            (.ok (), { account.setUnfrozen symbol left with frozenCoins }) := by
  by_cases zero : amount = 0
  · rw [freezeInPlace, if_pos zero, if_pos zero]
    rfl
  · rw [freezeInPlace, if_neg zero, if_neg zero]
    show StateT.run (ExceptT.run (match Amount.sub? (account.unfrozen symbol) amount with
      | none => _
      | some left => _)) account = _
    cases Amount.sub? (account.unfrozen symbol) amount with
    | none => rfl
    | some left =>
      show StateT.run (ExceptT.run (match account.frozenCoins.add? symbol amount with
        | none => _
        | some (_, _) => _)) account = _
      cases account.frozenCoins.add? symbol amount <;> rfl

theorem perform_unfreezeInPlace (account : Account) (symbol : String) (amount : Amount) :
    (unfreezeInPlace symbol amount).perform account =
      if amount = 0 then (.error (.badAmount .zero), account)
      else
        match Amount.sub? (account.frozen symbol) amount with
        | none =>
          (.error (.frozenBalanceTooLow account.address symbol (account.frozen symbol) amount),
            account)
        | some left =>
          match account.coins.add? symbol amount with
          | none => (.error (.badAmount .tooLarge), account)
          | some (_, coins) => (.ok (), { account.setFrozen symbol left with coins }) := by
  by_cases zero : amount = 0
  · rw [unfreezeInPlace, if_pos zero, if_pos zero]
    rfl
  · rw [unfreezeInPlace, if_neg zero, if_neg zero]
    show StateT.run (ExceptT.run (match Amount.sub? (account.frozen symbol) amount with
      | none => _
      | some left => _)) account = _
    cases Amount.sub? (account.frozen symbol) amount with
    | none => rfl
    | some left =>
      show StateT.run (ExceptT.run (match account.coins.add? symbol amount with
        | none => _
        | some (_, _) => _)) account = _
      cases account.coins.add? symbol amount <;> rfl

end Account

end TokenLedger
