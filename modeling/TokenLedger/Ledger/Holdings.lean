/-
The accounts of a ledger, one record under each address. An address without a record holds nothing,
and an account that holds nothing has no record.
-/

import TokenLedger.Record.Format
import TokenLedger.Store.Scope

namespace TokenLedger

namespace Holdings

/-- The account of an address. -/
def get (format : RecordFormat) (store : LayeredStore) (address : Address) : Except Fault Account :=
  match store.get? (utf8 address) with
  | some bytes => format.decodeAccount bytes
  | none => .ok (.new address)

/-- Store an account under its address, or remove the record of one that holds nothing. -/
def put (format : RecordFormat) (store : LayeredStore) (account : Account) : LayeredStore :=
  if account.isEmpty then store.delete (utf8 account.address)
  else store.set (utf8 account.address) (format.encodeAccount account)

/-- One stored account with its key. -/
def readEntry (format : RecordFormat) (entry : Bytes × Bytes) : Except Fault (Bytes × Account) := do
  return (entry.1, ← format.decodeAccount entry.2)

/-- Every stored account with its key, in key order. -/
def entries (format : RecordFormat) (store : LayeredStore) :
    Except Fault (List (Bytes × Account)) :=
  store.entries.mapM (readEntry format)

/-- Every stored account, in key order. -/
def all (format : RecordFormat) (store : LayeredStore) : Except Fault (List Account) := do
  return (← entries format store).map (·.2)

/-! ### Single buckets -/

/-- What an address can spend of a symbol. -/
def unfrozen (format : RecordFormat) (store : LayeredStore) (address : Address) (symbol : String) :
    Except Fault Amount := do
  return (← get format store address).unfrozen symbol

/-- What an address holds frozen of a symbol. -/
def frozen (format : RecordFormat) (store : LayeredStore) (address : Address) (symbol : String) :
    Except Fault Amount := do
  return (← get format store address).frozen symbol

/-! ### Changes -/

/-- A change of the stored accounts in place. What it has written before it failed remains
written. -/
abbrev Change := ExceptT Fault (StateM LayeredStore)

/-- Carry out a change: what it comes to, and the store after it. -/
def Change.perform {α : Type} (change : Change α) (store : LayeredStore) :
    Except Fault α × LayeredStore :=
  change.run.run store

/-- Revise the account of an address, and store what it has become. -/
def revise {α : Type} (format : RecordFormat) (address : Address)
    (revision : Account → Except Fault (α × Account)) : Change α := do
  let store ← getThe LayeredStore
  let account ← get format store address
  let (answer, account) ← revision account
  set (put format store account)
  return answer

/-- Overwrite what an address can spend of a symbol. -/
def setUnfrozen (format : RecordFormat) (address : Address) (symbol : String) (amount : Amount) :
    Change Unit :=
  revise format address fun account => .ok ((), account.setUnfrozen symbol amount)

/-- Overwrite what an address holds frozen of a symbol. -/
def setFrozen (format : RecordFormat) (address : Address) (symbol : String) (amount : Amount) :
    Change Unit :=
  revise format address fun account => .ok ((), account.setFrozen symbol amount)

/-- Add to what an address can spend; the new balance. -/
def credit (format : RecordFormat) (address : Address) (symbol : String) (amount : Amount) :
    Change Amount :=
  revise format address fun account =>
    match account.coins.add? symbol amount with
    | none => .error (.badAmount .tooLarge)
    | some (balance, coins) => .ok (balance, { account with coins })

/-- Take from what an address can spend; the new balance. -/
def debit (format : RecordFormat) (address : Address) (symbol : String) (amount : Amount) :
    Change Amount :=
  revise format address fun account =>
    let available := account.unfrozen symbol
    match Amount.sub? available amount with
    | none => .error (.balanceTooLow address symbol available amount)
    | some balance => .ok (balance, account.setUnfrozen symbol balance)

/-- An account with the two amounts of a symbol that it holds, spendable and frozen. -/
def withBalances (symbol : String) (account : Account) : (Amount × Amount) × Account :=
  ((account.unfrozen symbol, account.frozen symbol), account)

/-- Freeze an amount; the two new amounts, spendable and frozen. -/
def freeze (format : RecordFormat) (address : Address) (symbol : String) (amount : Amount) :
    Change (Amount × Amount) :=
  revise format address fun account => (account.freeze symbol amount).map (withBalances symbol)

/-- Unfreeze an amount; the two new amounts, spendable and frozen. -/
def unfreeze (format : RecordFormat) (address : Address) (symbol : String) (amount : Amount) :
    Change (Amount × Amount) :=
  revise format address fun account => (account.unfreeze symbol amount).map (withBalances symbol)

/-- The record is written last: a change that fails has written nothing. -/
theorem perform_revise {α : Type} (format : RecordFormat) (address : Address)
    (revision : Account → Except Fault (α × Account)) (store : LayeredStore) :
    (revise format address revision).perform store =
      match get format store address >>= revision with
      | .error fault => (.error fault, store)
      | .ok (answer, account) => (.ok answer, put format store account) := by
  change StateT.run (ExceptT.run (do
    let account ← (liftM (get format store address) : Change Account)
    let (answer, account) ← revision account
    set (put format store account)
    return answer)) store = _
  cases get format store address with
  | error fault => rfl
  | ok account =>
    change StateT.run (ExceptT.run (do
      let (answer, account) ← (liftM (revision account) : Change (α × Account))
      set (put format store account)
      return answer)) store = match revision account with
        | .error fault => (.error fault, store)
        | .ok (answer, account) => (.ok answer, put format store account)
    cases revision account <;> rfl

end Holdings

end TokenLedger
