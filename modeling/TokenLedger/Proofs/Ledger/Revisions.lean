/-
This file proves what the changes of stored accounts keep. A store of accounts is in order when each
record can be read and lies under the address of its account, and when no account is recorded that
holds nothing or has a zero amount. All six changes read one account, revise it and write it last,
so that a change which fails has written nothing. A change that succeeds leaves the store in order
with every other record as it was, byte for byte, and in the account of the address it changes the
amounts of one symbol. The record is there as long as one of the two buckets is not empty.
-/

import Mathlib
import TokenLedger.Proofs.Ledger.Footprint
import TokenLedger.Proofs.Ledger.Moves

namespace TokenLedger

/-! ### One bucket is both buckets with the other left alone -/

namespace Account

variable {account : Account}

theorem setUnfrozen_eq (noZero : account.hasZero = false) (symbol : String) (amount : Amount) :
    account.setUnfrozen symbol amount =
      account.setBuckets symbol amount (account.frozen symbol) := by
  have kept := Coins.setAmount_amountOf (Bool.or_eq_false_iff.mp noZero).2 symbol
  exact congrArg (Account.mk account.address (account.coins.setAmount symbol amount)) kept.symm

theorem setFrozen_eq (noZero : account.hasZero = false) (symbol : String) (amount : Amount) :
    account.setFrozen symbol amount =
      account.setBuckets symbol (account.unfrozen symbol) amount := by
  have kept := Coins.setAmount_amountOf (Bool.or_eq_false_iff.mp noZero).1 symbol
  exact congrArg (Account.mk account.address · (account.frozenCoins.setAmount symbol amount))
    kept.symm

theorem hasZero_setBuckets (noZero : account.hasZero = false) (symbol : String)
    (unfrozen frozen : Amount) : (account.setBuckets symbol unfrozen frozen).hasZero = false :=
  Book.hasZero_setFrozen (Book.hasZero_setUnfrozen noZero symbol unfrozen) symbol frozen

theorem sameBut_setBuckets (account : Account) (symbol : String) (unfrozen frozen : Amount) :
    (account.setBuckets symbol unfrozen frozen).SameBut symbol account :=
  (sameBut_setFrozen _ symbol frozen).trans (sameBut_setUnfrozen account symbol unfrozen)

end Account

namespace Holdings

variable {α : Type} {format : RecordFormat} {store after : LayeredStore} {account : Account}
  {address : Address} {symbol : String} {unfrozen frozen amount : Amount}

/-! ### Stores that are in order -/

/-- Every record is that of an account and lies under its address; the account holds something, but
no zero amounts. -/
def InOrder (format : RecordFormat) (store : LayeredStore) : Prop :=
  ∀ key bytes, store.get? key = some bytes →
    ∃ account, format.decodeAccount bytes = .ok account ∧ key = utf8 account.address ∧
      account.hasZero = false ∧ account.isEmpty = false

theorem inOrder_empty (format : RecordFormat) : InOrder format (.ofStore .empty) :=
  fun _ _ found => nomatch found

/-- The account of any address can be read, recorded or not. -/
theorem InOrder.get (inOrder : InOrder format store) (address : Address) :
    ∃ account, Holdings.get format store address = .ok account ∧ account.address = address ∧
      account.hasZero = false := by
  rw [Holdings.get]
  cases found : store.get? (utf8 address) with
  | none => exact ⟨.new address, rfl, rfl, rfl⟩
  | some bytes =>
    obtain ⟨account, read, named, noZero, _⟩ := inOrder _ bytes found
    exact ⟨account, read, (utf8_injective named).symm, noZero⟩

theorem get?_put (format : RecordFormat) (store : LayeredStore) (account : Account) (key : Bytes) :
    (put format store account).get? key =
      if key = utf8 account.address then
        if account.isEmpty then none else some (format.encodeAccount account)
      else store.get? key := by
  rw [put]
  cases account.isEmpty with
  | true =>
    rw [if_pos rfl, LayeredStore.get?_eq_view, LayeredStore.view_delete, SortedMap.get?_erase,
      LayeredStore.get?_eq_view]
    rfl
  | false =>
    rw [if_neg Bool.false_ne_true, LayeredStore.get?_eq_view, LayeredStore.view_set,
      SortedMap.get?_insert, LayeredStore.get?_eq_view]
    rfl

/-- An account that is put into a store is found there, also if it has no record as it holds
nothing. -/
theorem get_put (format : RecordFormat) (store : LayeredStore) (account : Account) :
    Holdings.get format (put format store account) account.address = .ok account := by
  rw [Holdings.get, get?_put, if_pos rfl]
  cases empty : account.isEmpty with
  | true => exact congrArg Except.ok (Account.eq_new_of_isEmpty empty).symm
  | false => exact format.decodeAccount_encodeAccount account

/-- An account has a record as long as one of its buckets is not empty. -/
theorem contains_put (format : RecordFormat) (store : LayeredStore) (account : Account) :
    (put format store account).contains (utf8 account.address) = true ↔
      account.coins.isEmpty = false ∨ account.frozenCoins.isEmpty = false := by
  rw [← Bool.and_eq_false_iff, ← Account.isEmpty, LayeredStore.contains_eq_isSome, get?_put,
    if_pos rfl]
  cases account.isEmpty <;> simp

theorem InOrder.put (inOrder : InOrder format store) (noZero : account.hasZero = false) :
    InOrder format (Holdings.put format store account) := by
  intro key bytes found
  rw [get?_put] at found
  split at found
  next named =>
    split at found
    next => cases found
    next notEmpty =>
      obtain rfl := Option.some.inj found
      exact ⟨account, format.decodeAccount_encodeAccount account, named, noZero,
        Bool.eq_false_of_not_eq_true notEmpty⟩
  next => exact inOrder key bytes found

/-! ### What a change comes to -/

/-- The store is in order, the address holds the two amounts of the symbol, and all else is as it
was before: the records of other addresses, and what the address holds of other denominations. -/
structure Rebalanced (format : RecordFormat) (address : Address) (symbol : String)
    (unfrozen frozen : Amount) (store after : LayeredStore) : Prop where
  inOrder : InOrder format after
  others : ∀ key, key ≠ utf8 address → after.get? key = store.get? key
  account : ∃ before now, get format store address = .ok before ∧
    get format after address = .ok now ∧ now.address = address ∧ now.SameBut symbol before ∧
    now.unfrozen symbol = unfrozen ∧ now.frozen symbol = frozen ∧
    (after.contains (utf8 address) = true ↔
      now.coins.isEmpty = false ∨ now.frozenCoins.isEmpty = false)

theorem InOrder.rebalanced (inOrder : InOrder format store)
    (held : Holdings.get format store address = .ok account) (named : account.address = address)
    (noZero : account.hasZero = false) (symbol : String) (unfrozen frozen : Amount) :
    Rebalanced format address symbol unfrozen frozen store
      (Holdings.put format store (account.setBuckets symbol unfrozen frozen)) := by
  subst named
  refine ⟨inOrder.put (Account.hasZero_setBuckets noZero symbol unfrozen frozen),
    fun key distinct => (get?_put _ _ _ key).trans (if_neg distinct),
    account, account.setBuckets symbol unfrozen frozen, held, get_put _ _ _, rfl,
    account.sameBut_setBuckets symbol unfrozen frozen, account.unfrozen_setBuckets _ _ _,
    account.frozen_setBuckets _ _ _, contains_put _ _ _⟩

/-- A change comes to a fault and leaves the store as it is, or it comes to an answer and leaves the
address with two amounts of the symbol. -/
def ComesTo (format : RecordFormat) (store : LayeredStore) (address : Address) (symbol : String)
    (change : Change α) : Except Fault (α × Amount × Amount) → Prop
  | .error fault => change.perform store = (.error fault, store)
  | .ok (answer, unfrozen, frozen) =>
    ∃ after, change.perform store = (.ok answer, after) ∧
      Rebalanced format address symbol unfrozen frozen store after

/-- The account is read before anything can fail, and it is written last. -/
theorem InOrder.comesTo_revise (inOrder : InOrder format store)
    (held : Holdings.get format store address = .ok account) (named : account.address = address)
    (noZero : account.hasZero = false) {revision : Account → Except Fault (α × Account)}
    {outcome : Except Fault (α × Amount × Amount)}
    (revised : revision account = outcome.map fun (answer, unfrozen, frozen) =>
      (answer, account.setBuckets symbol unfrozen frozen)) :
    ComesTo format store address symbol (revise format address revision) outcome := by
  have performed := perform_revise format address revision store
  have read : (Holdings.get format store address >>= revision) = revision account := by
    rw [held]
    rfl
  rw [read, revised] at performed
  cases outcome with
  | error fault => exact performed
  | ok result => exact ⟨_, performed, inOrder.rebalanced held named noZero symbol _ _⟩

/-! ### The six changes -/

section Changes

variable (inOrder : InOrder format store)
  (held : Holdings.get format store address = .ok account) (named : account.address = address)
  (noZero : account.hasZero = false)

include inOrder held named noZero

theorem InOrder.credit (symbol : String) (amount : Amount) :
    ComesTo format store address symbol (Holdings.credit format address symbol amount)
      (if Book.Overflows (account.unfrozen symbol) amount then .error (.badAmount .tooLarge)
      else .ok (account.unfrozen symbol + amount, account.unfrozen symbol + amount,
        account.frozen symbol)) := by
  refine inOrder.comesTo_revise held named noZero ?_
  have sum : account.coins.add? symbol amount =
      if Book.Overflows (account.unfrozen symbol) amount then none
      else some (account.unfrozen symbol + amount,
        account.coins.setAmount symbol (account.unfrozen symbol + amount)) :=
    Coins.add?_eq account.coins symbol amount
  rw [sum]
  split_ifs
  · rfl
  · exact congrArg (fun account => Except.ok (_, account)) (account.setUnfrozen_eq noZero symbol _)

theorem InOrder.debit (symbol : String) (amount : Amount) :
    ComesTo format store address symbol (Holdings.debit format address symbol amount)
      (if account.unfrozen symbol < amount then
        .error (.balanceTooLow address symbol (account.unfrozen symbol) amount)
      else .ok (account.unfrozen symbol - amount, account.unfrozen symbol - amount,
        account.frozen symbol)) := by
  refine inOrder.comesTo_revise held named noZero ?_
  dsimp only
  rw [Amount.sub?_eq]
  split_ifs
  · rfl
  · exact congrArg (fun account => Except.ok (_, account)) (account.setUnfrozen_eq noZero symbol _)

theorem InOrder.setUnfrozen (symbol : String) (amount : Amount) :
    ComesTo format store address symbol (Holdings.setUnfrozen format address symbol amount)
      (.ok ((), amount, account.frozen symbol)) :=
  inOrder.comesTo_revise held named noZero
    (congrArg (fun account => Except.ok ((), account))
      (account.setUnfrozen_eq noZero symbol amount))

theorem InOrder.setFrozen (symbol : String) (amount : Amount) :
    ComesTo format store address symbol (Holdings.setFrozen format address symbol amount)
      (.ok ((), account.unfrozen symbol, amount)) :=
  inOrder.comesTo_revise held named noZero
    (congrArg (fun account => Except.ok ((), account)) (account.setFrozen_eq noZero symbol amount))

theorem InOrder.freeze (symbol : String) (amount : Amount) :
    ComesTo format store address symbol (Holdings.freeze format address symbol amount)
      (if amount = 0 then .error (.badAmount .zero)
      else if account.unfrozen symbol < amount then
        .error (.balanceTooLow address symbol (account.unfrozen symbol) amount)
      else if Book.Overflows (account.frozen symbol) amount then .error (.badAmount .tooLarge)
      else .ok ((account.unfrozen symbol - amount, account.frozen symbol + amount),
        account.unfrozen symbol - amount, account.frozen symbol + amount)) := by
  refine inOrder.comesTo_revise held named noZero ?_
  rw [Account.freeze_eq, named]
  split_ifs
  · rfl
  · rfl
  · rfl
  · exact congrArg Except.ok (withBalances_setBuckets account symbol _ _)

theorem InOrder.unfreeze (symbol : String) (amount : Amount) :
    ComesTo format store address symbol (Holdings.unfreeze format address symbol amount)
      (if amount = 0 then .error (.badAmount .zero)
      else if account.frozen symbol < amount then
        .error (.frozenBalanceTooLow address symbol (account.frozen symbol) amount)
      else if Book.Overflows (account.unfrozen symbol) amount then .error (.badAmount .tooLarge)
      else .ok ((account.unfrozen symbol + amount, account.frozen symbol - amount),
        account.unfrozen symbol + amount, account.frozen symbol - amount)) := by
  refine inOrder.comesTo_revise held named noZero ?_
  rw [Account.unfreeze_eq, named]
  split_ifs
  · rfl
  · rfl
  · rfl
  · exact congrArg Except.ok (withBalances_setBuckets account symbol _ _)

end Changes

/-- In a store that is in order every address holds two amounts of a symbol, and on these alone it
depends whether a change fails and what it comes to. -/
theorem changes_keep_order (inOrder : InOrder format store) (address : Address) (symbol : String)
    (amount : Amount) :
    ∃ unfrozen frozen,
      Holdings.unfrozen format store address symbol = .ok unfrozen ∧
      Holdings.frozen format store address symbol = .ok frozen ∧
      ComesTo format store address symbol (credit format address symbol amount)
        (if Book.Overflows unfrozen amount then .error (.badAmount .tooLarge)
        else .ok (unfrozen + amount, unfrozen + amount, frozen)) ∧
      ComesTo format store address symbol (debit format address symbol amount)
        (if unfrozen < amount then .error (.balanceTooLow address symbol unfrozen amount)
        else .ok (unfrozen - amount, unfrozen - amount, frozen)) ∧
      ComesTo format store address symbol (setUnfrozen format address symbol amount)
        (.ok ((), amount, frozen)) ∧
      ComesTo format store address symbol (setFrozen format address symbol amount)
        (.ok ((), unfrozen, amount)) ∧
      ComesTo format store address symbol (freeze format address symbol amount)
        (if amount = 0 then .error (.badAmount .zero)
        else if unfrozen < amount then .error (.balanceTooLow address symbol unfrozen amount)
        else if Book.Overflows frozen amount then .error (.badAmount .tooLarge)
        else .ok ((unfrozen - amount, frozen + amount), unfrozen - amount, frozen + amount)) ∧
      ComesTo format store address symbol (unfreeze format address symbol amount)
        (if amount = 0 then .error (.badAmount .zero)
        else if frozen < amount then .error (.frozenBalanceTooLow address symbol frozen amount)
        else if Book.Overflows unfrozen amount then .error (.badAmount .tooLarge)
        else .ok ((unfrozen + amount, frozen - amount), unfrozen + amount, frozen - amount)) := by
  obtain ⟨account, held, named, noZero⟩ := inOrder.get address
  refine ⟨account.unfrozen symbol, account.frozen symbol, ?_, ?_,
    inOrder.credit held named noZero symbol amount, inOrder.debit held named noZero symbol amount,
    inOrder.setUnfrozen held named noZero symbol amount,
    inOrder.setFrozen held named noZero symbol amount,
    inOrder.freeze held named noZero symbol amount,
    inOrder.unfreeze held named noZero symbol amount⟩
  · rw [Holdings.unfrozen, held]
    rfl
  · rw [Holdings.frozen, held]
    rfl

/-- Two accounts: one holds something in both buckets, the other in one. -/
def twoHolders : LayeredStore :=
  put .json (put .json (.ofStore .empty) ⟨"alice", Coins.single "GLD" 5, Coins.single "GLD" 2⟩)
    ⟨"bob", Coins.single "GLD" 7, .empty⟩

/-- All that an account holds can be taken, but no more than it holds can be frozen. -/
theorem changes_keep_order_twoHolders :
    InOrder .json twoHolders ∧
      ComesTo .json twoHolders "bob" "GLD" (debit .json "bob" "GLD" 7) (.ok (0, 0, 0)) ∧
      ComesTo .json twoHolders "bob" "GLD" (freeze .json "bob" "GLD" 8)
        (.error (.balanceTooLow "bob" "GLD" 7 8)) := by
  have inOrder : InOrder .json twoHolders :=
    ((inOrder_empty .json).put (by decide)).put (by decide)
  have held : Holdings.get .json twoHolders "bob" =
      .ok ⟨"bob", Coins.single "GLD" 7, .empty⟩ :=
    get_put .json _ ⟨"bob", Coins.single "GLD" 7, .empty⟩
  have spendable : Holdings.unfrozen .json twoHolders "bob" "GLD" = .ok 7 := by
    rw [Holdings.unfrozen, held]
    rfl
  have kept : Holdings.frozen .json twoHolders "bob" "GLD" = .ok 0 := by
    rw [Holdings.frozen, held]
    rfl
  obtain ⟨unfrozen, frozen, first, second, _, debited, _⟩ :=
    changes_keep_order inOrder "bob" "GLD" 7
  obtain ⟨other, _, third, _, _, _, _, _, refused, _⟩ := changes_keep_order inOrder "bob" "GLD" 8
  cases spendable.symm.trans first
  cases kept.symm.trans second
  cases spendable.symm.trans third
  exact ⟨inOrder, debited, refused⟩

end Holdings

end TokenLedger
