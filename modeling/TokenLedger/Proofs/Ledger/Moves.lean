/-
This file says what the moves between the two buckets of an account come to. A move looks at the
amount, at what is there to be moved and at the sum, and changes the account only after all three. A
move that has succeeded can always be taken back: what was added is there, and the sum of what was
left is what was there before. Taking it back restores the account, because an amount that is set to
zero leaves no trace and one that is set again is the only one; it restores the book for the same
reason, as an account that has become empty has no record.
-/

import Mathlib
import TokenLedger.Proofs.Ledger.Conservation

namespace TokenLedger

/-! ### Sums and differences -/

theorem Amount.add?_eq (first second : Amount) :
    add? first second = if Book.Overflows first second then none else some (first + second) := by
  split
  next overflow => exact add?_eq_none_iff.mpr overflow
  next fits => exact add?_eq_some_iff.mpr (Book.toNat_add_of_fits fits)

theorem Coins.add?_eq (coins : Coins) (denomination : String) (amount : Amount) :
    coins.add? denomination amount =
      if Book.Overflows (coins.amountOf denomination) amount then none
      else
        some (coins.amountOf denomination + amount,
          coins.setAmount denomination (coins.amountOf denomination + amount)) := by
  rw [add?, Amount.add?_eq]
  by_cases overflow : Book.Overflows (coins.amountOf denomination) amount
  · rw [if_pos overflow, if_pos overflow]
    rfl
  · rw [if_neg overflow, if_neg overflow]
    rfl

theorem Amount.sub?_eq (first second : Amount) :
    sub? first second = if first < second then none else some (first - second) := by
  rw [sub?]
  by_cases short : first < second
  · rw [if_pos short, if_neg (UInt64.not_le.mpr short)]
  · rw [if_neg short, if_pos (UInt64.not_lt.mp short)]

/-! ### Amounts that are set again -/

namespace Coins

theorem get?_setAmount (coins : Coins) (denomination other : String) (amount : Amount) :
    (coins.setAmount denomination amount).get? other =
      if other = denomination then if amount = 0 then none else some amount
      else coins.get? other := by
  rw [setAmount]
  by_cases zero : amount = 0
  · rw [if_pos zero, if_pos zero, SortedMap.get?_erase]
  · rw [if_neg zero, if_neg zero, SortedMap.get?_insert]

/-- Of two amounts that are set, the second counts. -/
theorem setAmount_setAmount (coins : Coins) (denomination : String) (first second : Amount) :
    (coins.setAmount denomination first).setAmount denomination second =
      coins.setAmount denomination second := by
  refine SortedMap.ext_get? fun other => ?_
  simp only [get?_setAmount]
  by_cases same : other = denomination
  · rw [if_pos same, if_pos same]
  · rw [if_neg same, if_neg same, if_neg same]

/-- Setting the amount that is there changes nothing, unless it is a zero that is kept. -/
theorem setAmount_amountOf {coins : Coins} (noZero : coins.hasZero = false)
    (denomination : String) :
    coins.setAmount denomination (coins.amountOf denomination) = coins := by
  refine SortedMap.ext_get? fun other => ?_
  rw [get?_setAmount]
  by_cases same : other = denomination
  · subst same
    rw [if_pos rfl, amountOf]
    cases found : coins.get? other with
    | none => rfl
    | some amount =>
      have positive : amount ≠ 0 := fun zero =>
        Book.hasZero_eq_false_iff.mp noZero other (zero ▸ found)
      exact if_neg positive
  · rw [if_neg same]

end Coins

namespace Account

variable {account : Account}

/-- The account with both amounts of a symbol changed. -/
def setBuckets (account : Account) (symbol : String) (unfrozen frozen : Amount) : Account :=
  (account.setUnfrozen symbol unfrozen).setFrozen symbol frozen

@[simp] theorem unfrozen_setBuckets (account : Account) (symbol : String)
    (unfrozen frozen : Amount) :
    (account.setBuckets symbol unfrozen frozen).unfrozen symbol = unfrozen :=
  Coins.amountOf_setAmount_self account.coins symbol unfrozen

@[simp] theorem frozen_setBuckets (account : Account) (symbol : String)
    (unfrozen frozen : Amount) :
    (account.setBuckets symbol unfrozen frozen).frozen symbol = frozen :=
  Coins.amountOf_setAmount_self account.frozenCoins symbol frozen

theorem setBuckets_setBuckets (account : Account) (symbol : String)
    (unfrozen frozen thawed kept : Amount) :
    (account.setBuckets symbol unfrozen frozen).setBuckets symbol thawed kept =
      account.setBuckets symbol thawed kept := by
  have coins := Coins.setAmount_setAmount account.coins symbol unfrozen thawed
  have frozenCoins := Coins.setAmount_setAmount account.frozenCoins symbol frozen kept
  exact congrArg₂ (Account.mk account.address) coins frozenCoins

/-- Setting the amounts that are there changes nothing. -/
theorem setBuckets_self (noZero : account.hasZero = false) (symbol : String) :
    account.setBuckets symbol (account.unfrozen symbol) (account.frozen symbol) = account := by
  obtain ⟨coins, frozenCoins⟩ := Bool.or_eq_false_iff.mp noZero
  exact congrArg₂ (Account.mk account.address) (Coins.setAmount_amountOf coins symbol)
    (Coins.setAmount_amountOf frozenCoins symbol)

end Account

/-- The two amounts that are reported are the ones that have been set. -/
theorem Holdings.withBalances_setBuckets (account : Account) (symbol : String)
    (unfrozen frozen : Amount) :
    withBalances symbol ((account.setUnfrozen symbol unfrozen).setFrozen symbol frozen) =
      ((unfrozen, frozen), (account.setUnfrozen symbol unfrozen).setFrozen symbol frozen) := by
  have reported : ((account.setUnfrozen symbol unfrozen).setFrozen symbol frozen).unfrozen symbol =
      unfrozen := Coins.amountOf_setAmount_self account.coins symbol unfrozen
  have reportedFrozen :
      ((account.setUnfrozen symbol unfrozen).setFrozen symbol frozen).frozen symbol = frozen :=
    Coins.amountOf_setAmount_self account.frozenCoins symbol frozen
  rw [withBalances, reported, reportedFrozen]

/-! ### Moves of an account -/

/-- A move between the two buckets of an account. -/
inductive Move where
  | freeze
  | unfreeze
  deriving DecidableEq

namespace Move

/-- The move that takes this one back. -/
def opposite : Move → Move
  | .freeze => .unfreeze
  | .unfreeze => .freeze

/-- The orders for the move. -/
def kind : Move → OrderKind
  | .freeze => .freeze
  | .unfreeze => .unfreeze

/-- The move carried out on an account. -/
def inPlace : Move → String → Amount → Account.Change Unit
  | .freeze => Account.freezeInPlace
  | .unfreeze => Account.unfreezeInPlace

/-- What there is to be moved. -/
def source : Move → Account → String → Amount
  | .freeze => Account.unfrozen
  | .unfreeze => Account.frozen

/-- What there is in the other bucket. -/
def target : Move → Account → String → Amount
  | .freeze => Account.frozen
  | .unfreeze => Account.unfrozen

/-- Why more than there is cannot be moved. -/
def shortage : Move → Account → String → Amount → Fault
  | .freeze, account, symbol, amount =>
    .balanceTooLow account.address symbol (account.unfrozen symbol) amount
  | .unfreeze, account, symbol, amount =>
    .frozenBalanceTooLow account.address symbol (account.frozen symbol) amount

/-- The account after the move. -/
def moved : Move → Account → String → Amount → Account
  | .freeze, account, symbol, amount =>
    account.setBuckets symbol (account.unfrozen symbol - amount) (account.frozen symbol + amount)
  | .unfreeze, account, symbol, amount =>
    account.setBuckets symbol (account.unfrozen symbol + amount) (account.frozen symbol - amount)

@[simp] theorem address_moved (move : Move) (account : Account) (symbol : String)
    (amount : Amount) : (move.moved account symbol amount).address = account.address := by
  cases move <;> rfl

variable {move : Move} {account after : Account} {symbol : String} {amount : Amount}

/-- A move looks at the amount, at what is there and at the sum; one that fails any of the three has
changed nothing. -/
theorem perform_inPlace (move : Move) (account : Account) (symbol : String) (amount : Amount) :
    (move.inPlace symbol amount).perform account =
      if amount = 0 then (.error (.badAmount .zero), account)
      else if move.source account symbol < amount then
        (.error (move.shortage account symbol amount), account)
      else if Book.Overflows (move.target account symbol) amount then
        (.error (.badAmount .tooLarge), account)
      else (.ok (), move.moved account symbol amount) := by
  by_cases zero : amount = 0
  · cases move <;> simp only [inPlace, Account.perform_freezeInPlace,
      Account.perform_unfreezeInPlace, if_pos zero]
  cases move with
  | freeze =>
    have sum : account.frozenCoins.add? symbol amount =
        if Book.Overflows (account.frozen symbol) amount then none
        else some (account.frozen symbol + amount,
          account.frozenCoins.setAmount symbol (account.frozen symbol + amount)) :=
      Coins.add?_eq account.frozenCoins symbol amount
    rw [inPlace, Account.perform_freezeInPlace, if_neg zero, if_neg zero, Amount.sub?_eq, sum]
    change _ = if account.unfrozen symbol < amount then _
      else if Book.Overflows (account.frozen symbol) amount then _ else _
    split_ifs <;> rfl
  | unfreeze =>
    have sum : account.coins.add? symbol amount =
        if Book.Overflows (account.unfrozen symbol) amount then none
        else some (account.unfrozen symbol + amount,
          account.coins.setAmount symbol (account.unfrozen symbol + amount)) :=
      Coins.add?_eq account.coins symbol amount
    rw [inPlace, Account.perform_unfreezeInPlace, if_neg zero, if_neg zero, Amount.sub?_eq, sum]
    change _ = if account.frozen symbol < amount then _
      else if Book.Overflows (account.unfrozen symbol) amount then _ else _
    split_ifs <;> rfl

/-- A move that succeeds has found a positive amount, enough to be moved, and a sum that fits. -/
theorem perform_eq_ok (performed : (move.inPlace symbol amount).perform account = (.ok (), after)) :
    amount ≠ 0 ∧ ¬ move.source account symbol < amount ∧
      ¬ Book.Overflows (move.target account symbol) amount ∧
      after = move.moved account symbol amount := by
  rw [perform_inPlace] at performed
  split_ifs at performed with zero short overflow
  · cases performed
  · cases performed
  · cases performed
  · exact ⟨zero, short, overflow, (congrArg Prod.snd performed).symm⟩

/-- What a move comes to. -/
theorem result_inPlace (move : Move) (account : Account) (symbol : String) (amount : Amount) :
    (move.inPlace symbol amount).result account =
      if amount = 0 then .error (.badAmount .zero)
      else if move.source account symbol < amount then .error (move.shortage account symbol amount)
      else if Book.Overflows (move.target account symbol) amount then .error (.badAmount .tooLarge)
      else .ok (move.moved account symbol amount) := by
  rw [Account.Change.result, perform_inPlace]
  by_cases zero : amount = 0
  · rw [if_pos zero, if_pos zero]
  by_cases short : move.source account symbol < amount
  · rw [if_neg zero, if_neg zero, if_pos short, if_pos short]
  rw [if_neg zero, if_neg zero, if_neg short, if_neg short]
  by_cases overflow : Book.Overflows (move.target account symbol) amount
  · rw [if_pos overflow, if_pos overflow]
  · rw [if_neg overflow, if_neg overflow]

/-- A move that fails has changed nothing. -/
theorem perform_eq_error {fault : Fault}
    (failed : (move.inPlace symbol amount).perform account = (.error fault, after)) :
    after = account := by
  rw [perform_inPlace] at failed
  split_ifs at failed
  · exact (congrArg Prod.snd failed).symm
  · exact (congrArg Prod.snd failed).symm
  · exact (congrArg Prod.snd failed).symm
  · cases failed

/-! What can be moved back is what was there before and what has been added to it. -/

theorem source_opposite (move : Move) (account : Account) (symbol : String) (amount : Amount) :
    move.opposite.source (move.moved account symbol amount) symbol =
      move.target account symbol + amount := by
  cases move
  · exact Account.frozen_setBuckets _ _ _ _
  · exact Account.unfrozen_setBuckets _ _ _ _

theorem target_opposite (move : Move) (account : Account) (symbol : String) (amount : Amount) :
    move.opposite.target (move.moved account symbol amount) symbol =
      move.source account symbol - amount := by
  cases move
  · exact Account.unfrozen_setBuckets _ _ _ _
  · exact Account.frozen_setBuckets _ _ _ _

theorem moved_opposite (noZero : account.hasZero = false) (move : Move) (symbol : String)
    (amount : Amount) :
    move.opposite.moved (move.moved account symbol amount) symbol amount = account := by
  have restored (first second : Amount) :
      (account.setBuckets symbol first second).setBuckets symbol (account.unfrozen symbol)
        (account.frozen symbol) = account := by
    rw [Account.setBuckets_setBuckets, Account.setBuckets_self noZero]
  cases move with
  | freeze =>
    simp only [opposite, moved, Account.unfrozen_setBuckets, Account.frozen_setBuckets,
      UInt64.sub_add_cancel, UInt64.add_sub_cancel]
    exact restored _ _
  | unfreeze =>
    simp only [opposite, moved, Account.unfrozen_setBuckets, Account.frozen_setBuckets,
      UInt64.sub_add_cancel, UInt64.add_sub_cancel]
    exact restored _ _

/-- There is enough to be moved back: what was added is still there. -/
theorem enough_opposite (fits : ¬ Book.Overflows (move.target account symbol) amount) :
    ¬ move.opposite.source (move.moved account symbol amount) symbol < amount := by
  rw [source_opposite, UInt64.lt_iff_toNat_lt, Book.toNat_add_of_fits fits]
  exact Nat.not_lt.mpr (Nat.le_add_left _ _)

/-- What is moved back fits: the sum is what was there before. -/
theorem fits_opposite (enough : ¬ move.source account symbol < amount) :
    ¬ Book.Overflows (move.opposite.target (move.moved account symbol amount) symbol) amount := by
  rw [target_opposite, Book.Overflows, Book.toNat_sub_of_enough enough]
  exact Nat.not_le.mpr (UInt64.toNat_lt_size _)

/-- A move that has succeeded can be taken back, which restores the account. -/
theorem perform_opposite (noZero : account.hasZero = false)
    (performed : (move.inPlace symbol amount).perform account = (.ok (), after)) :
    (move.opposite.inPlace symbol amount).perform after = (.ok (), account) := by
  obtain ⟨positive, enough, fits, rfl⟩ := perform_eq_ok performed
  rw [perform_inPlace, if_neg positive, if_neg (enough_opposite fits),
    if_neg (fits_opposite enough), moved_opposite noZero]

end Move

theorem Account.freeze_eq (account : Account) (symbol : String) (amount : Amount) :
    account.freeze symbol amount =
      if amount = 0 then .error (.badAmount .zero)
      else if account.unfrozen symbol < amount then
        .error (.balanceTooLow account.address symbol (account.unfrozen symbol) amount)
      else if Book.Overflows (account.frozen symbol) amount then .error (.badAmount .tooLarge)
      else
        .ok ((account.setUnfrozen symbol (account.unfrozen symbol - amount)).setFrozen symbol
          (account.frozen symbol + amount)) :=
  Move.freeze.result_inPlace account symbol amount

theorem Account.unfreeze_eq (account : Account) (symbol : String) (amount : Amount) :
    account.unfreeze symbol amount =
      if amount = 0 then .error (.badAmount .zero)
      else if account.frozen symbol < amount then
        .error (.frozenBalanceTooLow account.address symbol (account.frozen symbol) amount)
      else if Book.Overflows (account.unfrozen symbol) amount then .error (.badAmount .tooLarge)
      else
        .ok ((account.setUnfrozen symbol (account.unfrozen symbol + amount)).setFrozen symbol
          (account.frozen symbol - amount)) :=
  Move.unfreeze.result_inPlace account symbol amount

/-! ### Moves in a book -/

namespace Book

variable {params : Params} {candidate : UInt64 → String → String} {nonce next : UInt64}
  {book after : Book} {move : Move} {terms : Order} {receipt : Receipt} {amount : Amount}

/-- Of two accounts of one address that are recorded, the second counts. -/
theorem withAccount_withAccount (book : Book) {first second : Account}
    (same : first.address = second.address) :
    (book.withAccount first).withAccount second = book.withAccount second := by
  have accounts : ((book.withAccount first).withAccount second).accounts =
      (book.withAccount second).accounts := by
    refine SortedMap.ext_get? fun address => ?_
    rw [get?_withAccount, get?_withAccount, get?_withAccount, same]
    split_ifs <;> rfl
  exact congrArg (Book.mk book.tokens) accounts

/-- Recording the account that is there changes nothing: one without a record holds nothing. -/
theorem Complete.withAccount_account (complete : book.Complete) (address : Address) :
    book.withAccount (book.account address) = book := by
  have accounts : (book.withAccount (book.account address)).accounts = book.accounts := by
    refine SortedMap.ext_get? fun other => ?_
    rw [get?_withAccount, complete.address_account]
    by_cases isAddress : other = address
    · subst isAddress
      rw [if_pos rfl, Book.account]
      cases found : book.accounts.get? other with
      | none => rfl
      | some account =>
        have notEmpty := (complete.account other account found).notEmpty
        rw [Option.getD_some, notEmpty]
        rfl
    · rw [if_neg isAddress]
  exact congrArg (Book.mk book.tokens) accounts

/-- A move that has been posted is recorded as the move of the signer's account. -/
theorem moved_of_posted
    (posted : Posted params candidate nonce book (.order move.kind terms) receipt after next) :
    terms.validateMove = .ok () ∧
      ∃ amount, Amount.parseOrFault terms.amount = .ok amount ∧
        ¬ move.source (book.account terms.signer) terms.symbol < amount ∧
        ¬ Overflows (move.target (book.account terms.signer) terms.symbol) amount ∧
        after = book.withAccount (move.moved (book.account terms.signer) terms.symbol amount) := by
  cases move with
  | freeze =>
    cases posted with
    | freeze valid parsed enough fits => exact ⟨valid, _, parsed, enough, fits, rfl⟩
  | unfreeze =>
    cases posted with
    | unfreeze valid parsed enough fits => exact ⟨valid, _, parsed, enough, fits, rfl⟩

/-- An order to move is carried out if the signer has enough and the sum fits. -/
theorem order_of_enough (params : Params) (book : Book) (move : Move)
    (parsed : Amount.parseOrFault terms.amount = .ok amount)
    (enough : ¬ move.source (book.account terms.signer) terms.symbol < amount)
    (fits : ¬ Overflows (move.target (book.account terms.signer) terms.symbol) amount) :
    ∃ receipt, book.order params move.kind terms =
      .ok (receipt,
        book.withAccount (move.moved (book.account terms.signer) terms.symbol amount)) := by
  cases move with
  | freeze =>
    rw [Move.kind, order, freeze, parsed]
    exact ⟨_, (if_neg enough).trans (if_neg fits)⟩
  | unfreeze =>
    rw [Move.kind, order, unfreeze, parsed]
    exact ⟨_, (if_neg enough).trans (if_neg fits)⟩

/-- After a move has been posted, the opposite move of the same terms can be posted, and leaves the
book as it was. -/
theorem Complete.post_opposite (complete : book.Complete)
    (posted : Posted params candidate nonce book (.order move.kind terms) receipt after next) :
    ∃ back, after.post params candidate next (.order move.opposite.kind terms) =
      .ok (back, book, next) := by
  obtain ⟨valid, amount, parsed, enough, fits, rfl⟩ := moved_of_posted posted
  have named : (move.moved (book.account terms.signer) terms.symbol amount).address =
      terms.signer := by
    rw [Move.address_moved, complete.address_account]
  have held := book.account_withAccount_self named
  obtain ⟨back, ordered⟩ := order_of_enough params
    (book.withAccount (move.moved (book.account terms.signer) terms.symbol amount)) move.opposite
    parsed (held.symm ▸ Move.enough_opposite fits) (held.symm ▸ Move.fits_opposite enough)
  rw [held, Move.moved_opposite (complete.hasZero_account _),
    withAccount_withAccount _ (Move.address_moved _ _ _ _), complete.withAccount_account] at ordered
  have accepted : (Request.order move.opposite.kind terms).validate = .ok () := by
    cases move <;> exact valid
  exact ⟨back, by rw [post_order params candidate next _ accepted, ordered]; rfl⟩

end Book

end TokenLedger
