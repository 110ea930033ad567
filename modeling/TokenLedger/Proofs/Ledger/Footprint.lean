/-
This file says which records a posting touches. It records one account anew, that of the address
which signs and which the receipt names, and in this account it changes no denomination but the one
that the receipt names; of the tokens it records at most the one under the symbol of the receipt. A
token that is registered is never dropped: minting and burning by its owner change its supply by
exactly the amount, and nothing else about it ever changes.
-/

import Mathlib
import TokenLedger.Proofs.Ledger.Conservation

namespace TokenLedger

/-! ### Denominations that are left alone -/

namespace Account

variable {account between other : Account} {symbol denomination : String}

/-- Two accounts hold the same of every denomination but one, in each bucket. -/
def SameBut (symbol : String) (account other : Account) : Prop :=
  ∀ denomination, denomination ≠ symbol →
    account.coins.get? denomination = other.coins.get? denomination ∧
      account.frozenCoins.get? denomination = other.frozenCoins.get? denomination

theorem SameBut.trans (first : account.SameBut symbol between)
    (second : between.SameBut symbol other) : account.SameBut symbol other :=
  fun denomination distinct =>
    ⟨(first denomination distinct).1.trans (second denomination distinct).1,
      (first denomination distinct).2.trans (second denomination distinct).2⟩

theorem sameBut_setUnfrozen (account : Account) (symbol : String) (amount : Amount) :
    (account.setUnfrozen symbol amount).SameBut symbol account :=
  fun _ distinct => ⟨account.coins.get?_setAmount_other distinct amount, rfl⟩

theorem sameBut_setFrozen (account : Account) (symbol : String) (amount : Amount) :
    (account.setFrozen symbol amount).SameBut symbol account :=
  fun _ distinct => ⟨rfl, account.frozenCoins.get?_setAmount_other distinct amount⟩

theorem SameBut.holding_eq (same : account.SameBut symbol other)
    (distinct : denomination ≠ symbol) :
    account.holding denomination = other.holding denomination := by
  obtain ⟨coins, frozenCoins⟩ := same denomination distinct
  rw [holding, unfrozen, frozen, Coins.amountOf, Coins.amountOf, coins, frozenCoins]
  rfl

end Account

namespace Book

variable {params : Params} {candidate : UInt64 → String → String} {nonce next : UInt64}
  {book after : Book} {request : Request} {receipt : Receipt}

/-! ### The account of the signer -/

theorem Complete.account_setUnfrozen (complete : book.Complete) (address : Address)
    (symbol : String) (amount : Amount) :
    (book.setUnfrozen address symbol amount).account address =
      (book.account address).setUnfrozen symbol amount :=
  book.account_withAccount_self (complete.address_account address)

theorem Complete.account_setBuckets (complete : book.Complete) (address : Address)
    (symbol : String) (unfrozen frozen : Amount) :
    (book.setBuckets address symbol unfrozen frozen).account address =
      ((book.account address).setUnfrozen symbol unfrozen).setFrozen symbol frozen :=
  book.account_withAccount_self (complete.address_account address)

/-- The address that a receipt names is the one that has signed. -/
theorem Posted.signer_eq
    (posted : Posted params candidate nonce book request receipt after next) :
    request.signer = receipt.address := by
  cases posted <;> rfl

theorem Complete.accounts_setUnfrozen (complete : book.Complete) (address : Address)
    (symbol : String) (amount : Amount) :
    ∃ account : Account, account.address = address ∧
      account.SameBut symbol (book.account address) ∧
      (book.setUnfrozen address symbol amount).accounts = (book.withAccount account).accounts :=
  ⟨(book.account address).setUnfrozen symbol amount, complete.address_account address,
    Account.sameBut_setUnfrozen _ _ _, rfl⟩

theorem Complete.accounts_setBuckets (complete : book.Complete) (address : Address)
    (symbol : String) (unfrozen frozen : Amount) :
    ∃ account : Account, account.address = address ∧
      account.SameBut symbol (book.account address) ∧
      (book.setBuckets address symbol unfrozen frozen).accounts =
        (book.withAccount account).accounts :=
  ⟨((book.account address).setUnfrozen symbol unfrozen).setFrozen symbol frozen,
    complete.address_account address,
    (Account.sameBut_setFrozen _ _ _).trans (Account.sameBut_setUnfrozen _ _ _), rfl⟩

/-- One account is recorded anew, under the address of the receipt. -/
theorem Posted.accounts_eq
    (posted : Posted params candidate nonce book request receipt after next)
    (complete : book.Complete) :
    ∃ account : Account, account.address = receipt.address ∧
      account.SameBut receipt.symbol (book.account receipt.address) ∧
      after.accounts = (book.withAccount account).accounts := by
  cases posted with
  | issue valid parsed found fits => exact complete.accounts_setUnfrozen _ _ _
  | mint valid registered owned mintable parsed fits supplyFits =>
    exact complete.accounts_setUnfrozen _ _ _
  | burn valid registered owned parsed enough supplyEnough =>
    exact complete.accounts_setUnfrozen _ _ _
  | freeze valid parsed enough fits => exact complete.accounts_setBuckets _ _ _ _
  | unfreeze valid parsed enough fits => exact complete.accounts_setBuckets _ _ _ _

theorem account_of_accounts_eq {book other : Book} (same : book.accounts = other.accounts)
    (address : Address) : book.account address = other.account address := by
  rw [account, account, same]

/-- The records of all other addresses stay. -/
theorem Posted.get?_accounts_other
    (posted : Posted params candidate nonce book request receipt after next)
    (complete : book.Complete) {address : Address} (distinct : address ≠ receipt.address) :
    after.accounts.get? address = book.accounts.get? address := by
  obtain ⟨account, named, _, recorded⟩ := posted.accounts_eq complete
  rw [recorded, get?_withAccount_other book (named.symm ▸ distinct)]

theorem Posted.account_sameBut
    (posted : Posted params candidate nonce book request receipt after next)
    (complete : book.Complete) :
    (after.account receipt.address).SameBut receipt.symbol (book.account receipt.address) := by
  obtain ⟨account, named, same, recorded⟩ := posted.accounts_eq complete
  rw [account_of_accounts_eq recorded, account_withAccount_self _ named]
  exact same

/-! ### What the signer holds -/

theorem Complete.holding_setUnfrozen (complete : book.Complete) (address : Address)
    (symbol : String) (amount : Amount) :
    ((book.setUnfrozen address symbol amount).account address).holding symbol =
      amount.toNat + (book.frozen address symbol).toNat := by
  rw [complete.account_setUnfrozen, Account.holding_setUnfrozen_self]
  rfl

theorem Complete.holding_setBuckets (complete : book.Complete) (address : Address)
    (symbol : String) (unfrozen frozen : Amount) :
    ((book.setBuckets address symbol unfrozen frozen).account address).holding symbol =
      unfrozen.toNat + frozen.toNat := by
  rw [complete.account_setBuckets, Account.holding_setFrozen_self, Account.unfrozen_setUnfrozen]

theorem Complete.holding_credit (complete : book.Complete) {address : Address} {symbol : String}
    {amount : Amount} (fits : ¬ Overflows (book.unfrozen address symbol) amount) :
    ((book.setUnfrozen address symbol (book.unfrozen address symbol + amount)).account
        address).holding symbol =
      (book.account address).holding symbol + amount.toNat := by
  rw [complete.holding_setUnfrozen, toNat_add_of_fits fits, Nat.add_right_comm]
  rfl

theorem Complete.holding_debit (complete : book.Complete) {address : Address} {symbol : String}
    {amount : Amount} (enough : ¬ book.unfrozen address symbol < amount) :
    ((book.setUnfrozen address symbol (book.unfrozen address symbol - amount)).account
        address).holding symbol + amount.toNat =
      (book.account address).holding symbol := by
  rw [complete.holding_setUnfrozen, Nat.add_right_comm, toNat_sub_of_enough enough]
  rfl

/-- What an address holds of a symbol gets less only if the address burns an amount of the symbol,
and then by that amount. -/
theorem Posted.holding_cases
    (posted : Posted params candidate nonce book request receipt after next)
    (complete : book.Complete) (address : Address) (symbol : String) :
    (book.account address).holding symbol ≤ (after.account address).holding symbol ∨
      ∃ terms, request = .order .burn terms ∧ terms.signer = address ∧ terms.symbol = symbol ∧
        Amount.parse terms.amount = .ok receipt.amount ∧
        (book.account address).holding symbol =
          (after.account address).holding symbol + receipt.amount.toNat := by
  by_cases own : address = receipt.address
  case neg =>
    have untouched := posted.get?_accounts_other complete own
    refine Or.inl (le_of_eq ?_)
    rw [account, account, untouched]
  by_cases named : symbol = receipt.symbol
  case neg =>
    subst own
    exact Or.inl (le_of_eq ((posted.account_sameBut complete).holding_eq named).symm)
  -- What is left is the signer's own amount of the symbol of the receipt.
  subst own named
  cases posted with
  | issue valid parsed found fits =>
    exact Or.inl ((Nat.le_add_right _ _).trans_eq (complete.holding_credit fits).symm)
  | mint valid registered owned mintable parsed fits supplyFits =>
    exact Or.inl ((Nat.le_add_right _ _).trans_eq (complete.holding_credit fits).symm)
  | burn valid registered owned parsed enough supplyEnough =>
    exact Or.inr ⟨_, rfl, rfl, rfl, mapError_eq_ok_iff.mp parsed,
      (complete.holding_debit enough).symm⟩
  | freeze valid parsed enough fits =>
    have moved := toNat_move enough fits
    exact Or.inl (le_of_eq ((complete.holding_setBuckets _ _ _ _).trans moved).symm)
  | unfreeze valid parsed enough fits =>
    have moved := (Nat.add_comm _ _).trans ((toNat_move enough fits).trans (Nat.add_comm _ _))
    exact Or.inl (le_of_eq ((complete.holding_setBuckets _ _ _ _).trans moved).symm)

/-! ### The tokens -/

/-- At most one token is recorded anew, under the symbol of the receipt. -/
theorem Posted.tokens_eq
    (posted : Posted params candidate nonce book request receipt after next) :
    after.tokens = book.tokens ∨
      ∃ token, after.tokens = (book.withToken receipt.symbol token).tokens := by
  cases posted with
  | issue valid parsed found fits => exact Or.inr ⟨_, rfl⟩
  | mint valid registered owned mintable parsed fits supplyFits => exact Or.inr ⟨_, rfl⟩
  | burn valid registered owned parsed enough supplyEnough => exact Or.inr ⟨_, rfl⟩
  | freeze valid parsed enough fits => exact Or.inl rfl
  | unfreeze valid parsed enough fits => exact Or.inl rfl

/-- The token under any other symbol than that of the receipt stays. -/
theorem Posted.get?_tokens_other
    (posted : Posted params candidate nonce book request receipt after next) {symbol : String}
    (distinct : symbol ≠ receipt.symbol) : after.tokens.get? symbol = book.tokens.get? symbol := by
  rcases posted.tokens_eq with same | ⟨token, recorded⟩
  · rw [same]
  · rw [recorded]
    exact SortedMap.get?_insert_other _ distinct _

/-- Moves between the buckets touch no token. -/
theorem Posted.tokens_of_move {kind : OrderKind} {terms : Order}
    (posted : Posted params candidate nonce book (.order kind terms) receipt after next)
    (move : kind = .freeze ∨ kind = .unfreeze) : after.tokens = book.tokens := by
  cases posted with
  | mint valid registered owned mintable parsed fits supplyFits =>
    rcases move with other | other <;> cases other
  | burn valid registered owned parsed enough supplyEnough =>
    rcases move with other | other <;> cases other
  | freeze valid parsed enough fits => rfl
  | unfreeze valid parsed enough fits => rfl

/-! ### The bytes -/

/-- The bytes under any key but that of the address of the receipt stay. -/
theorem Posted.get?_accountStore_other
    (posted : Posted params candidate nonce book request receipt after next)
    (complete : book.Complete) (format : RecordFormat) {key : Bytes}
    (distinct : key ≠ utf8 receipt.address) :
    (after.accountStore format).get? key = (book.accountStore format).get? key := by
  obtain ⟨account, named, _, recorded⟩ := posted.accounts_eq complete
  rw [accountStore, recorded, withAccount, named, accountStore]
  dsimp only
  split
  · rw [SortedMap.stored_erase, SortedMap.get?_erase_other _ distinct]
  · rw [SortedMap.stored_insert, SortedMap.get?_insert_other _ distinct]

/-- The bytes under any key but that of the symbol of the receipt stay. -/
theorem Posted.get?_tokenStore_other
    (posted : Posted params candidate nonce book request receipt after next)
    (format : RecordFormat) {key : Bytes} (distinct : key ≠ utf8 receipt.symbol) :
    (after.tokenStore format).get? key = (book.tokenStore format).get? key := by
  rcases posted.tokens_eq with same | ⟨token, recorded⟩
  · rw [tokenStore, same, tokenStore]
  · rw [tokenStore, recorded, ← tokenStore, tokenStore_withToken,
      SortedMap.get?_insert_other _ distinct]

end Book

/-! ### The supply of a token -/

/-- The symbol whose supply a request is to change. -/
def Request.supplySymbol? : Request → Option String
  | .order .mint terms => some terms.symbol
  | .order .burn terms => some terms.symbol
  | .order .freeze _ | .order .unfreeze _ | .issue _ => none

/-- The owner of a token has minted an amount of it, which the parameters allow, or has burned one,
and the supply has changed by exactly this amount. -/
inductive Token.Resupplied (params : Params) (token later : Token) : Request → Receipt → Prop
  | mint {terms : Order} {receipt : Receipt} (symbol : terms.symbol = token.symbol)
      (signer : terms.signer = token.owner)
      (allowed : params.enforceMintable = true → token.mintable = true)
      (parsed : Amount.parse terms.amount = .ok receipt.amount)
      (more : later.supply.toNat = token.supply.toNat + receipt.amount.toNat) :
      Resupplied params token later (.order .mint terms) receipt
  | burn {terms : Order} {receipt : Receipt} (symbol : terms.symbol = token.symbol)
      (signer : terms.signer = token.owner)
      (parsed : Amount.parse terms.amount = .ok receipt.amount)
      (less : token.supply.toNat = later.supply.toNat + receipt.amount.toNat) :
      Resupplied params token later (.order .burn terms) receipt

namespace Book

/-- The receipt names the symbol whose supply has changed. -/
theorem Posted.eq_of_supplySymbol?
    (posted : Posted params candidate nonce book request receipt after next) {symbol : String}
    (named : request.supplySymbol? = some symbol) : symbol = receipt.symbol := by
  cases posted with
  | issue valid parsed found fits => cases named
  | mint valid found owned mintable parsed fits supplyFits => exact (Option.some.inj named).symm
  | burn valid found owned parsed enough supplyEnough => exact (Option.some.inj named).symm
  | freeze valid parsed enough fits => cases named
  | unfreeze valid parsed enough fits => cases named

/-- A registered token stays as it is, but for its supply when its owner mints or burns. -/
theorem Posted.token_cases
    (posted : Posted params candidate nonce book request receipt after next)
    (complete : book.Complete) {symbol : String} {token : Token}
    (registered : book.tokens.get? symbol = some token) :
    after.tokens.get? symbol = some token ∧ request.supplySymbol? ≠ some symbol ∨
      ∃ supply, after.tokens.get? symbol = some { token with totalSupply := supply } ∧
        token.Resupplied params { token with totalSupply := supply } request receipt := by
  by_cases named : symbol = receipt.symbol
  case neg =>
    exact Or.inl ⟨(posted.get?_tokens_other named).trans registered,
      fun changed => named (posted.eq_of_supplySymbol? changed)⟩
  subst named
  cases posted with
  | issue valid parsed found fits =>
    -- The symbol of a new token is one under which nothing is registered.
    have unregistered := (isFree_of_firstFree? _ _ found).2
    rw [show book.tokens.get? (candidate next _) = some token from registered] at unregistered
    cases unregistered
  | @mint terms found amount valid same owned mintable parsed fits supplyFits =>
    obtain rfl : found = token := Option.some.inj (same.symm.trans registered)
    have recorded : found.Complete terms.symbol := complete.token _ _ same
    refine Or.inr ⟨_, SortedMap.get?_insert_self _ _ _, .mint recorded.symbol_eq.symm owned.symm
      mintable (mapError_eq_ok_iff.mp parsed) ?_⟩
    rw [recorded.supply_single]
    exact toNat_add_of_fits supplyFits
  | @burn terms found amount valid same owned parsed enough supplyEnough =>
    obtain rfl : found = token := Option.some.inj (same.symm.trans registered)
    have recorded : found.Complete terms.symbol := complete.token _ _ same
    refine Or.inr ⟨_, SortedMap.get?_insert_self _ _ _, .burn recorded.symbol_eq.symm owned.symm
      (mapError_eq_ok_iff.mp parsed) ?_⟩
    rw [recorded.supply_single]
    exact (toNat_sub_of_enough supplyEnough).symm
  | freeze valid parsed enough fits => exact Or.inl ⟨registered, nofun⟩
  | unfreeze valid parsed enough fits => exact Or.inl ⟨registered, nofun⟩

end Book

end TokenLedger
