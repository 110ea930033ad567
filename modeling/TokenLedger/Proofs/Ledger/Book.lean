/-
This file reads the stores of a ledger as a book: the tokens by symbol and the accounts by address,
as finite maps of records. A book determines the bytes of both stores, and the stores give back the
book, so that every operation on the stores can be stated as one on maps. The rules for records that
the ledger keeps at all times are stated for books as well; they say more than what is checked over
the stores, because the check takes a symbol or an address for given that is in fact never empty.
-/

import Mathlib
import TokenLedger.Engine.Invariant
import TokenLedger.Proofs.Data.Encoding
import TokenLedger.Proofs.Data.Results
import TokenLedger.Proofs.Record.RoundTrip
import TokenLedger.Proofs.Store.View

namespace TokenLedger

/-- An account that holds nothing is the one that an address has without a record. -/
theorem Account.eq_new_of_isEmpty {account : Account} (empty : account.isEmpty = true) :
    account = .new account.address := by
  obtain ⟨noCoins, noFrozenCoins⟩ := Bool.and_eq_true_iff.mp empty
  have bare {bucket : Coins} (none : bucket.isEmpty = true) : bucket = SortedMap.empty :=
    SortedMap.ext_get? fun denomination => SortedMap.isEmpty_iff.mp none denomination
  calc account
      = ⟨account.address, account.coins, account.frozenCoins⟩ := rfl
    _ = .new account.address := by rw [bare noCoins, bare noFrozenCoins, Account.new]

/-- The records of a ledger as finite maps. -/
structure Book where
  tokens : SortedMap String Token
  accounts : SortedMap Address Account
  deriving DecidableEq

namespace Book

def empty : Book := ⟨SortedMap.empty, SortedMap.empty⟩

/-- The account of an address; without a record it holds nothing. -/
def account (book : Book) (address : Address) : Account :=
  (book.accounts.get? address).getD (.new address)

/-- What an address can spend of a symbol. -/
def unfrozen (book : Book) (address : Address) (symbol : String) : Amount :=
  (book.account address).unfrozen symbol

/-- What an address holds frozen of a symbol. -/
def frozen (book : Book) (address : Address) (symbol : String) : Amount :=
  (book.account address).frozen symbol

/-- Record a token under a symbol. -/
def withToken (book : Book) (symbol : String) (token : Token) : Book :=
  { book with tokens := book.tokens.insert symbol token }

/-- Record an account, or drop the record of one that holds nothing. -/
def withAccount (book : Book) (account : Account) : Book :=
  { book with
    accounts :=
      if account.isEmpty then book.accounts.erase account.address
      else book.accounts.insert account.address account }

/-! ### Look-ups after a change -/

theorem get?_withAccount (book : Book) (account : Account) (address : Address) :
    (book.withAccount account).accounts.get? address =
      if address = account.address then if account.isEmpty then none else some account
      else book.accounts.get? address := by
  rw [withAccount]
  cases account.isEmpty with
  | true => exact SortedMap.get?_erase _ _ _
  | false => exact SortedMap.get?_insert _ _ _ _

theorem get?_withAccount_other (book : Book) {account : Account} {other : Address}
    (distinct : other ≠ account.address) :
    (book.withAccount account).accounts.get? other = book.accounts.get? other := by
  rw [get?_withAccount, if_neg distinct]

/-- An account that is recorded is the account of its address, also if its record is dropped because
it holds nothing. -/
theorem account_withAccount_self (book : Book) {account : Account} {address : Address}
    (named : account.address = address) : (book.withAccount account).account address = account := by
  subst named
  rw [Book.account, get?_withAccount, if_pos rfl]
  cases empty : account.isEmpty with
  | true => exact (Account.eq_new_of_isEmpty empty).symm
  | false => rfl

theorem withAccount_comm (book : Book) {first second : Account}
    (distinct : first.address ≠ second.address) :
    (book.withAccount first).withAccount second = (book.withAccount second).withAccount first := by
  have accounts : ((book.withAccount first).withAccount second).accounts =
      ((book.withAccount second).withAccount first).accounts := by
    refine SortedMap.ext_get? fun address => ?_
    simp only [get?_withAccount]
    by_cases isFirst : address = first.address
    · rw [if_neg fun isSecond => distinct (isFirst.symm.trans isSecond), if_pos isFirst,
        if_pos isFirst]
    · rw [if_neg isFirst, if_neg isFirst]
  exact congrArg (Book.mk book.tokens) accounts

theorem withToken_comm (book : Book) {first second : Token}
    (distinct : first.symbol ≠ second.symbol) :
    (book.withToken first.symbol first).withToken second.symbol second =
      (book.withToken second.symbol second).withToken first.symbol first := by
  have tokens : ((book.withToken first.symbol first).withToken second.symbol second).tokens =
      ((book.withToken second.symbol second).withToken first.symbol first).tokens := by
    refine SortedMap.ext_get? fun symbol => ?_
    simp only [withToken, SortedMap.get?_insert]
    by_cases isFirst : symbol = first.symbol
    · rw [if_neg fun isSecond => distinct (isFirst.symm.trans isSecond), if_pos isFirst,
        if_pos isFirst]
    · rw [if_neg isFirst, if_neg isFirst]
  exact congrArg (Book.mk · book.accounts) tokens

/-! ### Stores and books -/

/-- The bytes that keep the tokens. -/
def tokenStore (format : RecordFormat) (book : Book) : Store :=
  book.tokens.stored format.encodeToken

/-- The bytes that keep the accounts. -/
def accountStore (format : RecordFormat) (book : Book) : Store :=
  book.accounts.stored format.encodeAccount

/-- The stores that keep a book. -/
def stored (format : RecordFormat) (book : Book) : LedgerStore :=
  ⟨book.tokenStore format, book.accountStore format⟩

/-- The book that the stores keep, if every record can be read. -/
def ofStore (format : RecordFormat) (store : LedgerStore) : Except Fault Book := do
  let tokens ← Registry.all format (.ofStore store.tokens)
  let accounts ← Holdings.all format (.ofStore store.accounts)
  return ⟨.ofList tokens, .ofList (accounts.map fun account => (account.address, account))⟩

@[simp] theorem stored_empty (format : RecordFormat) : empty.stored format = .empty := rfl

theorem tokenStore_withToken (format : RecordFormat) (book : Book) (symbol : String)
    (token : Token) :
    (book.withToken symbol token).tokenStore format =
      (book.tokenStore format).insert (utf8 symbol) (format.encodeToken token) :=
  SortedMap.stored_insert format.encodeToken book.tokens symbol token

end Book

/-! ### The registry of a book -/

namespace Registry

variable {format : RecordFormat} {book : Book} {store : LayeredStore}

theorem get_of_view (keeps : store.view = book.tokenStore format) (symbol : String) :
    get format store symbol =
      match book.tokens.get? symbol with
      | none => .error (.tokenNotFound symbol)
      | some token => .ok token := by
  rw [get, LayeredStore.get?_eq_view, keeps, Book.tokenStore, SortedMap.get?_stored]
  cases book.tokens.get? symbol with
  | none => rfl
  | some token => exact format.decodeToken_encodeToken token

theorem isRegistered_of_view (keeps : store.view = book.tokenStore format) (symbol : String) :
    isRegistered store symbol = book.tokens.contains symbol := by
  rw [isRegistered, LayeredStore.contains_eq_view, keeps, Book.tokenStore,
    SortedMap.contains_stored]

theorem all_of_view (keeps : store.view = book.tokenStore format) :
    all format store = .ok book.tokens.entries := by
  have readBack : ∀ entry : String × Token,
      readEntry format (utf8 entry.1, format.encodeToken entry.2) = .ok entry := by
    intro entry
    rw [readEntry, utf8?_utf8]
    simp only [RecordFormat.decodeToken_encodeToken]
    rfl
  rw [all, LayeredStore.entries, keeps, Book.tokenStore, SortedMap.entries_stored,
    mapM_map_eq_ok readBack, List.map_id']

theorem view_set (keeps : store.view = book.tokenStore format) (symbol : String) (token : Token) :
    (store.set (utf8 symbol) (format.encodeToken token)).view =
      (book.withToken symbol token).tokenStore format := by
  rw [LayeredStore.view_set, keeps, Book.tokenStore_withToken]

end Registry

/-! ### The holdings of a book -/

namespace Holdings

variable {format : RecordFormat} {book : Book} {store : LayeredStore}

theorem get_of_view (keeps : store.view = book.accountStore format) (address : Address) :
    get format store address = .ok (book.account address) := by
  rw [get, LayeredStore.get?_eq_view, keeps, Book.accountStore, SortedMap.get?_stored, Book.account]
  cases book.accounts.get? address with
  | none => rfl
  | some account => exact format.decodeAccount_encodeAccount account

theorem view_put (keeps : store.view = book.accountStore format) (account : Account) :
    (put format store account).view = (book.withAccount account).accountStore format := by
  rw [put, Book.accountStore, Book.withAccount]
  split
  next => rw [LayeredStore.view_delete, keeps, Book.accountStore, SortedMap.stored_erase]
  next => rw [LayeredStore.view_set, keeps, Book.accountStore, SortedMap.stored_insert]

theorem oneLayer_put {base : Store} (single : LayeredStore.OneLayer base store)
    (format : RecordFormat) (account : Account) :
    LayeredStore.OneLayer base (put format store account) := by
  rw [put]
  split
  · exact single.delete _
  · exact single.set _ _

theorem entries_of_view (keeps : store.view = book.accountStore format) :
    entries format store =
      .ok (book.accounts.entries.map fun entry => (utf8 entry.1, entry.2)) := by
  have readBack : ∀ entry : Address × Account,
      readEntry format (utf8 entry.1, format.encodeAccount entry.2) =
        .ok (utf8 entry.1, entry.2) := by
    intro entry
    simp only [readEntry, RecordFormat.decodeAccount_encodeAccount]
    rfl
  rw [entries, LayeredStore.entries, keeps, Book.accountStore, SortedMap.entries_stored,
    mapM_map_eq_ok readBack]

theorem all_of_view (keeps : store.view = book.accountStore format) :
    all format store = .ok book.accounts.values := by
  rw [all, entries_of_view keeps]
  simp only [SortedMap.values, bind, Except.bind, pure, Except.pure, List.map_map,
    Function.comp_def]

end Holdings

/-! ### The rules for records -/

/-- A token is recorded under its symbol, which is not empty, and has an owner and its names. -/
structure Token.Complete (symbol : String) (token : Token) : Prop where
  symbol_eq : token.symbol = symbol
  symbol_ne : symbol ≠ ""
  owner_ne : token.owner ≠ ""
  name_ne : token.name ≠ ""
  originalSymbol_ne : token.originalSymbol ≠ ""

/-- An account is recorded under its address, which is not empty, and holds something, but no zero
amounts. -/
structure Account.Complete (address : Address) (account : Account) : Prop where
  address_eq : account.address = address
  address_ne : address ≠ ""
  noZero : account.hasZero = false
  notEmpty : account.isEmpty = false

namespace Book

/-- Every record is complete. This holds of all stores, also of those that a refused genesis state
has left behind. -/
structure Complete (book : Book) : Prop where
  token : ∀ symbol token, book.tokens.get? symbol = some token → token.Complete symbol
  account : ∀ address account, book.accounts.get? address = some account → account.Complete address

/-- The supply of every token names the token's own denomination. This is what the check over the
stores adds; it holds from the moment a genesis state is accepted. -/
def NamesSupply (book : Book) : Prop :=
  ∀ symbol token, book.tokens.get? symbol = some token → token.totalSupply.contains symbol = true

theorem complete_empty : empty.Complete :=
  ⟨(fun _ _ found => nomatch found), (fun _ _ found => nomatch found)⟩

theorem namesSupply_empty : empty.NamesSupply := fun _ _ found => by cases found

theorem Complete.withToken {book : Book} (complete : book.Complete) {symbol : String}
    {token : Token} (fresh : token.Complete symbol) : (book.withToken symbol token).Complete := by
  refine ⟨fun other found same => ?_, complete.account⟩
  rw [Book.withToken, SortedMap.get?_insert] at same
  split at same
  next isSymbol =>
    rw [isSymbol, ← Option.some.inj same]
    exact fresh
  next => exact complete.token other found same

theorem NamesSupply.withToken {book : Book} (names : book.NamesSupply) {symbol : String}
    {token : Token} (fresh : token.totalSupply.contains symbol = true) :
    (book.withToken symbol token).NamesSupply := by
  intro other found same
  rw [Book.withToken, SortedMap.get?_insert] at same
  split at same
  next isSymbol =>
    rw [isSymbol, ← Option.some.inj same]
    exact fresh
  next => exact names other found same

theorem Complete.withAccount {book : Book} (complete : book.Complete) {account : Account}
    (address : account.address ≠ "") (noZero : account.hasZero = false) :
    (book.withAccount account).Complete := by
  refine ⟨complete.token, fun other found same => ?_⟩
  rw [Book.withAccount] at same
  cases empty : account.isEmpty with
  | true =>
    simp only [empty, if_true, SortedMap.get?_erase] at same
    split at same
    next => cases same
    next => exact complete.account other found same
  | false =>
    simp only [empty, Bool.false_eq_true, if_false, SortedMap.get?_insert] at same
    split at same
    next isAddress =>
      rw [isAddress, ← Option.some.inj same]
      exact ⟨rfl, address, noZero, empty⟩
    next => exact complete.account other found same

/-- The account of an address bears the address and has no zero amounts, recorded or not. -/
theorem Complete.address_account {book : Book} (complete : book.Complete) (address : Address) :
    (book.account address).address = address := by
  rw [Book.account]
  cases found : book.accounts.get? address with
  | none => rfl
  | some account => exact (complete.account address account found).address_eq

theorem Complete.hasZero_account {book : Book} (complete : book.Complete) (address : Address) :
    (book.account address).hasZero = false := by
  rw [Book.account]
  cases found : book.accounts.get? address with
  | none => rfl
  | some account => exact (complete.account address account found).noZero

/-- Every recorded account bears the address it is recorded under. -/
theorem Complete.map_address_accounts {book : Book} (complete : book.Complete) :
    book.accounts.values.map (fun account => (account.address, account)) =
      book.accounts.entries := by
  have keyed : ∀ entry ∈ book.accounts.entries, (entry.2.address, entry.2) = entry := by
    rintro ⟨address, account⟩ member
    have found := SortedMap.mem_entries_iff.mp member
    rw [(complete.account address account found).address_eq]
  rw [SortedMap.values, List.map_map]
  exact (List.map_congr_left (g := id) keyed).trans (List.map_id _)

/-- Every recorded token bears the symbol it is recorded under. -/
theorem Complete.map_symbol_tokens {book : Book} (complete : book.Complete) :
    book.tokens.values.map (fun token => (token.symbol, token)) = book.tokens.entries := by
  have keyed : ∀ entry ∈ book.tokens.entries, (entry.2.symbol, entry.2) = entry := by
    rintro ⟨symbol, token⟩ member
    have found := SortedMap.mem_entries_iff.mp member
    rw [(complete.token symbol token found).symbol_eq]
  rw [SortedMap.values, List.map_map]
  exact (List.map_congr_left (g := id) keyed).trans (List.map_id _)

/-- The stores give back the book that they keep. -/
theorem Complete.ofStore_stored {book : Book} (complete : book.Complete) (format : RecordFormat) :
    ofStore format (book.stored format) = .ok book := by
  have tokens : (LayeredStore.ofStore (book.stored format).tokens).view = book.tokenStore format :=
    rfl
  have accounts : (LayeredStore.ofStore (book.stored format).accounts).view =
      book.accountStore format := rfl
  rw [ofStore, Registry.all_of_view tokens, Holdings.all_of_view accounts]
  simp only [bind, Except.bind, pure, Except.pure, complete.map_address_accounts,
    SortedMap.ofList_entries]

end Book

/-! ### The check over the stores -/

/-- A complete token passes its check exactly if its supply names its denomination. -/
theorem Token.Complete.check_eq_ok_iff {symbol : String} {token : Token}
    (complete : token.Complete symbol) :
    token.check symbol = .ok () ↔ token.totalSupply.contains symbol = true := by
  have bySymbol : ¬ symbol ≠ token.symbol := fun distinct => distinct complete.symbol_eq.symm
  rw [Token.check, if_neg bySymbol, if_neg complete.owner_ne, if_neg complete.name_ne,
    if_neg complete.originalSymbol_ne, complete.symbol_eq]
  cases token.totalSupply.contains symbol <;> simp

theorem Account.Complete.check_eq_ok {address : Address} {account : Account}
    (complete : account.Complete address) : account.check (utf8 address) = .ok () := by
  have byAddress : ¬ utf8 account.address ≠ utf8 address :=
    fun distinct => distinct (congrArg utf8 complete.address_eq)
  simp [Account.check, byAddress, complete.noZero, complete.notEmpty]

theorem checkTokens_eq_ok_iff {format : RecordFormat} {book : Book} (complete : book.Complete)
    {tokens : LayeredStore} (kept : tokens.view = book.tokenStore format) :
    checkTokens format tokens = .ok () ↔ book.NamesSupply := by
  rw [checkTokens, Registry.all_of_view kept]
  refine (for_eq_ok_iff (fun entry : String × Token =>
    (entry.2.check entry.1).mapError Fault.breach) book.tokens.entries).trans ⟨?_, fun names => ?_⟩
  · intro passed symbol token found
    have check := mapError_eq_ok_iff.mp (passed _ (SortedMap.mem_entries_iff.mpr found))
    exact (complete.token symbol token found).check_eq_ok_iff.mp check
  · rintro ⟨symbol, token⟩ member
    have found := SortedMap.mem_entries_iff.mp member
    exact mapError_eq_ok_iff.mpr
      ((complete.token symbol token found).check_eq_ok_iff.mpr (names symbol token found))

theorem checkAccounts_eq_ok {format : RecordFormat} {book : Book} (complete : book.Complete)
    {accounts : LayeredStore} (kept : accounts.view = book.accountStore format) :
    checkAccounts format accounts = .ok () := by
  rw [checkAccounts, Holdings.entries_of_view kept]
  refine (for_eq_ok_iff (fun entry : Bytes × Account =>
    (entry.2.check entry.1).mapError Fault.breach) _).mpr ?_
  intro entry member
  obtain ⟨⟨address, account⟩, stored, rfl⟩ := List.mem_map.mp member
  have found := SortedMap.mem_entries_iff.mp stored
  exact mapError_eq_ok_iff.mpr (complete.account address account found).check_eq_ok

/-- Over the stores of a book with complete records, what is checked is that every supply names its
denomination. -/
theorem checkRecords_eq_ok_iff {format : RecordFormat} {book : Book} (complete : book.Complete)
    {tokens accounts : LayeredStore} (tokensKept : tokens.view = book.tokenStore format)
    (accountsKept : accounts.view = book.accountStore format) :
    checkRecords format tokens accounts = .ok () ↔ book.NamesSupply := by
  rw [← checkTokens_eq_ok_iff complete tokensKept, checkRecords,
    checkAccounts_eq_ok complete accountsKept]
  cases checkTokens format tokens <;> simp [bind, Except.bind]

end TokenLedger
