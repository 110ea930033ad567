/-
This file proves that a request never changes what is held of a symbol without changing the supply
by as much. What is held is a sum over all accounts and both buckets, as an unbounded number. The gap
of a symbol is this sum less the supply under which the symbol is registered. A posting binds one
account, and then at most one token, anew; all other parts of the sum stay, and the two changes are
the same.
-/

import Mathlib
import TokenLedger.Proofs.Ledger.Loading
import TokenLedger.Proofs.Ledger.Posting

namespace TokenLedger

/-! ### Holdings, supplies and gaps -/

/-- What an account holds of a symbol in both buckets. -/
def Account.holding (symbol : String) (account : Account) : Nat :=
  (account.unfrozen symbol).toNat + (account.frozen symbol).toNat

namespace GenesisState

/-- What all accounts hold of a symbol. -/
def holdings (state : GenesisState) (symbol : String) : Nat :=
  (state.accounts.map (Account.holding symbol)).sum

/-- The supply of a symbol, zero for one that is not registered. -/
def supply (state : GenesisState) (symbol : String) : Nat :=
  (state.tokens.find? fun token => token.symbol = symbol).elim 0 fun token => token.supply.toNat

/-- How much more is held of a symbol than its supply. -/
def gap (state : GenesisState) (symbol : String) : Int :=
  state.holdings symbol - state.supply symbol

/-- The accounts hold exactly the supply of every token, and nothing else. -/
def Balanced (state : GenesisState) : Prop :=
  ∀ symbol, state.holdings symbol = state.supply symbol

theorem balanced_iff {state : GenesisState} : state.Balanced ↔ ∀ symbol, state.gap symbol = 0 := by
  refine forall_congr' fun symbol => ?_
  rw [gap, sub_eq_zero, Nat.cast_inj]

theorem balanced_empty : empty.Balanced := fun _ => rfl

end GenesisState

namespace Book

def holdings (book : Book) (symbol : String) : Nat :=
  book.accounts.total fun _ account => account.holding symbol

def supply (book : Book) (symbol : String) : Nat :=
  (book.tokens.get? symbol).elim 0 fun token => token.supply.toNat

def gap (book : Book) (symbol : String) : Int :=
  book.holdings symbol - book.supply symbol

end Book

theorem Coins.amountOf_single (symbol : String) (amount : Amount) :
    (single symbol amount).amountOf symbol = amount := by
  rw [single, amountOf, SortedMap.get?_insert_self, Option.getD_some]

/-- A supply that is set is the supply of the token, since the token bears its symbol. -/
theorem Token.Complete.supply_single {symbol : String} {token : Token}
    (recorded : token.Complete symbol) (supply : Amount) :
    Token.supply { token with totalSupply := Coins.single symbol supply } = supply := by
  rw [Token.supply, recorded.symbol_eq]
  exact Coins.amountOf_single symbol supply

/-! ### What one account holds -/

namespace Account

@[simp] theorem holding_new (address : Address) (symbol : String) :
    (Account.new address).holding symbol = 0 := rfl

theorem holding_of_isEmpty {account : Account} (empty : account.isEmpty = true) (symbol : String) :
    account.holding symbol = 0 := by
  rw [isEmpty, Bool.and_eq_true] at empty
  rw [holding, unfrozen, frozen, Coins.amountOf, Coins.amountOf,
    SortedMap.isEmpty_iff.mp empty.1 symbol, SortedMap.isEmpty_iff.mp empty.2 symbol]
  rfl

theorem holding_setUnfrozen_self (account : Account) (symbol : String) (amount : Amount) :
    (account.setUnfrozen symbol amount).holding symbol =
      amount.toNat + (account.frozen symbol).toNat := by
  rw [holding, unfrozen, setUnfrozen, Coins.amountOf_setAmount_self]
  rfl

theorem holding_setUnfrozen_other (account : Account) {symbol other : String}
    (distinct : other ≠ symbol) (amount : Amount) :
    (account.setUnfrozen symbol amount).holding other = account.holding other := by
  rw [holding, unfrozen, setUnfrozen, Coins.amountOf_setAmount_other _ distinct]
  rfl

theorem holding_setFrozen_self (account : Account) (symbol : String) (amount : Amount) :
    (account.setFrozen symbol amount).holding symbol =
      (account.unfrozen symbol).toNat + amount.toNat := by
  rw [holding, frozen, setFrozen, Coins.amountOf_setAmount_self]
  rfl

theorem holding_setFrozen_other (account : Account) {symbol other : String}
    (distinct : other ≠ symbol) (amount : Amount) :
    (account.setFrozen symbol amount).holding other = account.holding other := by
  rw [holding, frozen, setFrozen, Coins.amountOf_setAmount_other _ distinct]
  rfl

@[simp] theorem unfrozen_setUnfrozen (account : Account) (symbol : String) (amount : Amount) :
    (account.setUnfrozen symbol amount).unfrozen symbol = amount :=
  Coins.amountOf_setAmount_self account.coins symbol amount

end Account

namespace Book

variable {book : Book}

/-! ### What all accounts hold -/

/-- Recording an account replaces its part of the sum. An empty account, whose record is dropped,
has no part in it. -/
theorem holdings_withAccount (book : Book) {account : Account} {address : Address}
    (named : account.address = address) (symbol : String) :
    (book.withAccount account).holdings symbol + (book.account address).holding symbol =
      book.holdings symbol + account.holding symbol := by
  subst named
  have before : (book.account account.address).holding symbol =
      book.accounts.measureAt (fun _ account => account.holding symbol) account.address := by
    rw [Book.account, SortedMap.measureAt]
    cases book.accounts.get? account.address <;> rfl
  rw [before, withAccount, holdings, holdings]
  cases empty : account.isEmpty with
  | true =>
    rw [if_pos rfl, SortedMap.total_erase, Account.holding_of_isEmpty empty, Nat.add_zero]
  | false =>
    rw [if_neg Bool.false_ne_true, SortedMap.total_insert]

/-- An account that holds as much of a symbol as the one before it changes no sum. -/
theorem holdings_withAccount_of_eq (book : Book) {account : Account} {address : Address}
    (named : account.address = address) {symbol : String}
    (same : account.holding symbol = (book.account address).holding symbol) :
    (book.withAccount account).holdings symbol = book.holdings symbol := by
  have recorded := book.holdings_withAccount named symbol
  rw [same] at recorded
  exact Nat.add_right_cancel recorded

/-! ### The registered supply -/

theorem supply_withToken_self (book : Book) (symbol : String) (token : Token) :
    (book.withToken symbol token).supply symbol = token.supply.toNat := by
  rw [supply, withToken, SortedMap.get?_insert_self, Option.elim_some]

theorem supply_withToken_other (book : Book) {symbol other : String} (distinct : other ≠ symbol)
    (token : Token) : (book.withToken symbol token).supply other = book.supply other := by
  rw [supply, withToken, SortedMap.get?_insert_other _ distinct, supply]

theorem supply_of_get? {symbol : String} {token : Token}
    (registered : book.tokens.get? symbol = some token) :
    book.supply symbol = token.supply.toNat := by
  rw [supply, registered, Option.elim_some]

theorem supply_of_get?_none {symbol : String} (unregistered : book.tokens.get? symbol = none) :
    book.supply symbol = 0 := by
  rw [supply, unregistered, Option.elim_none]

/-! ### Changes that keep every gap -/

/-- What an address can spend of a symbol may change by as much as the supply. -/
theorem Complete.gap_setUnfrozen_withToken (complete : book.Complete) (address : Address)
    {symbol : String} {amount : Amount} {token : Token}
    (change : amount.toNat + book.supply symbol =
      (book.unfrozen address symbol).toNat + token.supply.toNat) (other : String) :
    ((book.setUnfrozen address symbol amount).withToken symbol token).gap other =
      book.gap other := by
  have named : ((book.account address).setUnfrozen symbol amount).address = address :=
    complete.address_account address
  rw [gap, gap]
  by_cases same : other = symbol
  · subst same
    have recorded := book.holdings_withAccount named other
    rw [Account.holding_setUnfrozen_self, Account.holding] at recorded
    have held : (book.setUnfrozen address other amount).holdings other +
        (book.unfrozen address other).toNat = book.holdings other + amount.toNat := by
      rw [Book.setUnfrozen, unfrozen]
      omega
    rw [supply_withToken_self]
    show ((book.setUnfrozen address other amount).holdings other : Int) - _ = _
    omega
  · have held : (book.setUnfrozen address symbol amount).holdings other = book.holdings other :=
      book.holdings_withAccount_of_eq named (Account.holding_setUnfrozen_other _ same amount)
    rw [supply_withToken_other _ same]
    show ((book.setUnfrozen address symbol amount).holdings other : Int) - book.supply other = _
    rw [held]

/-- An amount may move between the two buckets of an address. -/
theorem Complete.gap_setBuckets (complete : book.Complete) (address : Address) {symbol : String}
    {unfrozen frozen : Amount}
    (move : unfrozen.toNat + frozen.toNat =
      (book.unfrozen address symbol).toNat + (book.frozen address symbol).toNat) (other : String) :
    (book.setBuckets address symbol unfrozen frozen).gap other = book.gap other := by
  have named : (((book.account address).setUnfrozen symbol unfrozen).setFrozen symbol
      frozen).address = address := complete.address_account address
  have same : (((book.account address).setUnfrozen symbol unfrozen).setFrozen symbol
      frozen).holding other = (book.account address).holding other := by
    by_cases isSymbol : other = symbol
    · rw [isSymbol, Account.holding_setFrozen_self, Account.unfrozen_setUnfrozen, move]
      rfl
    · rw [Account.holding_setFrozen_other _ isSymbol, Account.holding_setUnfrozen_other _ isSymbol]
  have held : (book.setBuckets address symbol unfrozen frozen).holdings other =
      book.holdings other := book.holdings_withAccount_of_eq named same
  rw [gap, held]
  rfl

/-! ### Postings keep every gap -/

theorem toNat_sub_of_enough {first second : Amount} (enough : ¬ first < second) :
    (first - second).toNat + second.toNat = first.toNat := by
  rw [UInt64.toNat_sub_of_le _ _ (UInt64.not_lt.mp enough)]
  exact Nat.sub_add_cancel (UInt64.le_iff_toNat_le.mp (UInt64.not_lt.mp enough))

/-- An amount that moves from one bucket to the other is lost to neither. -/
theorem toNat_move {source target amount : Amount} (enough : ¬ source < amount)
    (fits : ¬ Overflows target amount) :
    (source - amount).toNat + (target + amount).toNat = source.toNat + target.toNat := by
  rw [toNat_add_of_fits fits, Nat.add_left_comm, toNat_sub_of_enough enough, Nat.add_comm]

variable {params : Params} {candidate : UInt64 → String → String} {nonce : UInt64}

/-- Whatever is posted, the gap of every symbol stays. -/
theorem Posted.gap_eq {after : Book} {request : Request} {receipt : Receipt} {next : UInt64}
    (posted : Posted params candidate nonce book request receipt after next)
    (complete : book.Complete) (symbol : String) : after.gap symbol = book.gap symbol := by
  cases posted with
  | issue valid parsed found fits =>
    refine complete.gap_setUnfrozen_withToken _ ?_ symbol
    -- Nothing is registered under the new symbol, though somebody may hold it already.
    have unregistered := (isFree_of_firstFree? _ _ found).2
    rw [supply_of_get?_none unregistered, toNat_add_of_fits fits, Token.supply, issued,
      Coins.amountOf_single, Nat.add_zero]
  | mint valid registered owned mintable parsed fits supplyFits =>
    refine complete.gap_setUnfrozen_withToken _ ?_ symbol
    have recorded := complete.token _ _ registered
    rw [supply_of_get? registered, recorded.supply_single, toNat_add_of_fits fits,
      toNat_add_of_fits supplyFits]
    omega
  | burn valid registered owned parsed enough supplyEnough =>
    refine complete.gap_setUnfrozen_withToken _ ?_ symbol
    have recorded := complete.token _ _ registered
    have left := toNat_sub_of_enough enough
    have supplyLeft := toNat_sub_of_enough supplyEnough
    rw [supply_of_get? registered, recorded.supply_single]
    omega
  | freeze valid parsed enough fits =>
    exact complete.gap_setBuckets _ (toNat_move enough fits) symbol
  | unfreeze valid parsed enough fits =>
    refine complete.gap_setBuckets _ ?_ symbol
    rw [Nat.add_comm, toNat_move enough fits, Nat.add_comm]

/-! ### The records of a book, and a book loaded from records -/

/-- A list of tokens is searched as the bindings of their symbols are. -/
theorem find?_symbol (tokens : List Token) (symbol : String) :
    tokens.find? (fun token => token.symbol = symbol) =
      SortedMap.find? symbol (tokens.map fun token => (token.symbol, token)) := by
  induction tokens with
  | nil => rfl
  | cons token rest inductionHypothesis =>
    rw [List.find?_cons, List.map_cons, SortedMap.find?]
    by_cases found : token.symbol = symbol
    · rw [if_pos found, decide_eq_true found]
    · rw [if_neg found, decide_eq_false found, ← inductionHypothesis]

theorem Complete.gap_records (complete : book.Complete) (symbol : String) :
    book.records.gap symbol = book.gap symbol := by
  have holdings : book.records.holdings symbol = book.holdings symbol := by
    show ((book.accounts.entries.map (·.2)).map (Account.holding symbol)).sum = _
    rw [List.map_map]
    rfl
  have supply : book.records.supply symbol = book.supply symbol := by
    rw [GenesisState.supply, find?_symbol, records, complete.map_symbol_tokens]
    rfl
  rw [GenesisState.gap, holdings, supply, gap]

/-- Accounts with addresses of their own add up. -/
theorem holdings_foldl_withAccount {accounts : List Account} {book : Book}
    (distinct : (accounts.map Account.address).Nodup)
    (fresh : ∀ account ∈ accounts, book.accounts.get? account.address = none) (symbol : String) :
    (accounts.foldl withAccount book).holdings symbol =
      book.holdings symbol + (accounts.map (Account.holding symbol)).sum := by
  induction accounts generalizing book with
  | nil => rfl
  | cons account rest inductionHypothesis =>
    obtain ⟨unrepeated, restDistinct⟩ := List.nodup_cons.mp distinct
    obtain ⟨first, others⟩ := List.forall_mem_cons.mp fresh
    have restFresh : ∀ other ∈ rest,
        (book.withAccount account).accounts.get? other.address = none := by
      intro other member
      have apart : other.address ≠ account.address :=
        fun same => unrepeated (same ▸ List.mem_map_of_mem member)
      rw [get?_withAccount_other book apart]
      exact others other member
    have before : book.account account.address = .new account.address := by
      rw [Book.account, first]
      rfl
    have recorded := book.holdings_withAccount (rfl : account.address = account.address) symbol
    rw [before, Account.holding_new, Nat.add_zero] at recorded
    rw [List.foldl_cons, inductionHypothesis restDistinct restFresh, recorded, List.map_cons,
      List.sum_cons, Nat.add_assoc]

/-- A list of records that is loaded into an empty book has the gaps of the list. -/
theorem gap_load {state : GenesisState} (valid : state.validate = .ok ()) (symbol : String) :
    (empty.load state).gap symbol = state.gap symbol := by
  obtain ⟨⟨_, symbols⟩, _, addresses⟩ := (state.validate_eq_ok_iff).mp valid
  have holdings : (empty.load state).holdings symbol = state.holdings symbol := by
    have unrecorded : (state.tokens.foldl (fun book token => book.withToken token.symbol token)
        empty).accounts = SortedMap.empty := accounts_foldl_withToken state.tokens empty
    have sum := holdings_foldl_withAccount addresses
      (fun account _ => by rw [unrecorded, SortedMap.get?_empty]) symbol
    rw [load, sum, Book.holdings, unrecorded, SortedMap.total_empty, Nat.zero_add,
      GenesisState.holdings]
  have supply : (empty.load state).supply symbol = state.supply symbol := by
    have distinct : ((state.tokens.map fun token => (token.symbol, token)).map (·.1)).Nodup := by
      rwa [List.map_map]
    rw [Book.supply, tokens_load_empty, SortedMap.get?_ofList distinct, GenesisState.supply, find?_symbol]
  rw [gap, holdings, supply, GenesisState.gap]

end Book

end TokenLedger
