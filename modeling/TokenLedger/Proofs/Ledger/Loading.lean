/-
This file says what loading a list of records does to a book, and proves that loading it into the
stores does the same. The records of a list that passes its checks are complete, each stands under
its own name, and no two have one name; nothing else is needed for all of them to be stored. A book
is loaded back from the list of its own records.
-/

import Mathlib
import TokenLedger.Engine.Document
import TokenLedger.Proofs.Ledger.Book

namespace TokenLedger

/-! ### What the checks of a list say -/

/-- A token that passes the checks of a list. -/
structure Token.Loadable (token : Token) : Prop where
  owner_ne : token.owner ≠ ""
  symbol_ne : token.symbol ≠ ""
  supply : token.totalSupply.isEmpty = false
  name_ne : token.name ≠ ""
  originalSymbol_ne : token.originalSymbol ≠ ""

/-- An account that passes the checks of a list. -/
structure Account.Loadable (account : Account) : Prop where
  address_ne : account.address ≠ ""
  noZero : account.hasZero = false

namespace GenesisState

/-- A list whose first item is looked at before the others, each of which has to have another name
than those before it. -/
theorem distinct_cons_iff {α : Type} (name : α → String) (passes : α → Prop) (seen : List String)
    (item : α) (rest : List α) :
    (passes item ∧ name item ∉ seen ∧
        (∀ other ∈ rest, passes other ∧ name other ∉ name item :: seen) ∧
          (rest.map name).Nodup) ↔
      (∀ other ∈ item :: rest, passes other ∧ name other ∉ seen) ∧
        ((item :: rest).map name).Nodup := by
  rw [List.forall_mem_cons, List.map_cons, List.nodup_cons]
  constructor
  · rintro ⟨first, fresh, others, distinct⟩
    refine ⟨⟨⟨first, fresh⟩, fun other member => ⟨(others other member).1, fun found => ?_⟩⟩,
      fun repeated => ?_, distinct⟩
    · exact (others other member).2 (List.mem_cons_of_mem _ found)
    · obtain ⟨other, member, same⟩ := List.mem_map.mp repeated
      exact (others other member).2 (same ▸ List.mem_cons_self)
  · rintro ⟨⟨⟨first, fresh⟩, others⟩, unrepeated, distinct⟩
    refine ⟨first, fresh, fun other member => ⟨(others other member).1, fun found => ?_⟩, distinct⟩
    rcases List.mem_cons.mp found with same | found
    · exact unrepeated (same ▸ List.mem_map_of_mem member)
    · exact (others other member).2 found

theorem checkTokenRecords_eq_ok_iff (seen : List String) (tokens : List Token) :
    checkTokenRecords seen tokens = .ok () ↔
      (∀ token ∈ tokens, token.Loadable ∧ token.symbol ∉ seen) ∧
        (tokens.map Token.symbol).Nodup := by
  induction tokens generalizing seen with
  | nil => simp [checkTokenRecords]
  | cons token rest inductionHypothesis =>
    rw [← distinct_cons_iff]
    simp only [checkTokenRecords, ite_error_eq_ok_iff, inductionHypothesis, Bool.not_eq_true]
    constructor
    · rintro ⟨owner, symbol, supply, name, original, distinct⟩
      exact ⟨⟨owner, symbol, supply, name, original⟩, distinct⟩
    · rintro ⟨loadable, distinct⟩
      exact ⟨loadable.owner_ne, loadable.symbol_ne, loadable.supply, loadable.name_ne,
        loadable.originalSymbol_ne, distinct⟩

theorem checkAccountRecords_eq_ok_iff (seen : List String) (accounts : List Account) :
    checkAccountRecords seen accounts = .ok () ↔
      (∀ account ∈ accounts, account.Loadable ∧ account.address ∉ seen) ∧
        (accounts.map Account.address).Nodup := by
  induction accounts generalizing seen with
  | nil => simp [checkAccountRecords]
  | cons account rest inductionHypothesis =>
    rw [← distinct_cons_iff]
    simp only [checkAccountRecords, ite_error_eq_ok_iff, inductionHypothesis, Bool.not_eq_true]
    constructor
    · rintro ⟨address, noZero, distinct⟩
      exact ⟨⟨address, noZero⟩, distinct⟩
    · rintro ⟨loadable, distinct⟩
      exact ⟨loadable.address_ne, loadable.noZero, distinct⟩

/-- A list of records passes its checks if each record does and no two tokens have one symbol and no
two accounts one address. -/
theorem validate_eq_ok_iff (state : GenesisState) :
    state.validate = .ok () ↔
      ((∀ token ∈ state.tokens, token.Loadable) ∧ (state.tokens.map Token.symbol).Nodup) ∧
        (∀ account ∈ state.accounts, account.Loadable) ∧
          (state.accounts.map Account.address).Nodup := by
  have tokens := checkTokenRecords_eq_ok_iff [] state.tokens
  have accounts := checkAccountRecords_eq_ok_iff [] state.accounts
  simp only [List.not_mem_nil, not_false_eq_true, and_true] at tokens accounts
  rw [← tokens, ← accounts, validate, mapError_eq_ok_iff]
  cases checkTokenRecords [] state.tokens <;> simp [bind, Except.bind]

end GenesisState

/-! ### Loading into a book -/

namespace Book

/-- Record every token and every account of a list. -/
def load (state : GenesisState) (book : Book) : Book :=
  state.accounts.foldl withAccount
    (state.tokens.foldl (fun book token => book.withToken token.symbol token) book)

theorem complete_foldl_withToken {tokens : List Token} {book : Book} (complete : book.Complete)
    (loadable : ∀ token ∈ tokens, token.Loadable) :
    (tokens.foldl (fun book token => book.withToken token.symbol token) book).Complete := by
  induction tokens generalizing book with
  | nil => exact complete
  | cons token rest inductionHypothesis =>
    obtain ⟨first, others⟩ := List.forall_mem_cons.mp loadable
    exact inductionHypothesis (complete.withToken ⟨rfl, first.symbol_ne, first.owner_ne,
      first.name_ne, first.originalSymbol_ne⟩) others

theorem complete_foldl_withAccount {accounts : List Account} {book : Book}
    (complete : book.Complete) (loadable : ∀ account ∈ accounts, account.Loadable) :
    (accounts.foldl withAccount book).Complete := by
  induction accounts generalizing book with
  | nil => exact complete
  | cons account rest inductionHypothesis =>
    obtain ⟨first, others⟩ := List.forall_mem_cons.mp loadable
    exact inductionHypothesis (complete.withAccount first.address_ne first.noZero) others

/-- Loading records that pass their checks keeps the rules. -/
theorem Complete.load {book : Book} (complete : book.Complete) {state : GenesisState}
    (valid : state.validate = .ok ()) : (book.load state).Complete := by
  obtain ⟨⟨tokens, _⟩, accounts, _⟩ := (state.validate_eq_ok_iff).mp valid
  exact complete_foldl_withAccount (complete_foldl_withToken complete tokens) accounts

/-! ### A book is loaded back from its records -/

/-- The records of a book in key order. -/
def records (book : Book) : GenesisState :=
  ⟨book.tokens.values, book.accounts.values⟩

theorem tokens_foldl_withToken (tokens : List Token) (book : Book) :
    (tokens.foldl (fun book token => book.withToken token.symbol token) book).tokens =
      (tokens.map fun token => (token.symbol, token)).foldl
        (fun map entry => map.insert entry.1 entry.2) book.tokens := by
  induction tokens generalizing book with
  | nil => rfl
  | cons token rest inductionHypothesis => exact inductionHypothesis _

theorem accounts_foldl_withToken (tokens : List Token) (book : Book) :
    (tokens.foldl (fun book token => book.withToken token.symbol token) book).accounts =
      book.accounts := by
  induction tokens generalizing book with
  | nil => rfl
  | cons token rest inductionHypothesis => exact inductionHypothesis _

theorem tokens_foldl_withAccount (accounts : List Account) (book : Book) :
    (accounts.foldl withAccount book).tokens = book.tokens := by
  induction accounts generalizing book with
  | nil => rfl
  | cons account rest inductionHypothesis => exact inductionHypothesis _

/-- The tokens of a list that is loaded into no records stand under their symbols. -/
theorem tokens_load_empty (state : GenesisState) :
    (empty.load state).tokens =
      .ofList (state.tokens.map fun token => (token.symbol, token)) := by
  rw [load, tokens_foldl_withAccount, tokens_foldl_withToken]
  rfl

theorem get?_tokens_load_empty {state : GenesisState}
    (distinct : (state.tokens.map Token.symbol).Nodup) {symbol : String} {token : Token} :
    (empty.load state).tokens.get? symbol = some token ↔
      token ∈ state.tokens ∧ token.symbol = symbol := by
  have distinct : ((state.tokens.map fun token => (token.symbol, token)).map (·.1)).Nodup := by
    rwa [List.map_map]
  rw [tokens_load_empty, SortedMap.get?_ofList_eq_some_iff distinct, List.mem_map]
  constructor
  · rintro ⟨_, member, same⟩
    cases same
    exact ⟨member, rfl⟩
  · rintro ⟨member, rfl⟩
    exact ⟨token, member, rfl⟩

/-- Into no records, a list is loaded with its symbols. -/
theorem contains_tokens_load_empty {state : GenesisState}
    (distinct : (state.tokens.map Token.symbol).Nodup) (symbol : String) :
    (empty.load state).tokens.contains symbol = true ↔ symbol ∈ state.tokens.map Token.symbol := by
  rw [SortedMap.contains_eq_isSome, Option.isSome_iff_exists, List.mem_map]
  exact exists_congr fun token => get?_tokens_load_empty distinct

theorem namesSupply_load_empty_iff {state : GenesisState}
    (distinct : (state.tokens.map Token.symbol).Nodup) :
    (empty.load state).NamesSupply ↔
      ∀ token ∈ state.tokens, token.totalSupply.contains token.symbol = true := by
  constructor
  · intro names token member
    exact names token.symbol token ((get?_tokens_load_empty distinct).mpr ⟨member, rfl⟩)
  · intro each symbol token found
    obtain ⟨member, rfl⟩ := (get?_tokens_load_empty distinct).mp found
    exact each token member

/-- Accounts that hold something are all recorded. -/
theorem accounts_foldl_withAccount {accounts : List Account}
    (notEmpty : ∀ account ∈ accounts, account.isEmpty = false) (book : Book) :
    (accounts.foldl withAccount book).accounts =
      (accounts.map fun account => (account.address, account)).foldl
        (fun map entry => map.insert entry.1 entry.2) book.accounts := by
  induction accounts generalizing book with
  | nil => rfl
  | cons account rest inductionHypothesis =>
    obtain ⟨first, others⟩ := List.forall_mem_cons.mp notEmpty
    have recorded : (book.withAccount account).accounts =
        book.accounts.insert account.address account := by
      rw [withAccount, first]
      rfl
    rw [List.foldl_cons, inductionHypothesis others, recorded]
    rfl

theorem accounts_load_empty {state : GenesisState}
    (notEmpty : ∀ account ∈ state.accounts, account.isEmpty = false) :
    (empty.load state).accounts =
      .ofList (state.accounts.map fun account => (account.address, account)) := by
  rw [load, accounts_foldl_withAccount notEmpty, accounts_foldl_withToken]
  rfl

theorem Complete.load_records {book : Book} (complete : book.Complete) :
    empty.load book.records = book := by
  have notEmpty : ∀ account ∈ book.records.accounts, account.isEmpty = false := by
    intro account member
    obtain ⟨⟨address, _⟩, entry, rfl⟩ := List.mem_map.mp member
    exact (complete.account address _ (SortedMap.mem_entries_iff.mp entry)).notEmpty
  have tokens : (empty.load book.records).tokens = book.tokens := by
    rw [tokens_load_empty, records, complete.map_symbol_tokens]
    exact SortedMap.ofList_entries book.tokens
  have accounts : (empty.load book.records).accounts = book.accounts := by
    rw [accounts_load_empty notEmpty, records, complete.map_address_accounts]
    exact SortedMap.ofList_entries book.accounts
  calc empty.load book.records
      = ⟨(empty.load book.records).tokens, (empty.load book.records).accounts⟩ := rfl
    _ = book := by rw [tokens, accounts]

/-- The records of a book pass the checks of a list. -/
theorem Complete.validate_records {book : Book} (complete : book.Complete)
    (names : book.NamesSupply) : book.records.validate = .ok () := by
  refine (GenesisState.validate_eq_ok_iff _).mpr ⟨⟨?_, ?_⟩, ?_, ?_⟩
  · intro token member
    obtain ⟨⟨symbol, _⟩, entry, rfl⟩ := List.mem_map.mp member
    have found := SortedMap.mem_entries_iff.mp entry
    have recorded := complete.token symbol _ found
    refine ⟨recorded.owner_ne, recorded.symbol_eq ▸ recorded.symbol_ne, ?_, recorded.name_ne,
      recorded.originalSymbol_ne⟩
    by_contra empty
    have unbound := SortedMap.isEmpty_iff.mp (Bool.eq_true_of_not_eq_false empty) symbol
    have named := names symbol _ found
    rw [SortedMap.contains_eq_isSome, unbound] at named
    cases named
  · have symbols : book.records.tokens.map Token.symbol = book.tokens.keys := by
      have keyed := congrArg (List.map Prod.fst) complete.map_symbol_tokens
      rwa [List.map_map] at keyed
    rw [symbols]
    exact SortedMap.nodup_keys book.tokens
  · intro account member
    obtain ⟨⟨address, _⟩, entry, rfl⟩ := List.mem_map.mp member
    have recorded := complete.account address _ (SortedMap.mem_entries_iff.mp entry)
    exact ⟨recorded.address_eq ▸ recorded.address_ne, recorded.noZero⟩
  · have addresses : book.records.accounts.map Account.address = book.accounts.keys := by
      have keyed := congrArg (List.map Prod.fst) complete.map_address_accounts
      rwa [List.map_map] at keyed
    rw [addresses]
    exact SortedMap.nodup_keys book.accounts

end Book

/-! ### Loading into the stores -/

namespace GenesisState

variable {format : RecordFormat}

/-- Tokens with an owner are all stored. -/
theorem foldlM_set {tokens : List Token} (owned : ∀ token ∈ tokens, token.owner ≠ "") {book : Book}
    {base : Store} {store : LayeredStore} (kept : store.view = book.tokenStore format)
    (single : LayeredStore.OneLayer base store) :
    ∃ after, tokens.foldlM (fun store token => Registry.set format store token.symbol token) store =
        .ok after ∧
      after.view = (tokens.foldl (fun book token => book.withToken token.symbol token)
        book).tokenStore format ∧
      LayeredStore.OneLayer base after := by
  induction tokens generalizing book store with
  | nil => exact ⟨store, rfl, kept, single⟩
  | cons token rest inductionHypothesis =>
    obtain ⟨first, others⟩ := List.forall_mem_cons.mp owned
    obtain ⟨after, stored, kept, single⟩ := inductionHypothesis others
      (Registry.view_set kept token.symbol token) (single.set _ _)
    refine ⟨after, ?_, kept, single⟩
    rw [List.foldlM_cons, Registry.set, if_neg first]
    exact stored

theorem foldl_put (accounts : List Account) {book : Book} {base : Store} {store : LayeredStore}
    (kept : store.view = book.accountStore format) (single : LayeredStore.OneLayer base store) :
    (accounts.foldl (Holdings.put format) store).view =
        (accounts.foldl Book.withAccount book).accountStore format ∧
      LayeredStore.OneLayer base (accounts.foldl (Holdings.put format) store) := by
  induction accounts generalizing book store with
  | nil => exact ⟨kept, single⟩
  | cons account rest inductionHypothesis =>
    exact inductionHypothesis (Holdings.view_put kept account)
      (Holdings.oneLayer_put single format account)

/-- A list that passes its checks is loaded as a whole. -/
theorem load_stored {state : GenesisState} (valid : state.validate = .ok ()) (book : Book) :
    state.load format (book.stored format) = (.ok (), (book.load state).stored format) := by
  obtain ⟨⟨loadable, _⟩, _⟩ := (state.validate_eq_ok_iff).mp valid
  obtain ⟨tokens, stored, tokensKept, tokensSingle⟩ := foldlM_set
    (fun token member => (loadable token member).owner_ne)
    (LayeredStore.view_begin (.ofStore (book.tokenStore format))) (LayeredStore.oneLayer_begin _)
  have accountsBefore : (LayeredStore.ofStore (book.accountStore format)).begin.view =
      (state.tokens.foldl (fun book token => book.withToken token.symbol token)
        book).accountStore format := by
    rw [LayeredStore.view_begin, LayeredStore.view_ofStore, Book.accountStore, Book.accountStore,
      Book.accounts_foldl_withToken]
  obtain ⟨accountsKept, accountsSingle⟩ := foldl_put state.accounts accountsBefore
    (LayeredStore.oneLayer_begin _)
  have written : state.write format (book.stored format).begin =
      .ok ⟨tokens, state.accounts.foldl (Holdings.put format)
        (LayeredStore.ofStore (book.accountStore format)).begin⟩ := by
    unfold write
    have first : state.tokens.foldlM
        (fun tokens token => Registry.set format tokens token.symbol token)
        (book.stored format).begin.tokens = .ok tokens := stored
    rw [first]
    rfl
  have tokensAfter : (book.load state).tokenStore format =
      (state.tokens.foldl (fun book token => book.withToken token.symbol token)
        book).tokenStore format := by
    rw [Book.load, Book.tokenStore, Book.tokens_foldl_withAccount, Book.tokenStore]
  rw [load, valid]
  simp only [written]
  rw [Scope.commit, tokensSingle.commit_base, accountsSingle.commit_base, tokensKept, accountsKept,
    Book.stored, tokensAfter, Book.load]

theorem load_empty {state : GenesisState} (valid : state.validate = .ok ())
    (format : RecordFormat) :
    state.load format .empty = (.ok (), (Book.empty.load state).stored format) := by
  rw [← load_stored valid, Book.stored_empty]

/-- A list that does not changes nothing. -/
theorem load_of_not_valid {state : GenesisState} {fault : Fault}
    (refused : state.validate = .error fault) (format : RecordFormat) (store : LedgerStore) :
    state.load format store = (.error fault, store) := by
  rw [load, refused]

end GenesisState

end TokenLedger
