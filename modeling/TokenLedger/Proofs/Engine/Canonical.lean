/-
This file proves that a state is read back from its canonical text, with its tokens in the order of
their symbols and its accounts in the order of their addresses. The text therefore identifies the
sorted state, and the records up to their order if no name stands twice. The records of a book are in
this order already. Loading is indifferent to the order of the records, so that what is read back can
be loaded whenever the state can, and comes to the same book.
-/

import Mathlib
import TokenLedger.Proofs.Data.Ordering
import TokenLedger.Proofs.Engine.Invariants
import TokenLedger.Proofs.Json.Reordering
import TokenLedger.Proofs.Record.RoundTrip

namespace TokenLedger

open Json

/-! ### Records with sorted keys -/

theorem Coins.keysAscend_toJson (coins : Coins) :
    (Coins.toJson coins).EveryObject KeysAscend := by
  refine .object ?_ fun member found => ?_
  · rw [keysAscend_iff, List.map_map]
    exact SortedMap.ascending_keys coins
  · obtain ⟨entry, _, rfl⟩ := List.mem_map.mp found
    exact .scalar trivial

theorem Coins.sortKeys_toJson (coins : Coins) :
    (Coins.toJson coins).sortKeys = Coins.toJson coins :=
  coins.keysAscend_toJson.sortKeys_eq

/-- A token with the members of its document in key order. -/
theorem Token.sortKeys_toJson (token : Token) :
    token.toJson.sortKeys = .object [
      ("mintable", .bool token.mintable),
      ("name", .string token.name),
      ("original_symbol", .string token.originalSymbol),
      ("owner", .string token.owner),
      ("symbol", .string token.symbol),
      ("total_supply", Coins.toJson token.totalSupply)] := by
  rw [Token.toJson, Value.sortKeys]
  simp only [Value.sortMembers, Coins.sortKeys_toJson, Value.sortKeys]
  rfl

theorem Account.sortKeys_toJson (account : Account) :
    account.toJson.sortKeys = account.toJson := by
  rw [Account.toJson, Value.sortKeys]
  simp only [Value.sortMembers, Value.sortKeys, Coins.sortKeys_toJson]
  rfl

theorem Coins.fits_toJson (coins : Coins) (depth : Nat) :
    (Coins.toJson coins).Fits (depth + 1) := by
  refine ⟨?_, ?_⟩
  · rw [List.map_map]
    exact SortedMap.nodup_keys coins
  · rw [Value.membersFit_iff]
    intro member found
    obtain ⟨entry, _, rfl⟩ := List.mem_map.mp found
    trivial

theorem Token.fits_toJson (token : Token) (depth : Nat) : token.toJson.Fits (depth + 2) :=
  ⟨by simp, trivial, trivial, trivial, trivial, Coins.fits_toJson token.totalSupply depth, trivial,
    trivial⟩

theorem Token.ofTree?_sortKeys (token : Token) :
    Token.ofTree? token.toJson.sortKeys.tree = some token := by
  have supply := Coins.ofTree?_tree token.totalSupply
  rw [token.sortKeys_toJson]
  simp [Token.ofTree?, Value.tree, Value.memberTrees, Record.ofTree?, Record.ofMembers?,
    Token.fieldNames, Record.required, Record.field?, Tree.text?, Tree.bool?, supply]

theorem Account.fits_toJson (account : Account) (depth : Nat) :
    account.toJson.Fits (depth + 3) :=
  ⟨by simp, ⟨by simp, trivial, Coins.fits_toJson account.coins depth, trivial⟩,
    ⟨by simp, Coins.fits_toJson account.frozenCoins depth, trivial⟩, trivial⟩

/-! ### The canonical text is read back -/

namespace GenesisState

theorem canonicalJson_eq (state : GenesisState) :
    state.canonicalJson = .object [
      (versionName, .word ledgerVersion.toUInt64),
      ("token_records", .array (state.sorted.tokens.map fun token => token.toJson.sortKeys)),
      ("accounts", .array (state.sorted.accounts.map Account.toJson))] := by
  have accounts : (state.sorted.accounts.map Account.toJson).map Value.sortKeys =
      state.sorted.accounts.map Account.toJson := by
    rw [List.map_map]
    exact List.map_congr_left fun account _ => account.sortKeys_toJson
  rw [canonicalJson, Value.sortKeys, Value.sortKeys, Value.sortItems_eq, Value.sortItems_eq,
    accounts, List.map_map]
  rfl

theorem onlyWords_canonicalJson (state : GenesisState) : state.canonicalJson.OnlyWords := by
  rw [canonicalJson_eq]
  refine ⟨⟨_, rfl⟩, Value.allOnlyWords_iff.mpr ?_, Value.allOnlyWords_iff.mpr ?_, trivial⟩
  · intro item member
    obtain ⟨token, _, rfl⟩ := List.mem_map.mp member
    exact token.onlyWords.sortKeys
  · intro item member
    obtain ⟨account, _, rfl⟩ := List.mem_map.mp member
    exact account.onlyWords

theorem fits_canonicalJson (state : GenesisState) :
    state.canonicalJson.Fits Tree.nestingLimit := by
  rw [canonicalJson_eq]
  refine ⟨by simp [versionName], trivial, Value.allFit_iff.mpr ?_, Value.allFit_iff.mpr ?_, trivial⟩
  · intro item member
    obtain ⟨token, _, rfl⟩ := List.mem_map.mp member
    exact (token.fits_toJson 123).sortKeys
  · intro item member
    obtain ⟨account, _, rfl⟩ := List.mem_map.mp member
    exact account.fits_toJson 122

/-- A state is read back from its canonical text in the order of its names. -/
theorem ofText_canonicalText (state : GenesisState) :
    ofText state.canonicalText = .ok state.sorted := by
  have parsed := Value.parse?_compact state.onlyWords_canonicalJson state.fits_canonicalJson
  have tokens := Tree.list?_array Token.ofTree?_sortKeys state.sorted.tokens
  have accounts := Tree.list?_array Account.ofTree?_tree state.sorted.accounts
  have version : checkVersion (state.canonicalJson.member? versionName) = .ok () := by
    rw [canonicalJson_eq]
    rfl
  have records : ofTree? (withoutVersion state.canonicalJson).tree = some state.sorted := by
    rw [canonicalJson_eq]
    simp only [withoutVersion, versionName]
    rw [Value.tree] at tokens accounts
    simp [ofTree?, Value.tree, Value.memberTrees, Record.ofTree?, Record.ofMembers?,
      Record.required, Record.withDefault, Record.field?, tokens, accounts]
  rw [ofText, canonicalText, parsed]
  simp only [version, records]
  rfl

end GenesisState

/-! ### The order of the records -/

namespace GenesisState

/-- The same records, in any order. -/
structure SameRecords (first second : GenesisState) : Prop where
  tokens : first.tokens.Perm second.tokens
  accounts : first.accounts.Perm second.accounts

/-- No two tokens have one symbol, and no two accounts one address. -/
structure Distinct (state : GenesisState) : Prop where
  symbols : (state.tokens.map Token.symbol).Nodup
  addresses : (state.accounts.map Account.address).Nodup

variable {first second state : GenesisState}

theorem SameRecords.symm (same : first.SameRecords second) : second.SameRecords first :=
  ⟨same.tokens.symm, same.accounts.symm⟩

theorem sameRecords_sorted (state : GenesisState) : state.SameRecords state.sorted :=
  ⟨(sortBy_perm _ _).symm, (sortBy_perm _ _).symm⟩

theorem distinct_of_validate (valid : state.validate = .ok ()) : state.Distinct := by
  obtain ⟨⟨_, symbols⟩, _, addresses⟩ := state.validate_eq_ok_iff.mp valid
  exact ⟨symbols, addresses⟩

/-- The order of the records makes no difference to the checks. -/
theorem SameRecords.validate (same : first.SameRecords second)
    (valid : first.validate = .ok ()) : second.validate = .ok () := by
  obtain ⟨⟨tokensLoadable, symbols⟩, accountsLoadable, addresses⟩ :=
    first.validate_eq_ok_iff.mp valid
  exact second.validate_eq_ok_iff.mpr
    ⟨⟨fun token member => tokensLoadable token (same.tokens.mem_iff.mpr member),
      (same.tokens.map Token.symbol).nodup_iff.mp symbols⟩,
      fun account member => accountsLoadable account (same.accounts.mem_iff.mpr member),
      (same.accounts.map Account.address).nodup_iff.mp addresses⟩

/-- The order of the records makes no difference to the book into which they are loaded. -/
theorem SameRecords.load_eq (same : first.SameRecords second) (distinct : first.Distinct)
    (book : Book) : book.load second = book.load first := by
  have tokens : first.tokens.foldl (fun book token => book.withToken token.symbol token) book =
      second.tokens.foldl (fun book token => book.withToken token.symbol token) book := by
    refine List.Perm.foldl_eq' same.tokens (fun token inTokens other inOthers between => ?_) book
    by_cases sameSymbol : token.symbol = other.symbol
    · rw [List.inj_on_of_nodup_map distinct.symbols inTokens inOthers sameSymbol]
    · exact between.withToken_comm sameSymbol
  have accounts (start : Book) : first.accounts.foldl Book.withAccount start =
      second.accounts.foldl Book.withAccount start := by
    refine List.Perm.foldl_eq' same.accounts
      (fun account inAccounts other inOthers between => ?_) start
    by_cases sameAddress : account.address = other.address
    · rw [List.inj_on_of_nodup_map distinct.addresses inAccounts inOthers sameAddress]
    · exact between.withAccount_comm sameAddress
  rw [Book.load, Book.load, ← tokens, ← accounts]

/-- A new engine takes two states with the same records for one. -/
theorem SameRecords.initGenesis_eq (same : first.SameRecords second) {setup : Setup}
    {generator : SymbolGenerator}
    (accepted : ((Engine.new setup generator).initGenesis first).1 = .ok ()) :
    (Engine.new setup generator).initGenesis second =
      (Engine.new setup generator).initGenesis first := by
  obtain ⟨valid, names⟩ := Engine.of_initGenesis_new accepted
  have loaded := same.load_eq (distinct_of_validate valid) Book.empty
  rw [Engine.initGenesis_new valid names,
    Engine.initGenesis_new (same.validate valid) (loaded.symm ▸ names), loaded]

theorem initGenesis_sorted {setup : Setup} {generator : SymbolGenerator}
    (accepted : ((Engine.new setup generator).initGenesis state).1 = .ok ()) :
    (Engine.new setup generator).initGenesis state.sorted =
      (Engine.new setup generator).initGenesis state :=
  state.sameRecords_sorted.initGenesis_eq accepted

/-- A state that can be loaded is restored from its canonical text. -/
theorem restoreText_canonicalText (valid : state.validate = .ok ())
    (names : (Book.empty.load state).NamesSupply) :
    restoreText state.canonicalText = .ok state.sorted := by
  have same := state.sameRecords_sorted
  have loaded := same.load_eq (distinct_of_validate valid) Book.empty
  have tried : state.sorted.tryOut = .ok () :=
    Book.tryOut_of_namesSupply (same.validate valid) (loaded.symm ▸ names)
  rw [restoreText, ofText_canonicalText]
  simp only [bind, Except.bind, tried]
  rfl

end GenesisState

/-- The records of a book are in the order of their names. -/
theorem Book.Complete.sorted_records {book : Book} (complete : book.Complete) :
    book.records.sorted = book.records := by
  have tokens := book.tokens.ascending
  have accounts := book.accounts.ascending
  rw [← complete.map_symbol_tokens, List.pairwise_map] at tokens
  rw [← complete.map_address_accounts, List.pairwise_map] at accounts
  rw [GenesisState.sorted, records, sortBy_of_ascends _ (tokens.imp KeyOrder.asymm),
    sortBy_of_ascends _ (accounts.imp KeyOrder.asymm)]

/-! ### The text identifies the records -/

namespace GenesisState

variable {first second : GenesisState}

/-- The records in the order of their names, those with one name in the order in which they were
given. -/
structure SortedAs (state sorted : GenesisState) : Prop where
  tokens : IsSorting Token.symbol state.tokens sorted.tokens
  accounts : IsSorting Account.address state.accounts sorted.accounts

theorem sortedAs_iff {state other : GenesisState} :
    state.SortedAs other ↔ other = state.sorted := by
  constructor
  · rintro ⟨tokens, accounts⟩
    rw [sorted, ← isSorting_iff.mp tokens, ← isSorting_iff.mp accounts]
  · rintro rfl
    exact ⟨isSorting_iff.mpr rfl, isSorting_iff.mpr rfl⟩

theorem sorted_sorted (state : GenesisState) : state.sorted.sorted = state.sorted := by
  rw [sorted, sorted, sortBy_of_ascends _ (ascends_sortBy _ _),
    sortBy_of_ascends _ (ascends_sortBy _ _)]

/-- Sorting changes nothing in the text, which lists the records in order anyway. -/
theorem canonicalText_sorted (state : GenesisState) :
    state.sorted.canonicalText = state.canonicalText := by
  rw [canonicalText, canonicalText, canonicalJson_eq, canonicalJson_eq, sorted_sorted]

/-- No two sorted forms have one text, since they are read back from it. -/
theorem canonicalText_eq_iff :
    first.canonicalText = second.canonicalText ↔ first.sorted = second.sorted := by
  constructor
  · intro same
    have read := first.ofText_canonicalText
    rw [same, ofText_canonicalText] at read
    exact (Except.ok.inj read).symm
  · intro same
    rw [← first.canonicalText_sorted, same, canonicalText_sorted]

/-- States whose records have different names are told apart by their records only. -/
theorem Distinct.sorted_eq_iff (distinct : first.Distinct) (second : GenesisState) :
    first.sorted = second.sorted ↔ first.SameRecords second := by
  constructor
  · intro same
    have sortedSecond := second.sameRecords_sorted.symm
    rw [← same] at sortedSecond
    have sortedFirst := first.sameRecords_sorted
    exact ⟨sortedFirst.tokens.trans sortedSecond.tokens,
      sortedFirst.accounts.trans sortedSecond.accounts⟩
  · intro same
    rw [sorted, sorted, sortBy_eq_of_perm _ distinct.symbols same.tokens,
      sortBy_eq_of_perm _ distinct.addresses same.accounts]

/-- A state is read back from its canonical text with its records in the order of their names, and
then has the same text. The text identifies the sorted state, and if no name stands twice, the
records but for their order. What an engine exports is read back as it is. -/
theorem canonicalText_read_back :
    (∀ state : GenesisState,
      ofText state.canonicalText = .ok state.sorted ∧
        (∀ other, state.SortedAs other ↔ other = state.sorted) ∧
        state.sorted.canonicalText = state.canonicalText) ∧
    (∀ first second : GenesisState,
      (first.canonicalText = second.canonicalText ↔ first.sorted = second.sorted) ∧
        (first.Distinct →
          (first.canonicalText = second.canonicalText ↔ first.SameRecords second))) ∧
    ∀ engine : Engine, engine.Reachable →
      ∃ state, engine.exportState = .ok state ∧ ofText state.canonicalText = .ok state := by
  refine ⟨fun state => ⟨state.ofText_canonicalText, fun _ => sortedAs_iff,
    state.canonicalText_sorted⟩, fun first second => ⟨canonicalText_eq_iff, ?_⟩, ?_⟩
  · intro distinct
    rw [canonicalText_eq_iff, distinct.sorted_eq_iff second]
  · intro engine reachable
    obtain ⟨book, sound⟩ := reachable.sound
    refine ⟨book.records, sound.exportState_eq, ?_⟩
    rw [ofText_canonicalText, sound.complete.sorted_records]

/-- Two tokens and three accounts out of order. A name has to be escaped in the text, and one of the
accounts holds nothing. -/
def outOfOrder : GenesisState :=
  ⟨[⟨"bob", "Silver", "SLV-2B", "SLV", Coins.single "SLV-2B" 5, false⟩,
      ⟨"alice", "Gold \"\n", "GLD-1A2", "GLD", Coins.single "GLD-1A2" 0, true⟩],
    [⟨"bob", Coins.single "SLV-2B" 5, .empty⟩, ⟨"zoe", .empty, .empty⟩,
      ⟨"alice", .empty, Coins.single "GLD-1A2" 40⟩]⟩

/-- The same records the other way round. -/
def reversed (state : GenesisState) : GenesisState :=
  ⟨state.tokens.reverse, state.accounts.reverse⟩

theorem canonicalText_read_back_outOfOrder :
    outOfOrder ≠ outOfOrder.reversed ∧ outOfOrder.Distinct ∧
      outOfOrder.canonicalText = outOfOrder.reversed.canonicalText ∧
      Engine.oneToken.Reachable ∧
      ∃ state, Engine.oneToken.exportState = .ok state ∧
        ofText state.canonicalText = .ok state := by
  have distinct : outOfOrder.Distinct := ⟨by decide, by decide⟩
  obtain ⟨_, identified, exported⟩ := canonicalText_read_back
  exact ⟨by decide, distinct,
    ((identified outOfOrder outOfOrder.reversed).2 distinct).mpr
      ⟨(List.reverse_perm _).symm, (List.reverse_perm _).symm⟩,
    Engine.oneToken_reachable, exported _ Engine.oneToken_reachable⟩

end GenesisState

end TokenLedger
