/-
This file says what it means that comparing two states lists nothing. The two then have tokens under
the same symbols, with the same owners and supplies, and the same accounts. That is not yet the same
state: what else a token records, its names, whether more of it may be minted, and supplies in
denominations other than its own, is not compared, but stands in the canonical text. With the
comparison empty and these the same, and no name standing twice, the texts are the same.
-/

import Mathlib
import TokenLedger.Engine.Comparison
import TokenLedger.Proofs.Engine.Canonical

namespace TokenLedger

/-! ### Maps that differ nowhere -/

namespace SortedMap

variable {κ α : Type} [KeyOrder κ] [DecidableEq κ] {first second : SortedMap κ α}

/-- The keys of a list are bound in its map, also those that stand there twice. -/
theorem mem_keys_ofList_iff {entries : List (κ × α)} {key : κ} :
    key ∈ (ofList entries).keys ↔ key ∈ entries.map (·.1) := by
  rw [mem_keys_iff, ← Option.isSome_iff_exists, get?_ofList_eq_last, Option.isSome_map,
    List.find?_isSome, List.mem_map]
  simp only [List.mem_reverse, decide_eq_true_eq]

theorem mem_keysMissingFrom_iff {key : κ} :
    key ∈ first.keysMissingFrom second ↔ first.get? key ≠ none ∧ second.get? key = none := by
  rw [keysMissingFrom, List.mem_filter, mem_keys_iff, ← Option.ne_none_iff_exists',
    contains_eq_isSome, Bool.not_eq_true', Option.isSome_eq_false_iff, Option.isNone_iff_eq_none]

/-- Keys that neither map binds are not listed, and their look-ups are the same. -/
theorem mem_keysWithChanges_iff [DecidableEq α] {key : κ} :
    key ∈ first.keysWithChanges second ↔ first.get? key ≠ second.get? key := by
  rw [keysWithChanges, List.mem_filter, mem_keys_ofList_iff, List.map_append, decide_eq_true_eq]
  refine and_iff_right_of_imp fun differ => ?_
  rw [List.mem_append]
  change key ∈ first.keys ∨ key ∈ second.keys
  rw [mem_keys_iff, mem_keys_iff, ← Option.ne_none_iff_exists', ← Option.ne_none_iff_exists']
  by_contra neither
  obtain ⟨notFirst, notSecond⟩ := not_or.mp neither
  exact differ ((not_not.mp notFirst).trans (not_not.mp notSecond).symm)

/-- No key of the first map is missing from the second. -/
theorem keysMissingFrom_eq_nil_iff :
    first.keysMissingFrom second = [] ↔ ∀ key ∈ first.keys, key ∈ second.keys := by
  simp only [List.eq_nil_iff_forall_not_mem, mem_keysMissingFrom_iff, mem_keys_iff,
    ← Option.ne_none_iff_exists', not_and, ne_eq]

/-- Maps without a key at which they differ are equal. -/
theorem keysWithChanges_eq_nil_iff [DecidableEq α] :
    first.keysWithChanges second = [] ↔ first = second := by
  simp only [List.eq_nil_iff_forall_not_mem, mem_keysWithChanges_iff, not_not]
  exact ⟨ext_get?, fun same key => congrArg (get? · key) same⟩

/-- Two lists of records with names of their own give one map just when they have the same
records. -/
theorem ofList_eq_iff_perm (name : α → κ) {records others : List α}
    (distinct : (records.map name).Nodup) (othersDistinct : (others.map name).Nodup) :
    ofList (records.map fun record => (name record, record)) =
        ofList (others.map fun record => (name record, record)) ↔
      records.Perm others := by
  constructor
  · intro same
    have values := values_ofList_perm name distinct
    rw [same] at values
    exact values.symm.trans (values_ofList_perm name othersDistinct)
  · intro perm
    have keyed : ((records.map fun record => (name record, record)).map (·.1)).Nodup := by
      rwa [List.map_map]
    have othersKeyed : ((others.map fun record => (name record, record)).map (·.1)).Nodup := by
      rwa [List.map_map]
    refine ext_get? fun key => Option.ext fun value => ?_
    rw [get?_ofList_eq_some_iff keyed, get?_ofList_eq_some_iff othersKeyed]
    exact (perm.map _).mem_iff

end SortedMap

/-! ### Tokens -/

/-- An entry is determined by its amount and by whether it is there, as it may hold zero. -/
theorem Coins.get?_eq_of_amountOf {first second : Coins} {denomination : String}
    (entry : first.contains denomination = second.contains denomination)
    (amount : first.amountOf denomination = second.amountOf denomination) :
    first.get? denomination = second.get? denomination := by
  rw [SortedMap.contains_eq_isSome, SortedMap.contains_eq_isSome] at entry
  rw [amountOf, amountOf] at amount
  cases left : first.get? denomination with
  | none =>
    rw [left, Option.isSome_none, eq_comm, Option.isSome_eq_false_iff,
      Option.isNone_iff_eq_none] at entry
    exact entry.symm
  | some value =>
    rw [left, Option.isSome_some, eq_comm, Option.isSome_iff_exists] at entry
    obtain ⟨other, right⟩ := entry
    rw [left, right] at amount
    rw [right]
    exact congrArg some amount

/-- The same token but for what a comparison looks at, the owner and the supply. -/
structure Token.SameBesides (first second : Token) : Prop where
  name : first.name = second.name
  originalSymbol : first.originalSymbol = second.originalSymbol
  mintable : first.mintable = second.mintable
  /-- The supplies in other denominations. -/
  others : ∀ denomination, denomination ≠ first.symbol →
    first.totalSupply.get? denomination = second.totalSupply.get? denomination
  /-- Without an entry a supply is the same as with one of zero. -/
  entry : first.totalSupply.contains first.symbol = second.totalSupply.contains first.symbol

theorem Token.SameBesides.refl (token : Token) : token.SameBesides token :=
  ⟨rfl, rfl, rfl, fun _ _ => rfl, rfl⟩

/-- The comparison and what it leaves out make up the token. -/
theorem Token.SameBesides.eq {first second : Token} (same : first.SameBesides second)
    (symbol : first.symbol = second.symbol) (supply : first.supply = second.supply)
    (owner : first.owner = second.owner) : first = second := by
  have totalSupply : first.totalSupply = second.totalSupply := by
    refine SortedMap.ext_get? fun denomination => ?_
    by_cases own : denomination = first.symbol
    · subst own
      rw [Token.supply, Token.supply, ← symbol] at supply
      exact Coins.get?_eq_of_amountOf same.entry supply
    · exact same.others denomination own
  obtain ⟨_, _, _, _, _, _⟩ := first
  obtain ⟨_, _, _, _, _, _⟩ := second
  cases owner; cases same.name; cases symbol; cases same.originalSymbol; cases totalSupply
  cases same.mintable
  rfl

theorem supplyChange?_eq_none_iff {first second : SortedMap String Token} {symbol : String} :
    supplyChange? first second symbol = none ↔
      ∀ token other, first.get? symbol = some token → second.get? symbol = some other →
        token.supply = other.supply := by
  rw [supplyChange?]
  cases first.get? symbol with
  | none => simp
  | some token => cases second.get? symbol <;> simp

theorem ownerChanged_eq_false_iff {first second : SortedMap String Token} {symbol : String} :
    ownerChanged first second symbol = false ↔
      ∀ token other, first.get? symbol = some token → second.get? symbol = some other →
        token.owner = other.owner := by
  rw [ownerChanged]
  cases first.get? symbol with
  | none => simp
  | some token => cases second.get? symbol <;> simp

/-! ### States -/

namespace GenesisState

variable {first second : GenesisState}

/-- The tokens are listed under their symbols. -/
theorem Distinct.get?_tokensBySymbol (distinct : first.Distinct) {symbol : String} {token : Token} :
    first.tokensBySymbol.get? symbol = some token ↔
      token ∈ first.tokens ∧ token.symbol = symbol := by
  have keyed : ((first.tokens.map fun token => (token.symbol, token)).map (·.1)).Nodup := by
    rw [List.map_map]
    exact distinct.symbols
  rw [tokensBySymbol, SortedMap.get?_ofList_eq_some_iff keyed, List.mem_map]
  constructor
  · rintro ⟨other, member, same⟩
    obtain ⟨rfl, rfl⟩ := Prod.mk.inj same
    exact ⟨member, rfl⟩
  · rintro ⟨member, rfl⟩
    exact ⟨token, member, rfl⟩

/-- States have the same records just when the look-ups by name are the same. -/
theorem Distinct.sameRecords_iff (distinct : first.Distinct) (others : second.Distinct) :
    first.SameRecords second ↔ first.tokensBySymbol = second.tokensBySymbol ∧
      first.accountsByAddress = second.accountsByAddress := by
  have tokens := SortedMap.ofList_eq_iff_perm Token.symbol distinct.symbols others.symbols
  have accounts := SortedMap.ofList_eq_iff_perm Account.address distinct.addresses others.addresses
  constructor
  · rintro ⟨sameTokens, sameAccounts⟩
    exact ⟨tokens.mpr sameTokens, accounts.mpr sameAccounts⟩
  · rintro ⟨sameTokens, sameAccounts⟩
    exact ⟨tokens.mp sameTokens, accounts.mp sameAccounts⟩

/-- What is the same in two states that a comparison finds no difference between. -/
structure Matches (first second : GenesisState) : Prop where
  symbols : ∀ symbol, symbol ∈ first.tokensBySymbol.keys ↔ symbol ∈ second.tokensBySymbol.keys
  tokens : ∀ symbol token other, first.tokensBySymbol.get? symbol = some token →
    second.tokensBySymbol.get? symbol = some other →
      token.supply = other.supply ∧ token.owner = other.owner
  accounts : first.accountsByAddress = second.accountsByAddress

/-- Tokens with one symbol are the same in what is not compared. -/
def SameBesides (first second : GenesisState) : Prop :=
  ∀ token ∈ first.tokens, ∀ other ∈ second.tokens, token.symbol = other.symbol →
    token.SameBesides other

/-- A comparison is empty just when it has found no difference. -/
theorem isEmpty_compare_iff :
    (first.compare second).isEmpty = true ↔ first.Matches second := by
  simp only [Comparison.isEmpty, compare, Bool.and_eq_true, List.isEmpty_iff,
    SortedMap.keysMissingFrom_eq_nil_iff, SortedMap.keysWithChanges_eq_nil_iff,
    List.filterMap_eq_nil_iff, List.filter_eq_nil_iff, Bool.not_eq_true, supplyChange?_eq_none_iff,
    ownerChanged_eq_false_iff]
  constructor
  · rintro ⟨⟨⟨⟨added, removed⟩, supplies⟩, owners⟩, accounts⟩
    refine ⟨fun symbol => ⟨removed symbol, added symbol⟩, ?_, accounts⟩
    intro symbol token other found otherFound
    have bound := SortedMap.mem_keys_iff.mpr ⟨token, found⟩
    exact ⟨supplies symbol bound token other found otherFound,
      owners symbol bound token other found otherFound⟩
  · rintro ⟨symbols, tokens, accounts⟩
    exact ⟨⟨⟨⟨fun symbol => (symbols symbol).mpr, fun symbol => (symbols symbol).mp⟩,
      fun symbol _ token other found otherFound => (tokens symbol token other found otherFound).1⟩,
      fun symbol _ token other found otherFound => (tokens symbol token other found otherFound).2⟩,
      accounts⟩

/-- With what is not compared the same as well, the same tokens are listed. -/
theorem Matches.tokensBySymbol_eq (matching : first.Matches second) (distinct : first.Distinct)
    (others : second.Distinct) (besides : first.SameBesides second) :
    first.tokensBySymbol = second.tokensBySymbol := by
  refine SortedMap.ext_get? fun symbol => ?_
  cases found : first.tokensBySymbol.get? symbol with
  | none =>
    cases otherFound : second.tokensBySymbol.get? symbol with
    | none => rfl
    | some other =>
      have bound := (matching.symbols symbol).mpr (SortedMap.mem_keys_iff.mpr ⟨other, otherFound⟩)
      obtain ⟨token, unexpected⟩ := SortedMap.mem_keys_iff.mp bound
      rw [found] at unexpected
      cases unexpected
  | some token =>
    have bound := (matching.symbols symbol).mp (SortedMap.mem_keys_iff.mpr ⟨token, found⟩)
    obtain ⟨other, otherFound⟩ := SortedMap.mem_keys_iff.mp bound
    obtain ⟨supply, owner⟩ := matching.tokens symbol token other found otherFound
    obtain ⟨member, named⟩ := distinct.get?_tokensBySymbol.mp found
    obtain ⟨otherMember, otherNamed⟩ := others.get?_tokensBySymbol.mp otherFound
    have sameSymbol := named.trans otherNamed.symm
    rw [otherFound,
      (besides token member other otherMember sameSymbol).eq sameSymbol supply owner]

/-- The same records match, and what is not compared is the same too. -/
theorem SameRecords.matches (same : first.SameRecords second) (distinct : first.Distinct)
    (others : second.Distinct) : first.Matches second ∧ first.SameBesides second := by
  obtain ⟨tokens, accounts⟩ := (distinct.sameRecords_iff others).mp same
  refine ⟨⟨fun symbol => by rw [tokens], ?_, accounts⟩, ?_⟩
  · intro symbol token other found otherFound
    rw [tokens, otherFound] at found
    obtain rfl := Option.some.inj found
    exact ⟨rfl, rfl⟩
  · intro token member other otherMember sameSymbol
    obtain rfl : token = other := List.inj_on_of_nodup_map others.symbols
      (same.tokens.mem_iff.mp member) otherMember sameSymbol
    exact .refl token

/-- Two states in which no name stands twice have one canonical text just when comparing them lists
nothing and their tokens are the same in what is not compared. Where the digests differ but nothing
is listed, some token differs in what is not compared. -/
theorem canonicalText_eq_iff_compare (distinct : first.Distinct) (others : second.Distinct) :
    (first.canonicalText = second.canonicalText ↔
      (first.compare second).isEmpty = true ∧ first.SameBesides second) ∧
    (first.hash ≠ second.hash → (first.compare second).isEmpty = true →
      ∃ token ∈ first.tokens, ∃ other ∈ second.tokens,
        token.symbol = other.symbol ∧ ¬ token.SameBesides other) := by
  have identified : first.canonicalText = second.canonicalText ↔
      (first.compare second).isEmpty = true ∧ first.SameBesides second := by
    rw [canonicalText_eq_iff, distinct.sorted_eq_iff second, isEmpty_compare_iff]
    constructor
    · intro same
      exact same.matches distinct others
    · rintro ⟨matching, besides⟩
      exact (distinct.sameRecords_iff others).mpr
        ⟨matching.tokensBySymbol_eq distinct others besides, matching.accounts⟩
  refine ⟨identified, fun digests empty => ?_⟩
  by_contra same
  have besides : first.SameBesides second := fun token member other otherMember sameSymbol =>
    by_contra fun differ => same ⟨token, member, other, otherMember, sameSymbol, differ⟩
  exact digests (congrArg (fun text => sha256Hex (utf8 text)) (identified.mpr ⟨empty, besides⟩))

/-- A state with one token, of which more may be minted or not. -/
def oneGold (mintable : Bool) : GenesisState :=
  ⟨[⟨"alice", "Gold", "GLD-1A2", "GLD", Coins.single "GLD-1A2" 100, mintable⟩], []⟩

theorem distinct_oneGold (mintable : Bool) : (oneGold mintable).Distinct :=
  ⟨List.nodup_singleton _, List.nodup_nil⟩

theorem isEmpty_compare_oneGold : ((oneGold true).compare (oneGold false)).isEmpty = true := by
  decide

theorem hash_oneGold_ne : (oneGold true).hash ≠ (oneGold false).hash := by decide +kernel

theorem canonicalText_eq_iff_compare_outOfOrder :
    outOfOrder.Distinct ∧ outOfOrder.reversed.Distinct ∧
      (outOfOrder.canonicalText = outOfOrder.reversed.canonicalText ∧
        (outOfOrder.compare outOfOrder.reversed).isEmpty = true) ∧
      (oneGold true).hash ≠ (oneGold false).hash ∧
      ∃ token ∈ (oneGold true).tokens, ∃ other ∈ (oneGold false).tokens,
        token.symbol = other.symbol ∧ ¬ token.SameBesides other := by
  have distinct : outOfOrder.Distinct := ⟨by decide, by decide⟩
  have others : outOfOrder.reversed.Distinct := ⟨by decide, by decide⟩
  have texts : outOfOrder.canonicalText = outOfOrder.reversed.canonicalText :=
    canonicalText_eq_iff.mpr (by decide)
  exact ⟨distinct, others,
    ⟨texts, ((canonicalText_eq_iff_compare distinct others).1.mp texts).1⟩, hash_oneGold_ne,
    (canonicalText_eq_iff_compare (distinct_oneGold true) (distinct_oneGold false)).2
      hash_oneGold_ne isEmpty_compare_oneGold⟩

/-- Whether more of a token may be minted is in the canonical text, but is not compared. -/
theorem compare_blind_to_mintable :
    ¬ ∀ first second : GenesisState, first.Distinct → second.Distinct →
      ((first.compare second).isEmpty = true ↔ first.canonicalText = second.canonicalText) := by
  intro claimed
  have texts := (claimed _ _ (distinct_oneGold true) (distinct_oneGold false)).mp
    isEmpty_compare_oneGold
  exact hash_oneGold_ne (congrArg (fun text => sha256Hex (utf8 text)) texts)

end GenesisState

end TokenLedger
