/-
Comparing two states of a ledger. Both are looked up record by record, where of several records with
one key the last counts; what the first state lacks, what the second lacks, and where they differ is
listed by key. Of a token that both have, the supply and the owner are compared; of an account, all.
-/

import TokenLedger.Engine.Genesis

namespace TokenLedger

/-- A token whose supply differs. -/
structure SupplyChange where
  symbol : String
  first : Amount
  second : Amount
  /-- By how much the supply grew from the first state to the second. -/
  delta : Int
  deriving DecidableEq, Repr

/-- Where two states differ. -/
structure Comparison where
  /-- The number of tokens in the first state and in the second. -/
  tokenCounts : Nat × Nat
  /-- How many more tokens the second state has. -/
  tokenCountDelta : Int
  /-- The symbols that only the second state has. -/
  added : List String
  /-- The symbols that only the first state has. -/
  removed : List String
  supplyChanges : List SupplyChange
  /-- The symbols whose tokens have different owners. -/
  ownerChanges : List String
  /-- The number of accounts in the first state and in the second. -/
  accountCounts : Nat × Nat
  /-- The addresses whose accounts differ, where having none differs from having one. -/
  changedAccounts : List Address
  deriving DecidableEq, Repr

namespace Comparison

/-- Whether no difference is listed. -/
def isEmpty (comparison : Comparison) : Bool :=
  comparison.added.isEmpty && comparison.removed.isEmpty && comparison.supplyChanges.isEmpty &&
    comparison.ownerChanges.isEmpty && comparison.changedAccounts.isEmpty

end Comparison

namespace GenesisState

/-- The tokens by symbol. -/
def tokensBySymbol (state : GenesisState) : SortedMap String Token :=
  .ofList (state.tokens.map fun token => (token.symbol, token))

/-- The accounts by address. -/
def accountsByAddress (state : GenesisState) : SortedMap Address Account :=
  .ofList (state.accounts.map fun account => (account.address, account))

end GenesisState

/-- The keys that the first map has and the second lacks. -/
def SortedMap.keysMissingFrom {κ α : Type} [DecidableEq κ] [KeyOrder κ]
    (first second : SortedMap κ α) : List κ :=
  first.keys.filter fun key => !second.contains key

/-- The keys of either map at which the two differ. -/
def SortedMap.keysWithChanges {κ α : Type} [DecidableEq κ] [KeyOrder κ] [DecidableEq α]
    (first second : SortedMap κ α) : List κ :=
  let either : SortedMap κ α := .ofList (first.entries ++ second.entries)
  either.keys.filter fun key => first.get? key ≠ second.get? key

/-- The change of the supply of one token. -/
def supplyChange? (first second : SortedMap String Token) (symbol : String) :
    Option SupplyChange := do
  let old ← first.get? symbol
  let new ← second.get? symbol
  if old.supply = new.supply then none
  else some ⟨symbol, old.supply, new.supply, new.supply.toNat - old.supply.toNat⟩

/-- Whether both maps have a token under a symbol, and its owners differ. -/
def ownerChanged (first second : SortedMap String Token) (symbol : String) : Bool :=
  match first.get? symbol, second.get? symbol with
  | some old, some new => old.owner ≠ new.owner
  | _, _ => false

/-- Where the second state differs from the first. -/
def GenesisState.compare (first second : GenesisState) : Comparison :=
  let oldTokens := first.tokensBySymbol
  let newTokens := second.tokensBySymbol
  let oldAccounts := first.accountsByAddress
  let newAccounts := second.accountsByAddress
  { tokenCounts := (oldTokens.size, newTokens.size)
    tokenCountDelta := newTokens.size - oldTokens.size
    added := newTokens.keysMissingFrom oldTokens
    removed := oldTokens.keysMissingFrom newTokens
    supplyChanges := oldTokens.keys.filterMap (supplyChange? oldTokens newTokens)
    ownerChanges := oldTokens.keys.filter (ownerChanged oldTokens newTokens)
    accountCounts := (oldAccounts.size, newAccounts.size)
    changedAccounts := oldAccounts.keysWithChanges newAccounts }

end TokenLedger
