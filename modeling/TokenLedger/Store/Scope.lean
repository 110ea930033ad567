/-
The two stores of a ledger. Tokens are stored under the bytes of their symbol, accounts under the
bytes of their address. A request works in a scope, one layer over both stores, which is either
committed or discarded as a whole.
-/

import TokenLedger.Store.Layered

namespace TokenLedger

/-- What a ledger has committed. -/
structure LedgerStore where
  tokens : Store
  accounts : Store
  deriving DecidableEq

/-- Both stores under the layers that a request writes to. -/
structure Scope where
  tokens : LayeredStore
  accounts : LayeredStore
  deriving DecidableEq

namespace LedgerStore

def empty : LedgerStore := ⟨SortedMap.empty, SortedMap.empty⟩

instance : Inhabited LedgerStore := ⟨empty⟩

/-- Both stores without layers. -/
def plain (store : LedgerStore) : Scope :=
  ⟨.ofStore store.tokens, .ofStore store.accounts⟩

/-- Open a layer over both stores. -/
def begin (store : LedgerStore) : Scope :=
  ⟨(LayeredStore.ofStore store.tokens).begin, (LayeredStore.ofStore store.accounts).begin⟩

end LedgerStore

namespace Scope

/-- Make the pending writes of both layers. -/
def commit (scope : Scope) : LedgerStore :=
  ⟨scope.tokens.commit.base, scope.accounts.commit.base⟩

/-- Forget the pending writes of both layers. -/
def discard (scope : Scope) : LedgerStore :=
  ⟨scope.tokens.discard.base, scope.accounts.discard.base⟩

/-- Commit after a success, discard after a failure, and pass the outcome on. -/
def finish {ε α : Type} (scope : Scope) (outcome : Except ε α) : Except ε α × LedgerStore :=
  match outcome with
  | .ok value => (.ok value, scope.commit)
  | .error reason => (.error reason, scope.discard)

end Scope

end TokenLedger
