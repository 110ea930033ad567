/-
States of a ledger as lists of records. A ledger starts from such a state, and its own state can be
listed again. Loading checks the records first and then stores all of them or none.
-/

import TokenLedger.Ledger.Holdings
import TokenLedger.Ledger.Registry

namespace TokenLedger

open Json

/-- The records of a ledger. -/
structure GenesisState where
  tokens : List Token
  accounts : List Account
  deriving DecidableEq

namespace GenesisState

/-- The state without records. -/
def empty : GenesisState := ⟨[], []⟩

instance : Inhabited GenesisState := ⟨empty⟩

/-- Whether there are no records. -/
def isEmpty (state : GenesisState) : Bool :=
  state.tokens.isEmpty && state.accounts.isEmpty

/-! ### Documents -/

def toJson (state : GenesisState) : Value :=
  .object [
    ("token_records", .array (state.tokens.map Token.toJson)),
    ("accounts", .array (state.accounts.map Account.toJson))]

/-- Read a state; the accounts may be left out. -/
def ofTree? (tree : Tree) : Option GenesisState := do
  let record ← Record.ofTree? ["token_records", "accounts"] false tree
  return {
    tokens := ← record.required "token_records" (Tree.list? Token.ofTree?)
    accounts := ← record.withDefault "accounts" (Tree.list? Account.ofTree?) [] }

/-! ### Checks -/

/-- Check the tokens one after another; `seen` are the symbols of the earlier ones. -/
def checkTokenRecords (seen : List String) : List Token → Except GenesisFlaw Unit
  | [] => .ok ()
  | token :: rest =>
    if token.owner = "" then .error (.tokenOwner token.symbol)
    else if token.symbol = "" then .error (.tokenSymbol token.owner)
    else if token.totalSupply.isEmpty then .error (.tokenSupply token.symbol)
    else if token.name = "" then .error (.tokenName token.symbol)
    else if token.originalSymbol = "" then .error (.tokenOriginalSymbol token.symbol)
    else if token.symbol ∈ seen then .error (.repeatedSymbol token.symbol)
    else checkTokenRecords (token.symbol :: seen) rest

/-- Check the accounts one after another; `seen` are the addresses of the earlier ones. -/
def checkAccountRecords (seen : List String) : List Account → Except GenesisFlaw Unit
  | [] => .ok ()
  | account :: rest =>
    if account.address = "" then .error .accountAddress
    else if account.hasZero then .error (.zeroCoins account.address)
    else if account.address ∈ seen then .error (.repeatedAddress account.address)
    else checkAccountRecords (account.address :: seen) rest

/-- Check every record by itself and against the earlier ones. -/
def validate (state : GenesisState) : Except Fault Unit :=
  (do checkTokenRecords [] state.tokens
      checkAccountRecords [] state.accounts : Except GenesisFlaw Unit).mapError Fault.badGenesis

/-! ### Loading and listing -/

/-- Write every record into a scope. -/
def write (format : RecordFormat) (state : GenesisState) (scope : Scope) : Except Fault Scope := do
  let tokens ← state.tokens.foldlM
    (fun tokens token => Registry.set format tokens token.symbol token) scope.tokens
  return ⟨tokens, state.accounts.foldl (Holdings.put format) scope.accounts⟩

/-- A failure to load is always fatal. -/
def loadFault (fault : Fault) : Fault :=
  if fault.isFatal then fault else .badGenesis (.notStored fault.message)

/-- Check the records and write all of them into the stores, or none. -/
def load (format : RecordFormat) (state : GenesisState) (store : LedgerStore) :
    Except Fault Unit × LedgerStore :=
  match state.validate with
  | .error fault => (.error fault, store)
  | .ok () =>
    match state.write format store.begin with
    | .error fault => (.error (loadFault fault), store.begin.discard)
    | .ok scope => (.ok (), scope.commit)

/-- The records of the stores, in key order. -/
def ofStore (format : RecordFormat) (store : LedgerStore) : Except Fault GenesisState := do
  let tokens ← Registry.all format (.ofStore store.tokens)
  let accounts ← Holdings.all format (.ofStore store.accounts)
  return ⟨tokens.map (·.2), accounts⟩

end GenesisState

end TokenLedger
