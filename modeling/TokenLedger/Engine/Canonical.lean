/-
The canonical form of a state. It lists the version of the ledger's rules, the tokens by symbol and
the accounts by address, with the members of every record in key order and no white space; its
digest identifies the state on every machine, whatever the format of the stored records.
-/

import TokenLedger.Data.Sorting
import TokenLedger.Digest.Sha256
import TokenLedger.Engine.Genesis

namespace TokenLedger

open Json

/-- The version of the rules by which requests change the ledger. -/
def ledgerVersion : UInt32 := 1

namespace GenesisState

/-- The same records, tokens by symbol and accounts by address. -/
def sorted (state : GenesisState) : GenesisState :=
  ⟨sortBy Token.symbol state.tokens, sortBy Account.address state.accounts⟩

/-- The canonical document. -/
def canonicalJson (state : GenesisState) : Value :=
  .object [
    ("ledger_version", .word ledgerVersion.toUInt64),
    ("token_records", (Value.array (state.sorted.tokens.map Token.toJson)).sortKeys),
    ("accounts", (Value.array (state.sorted.accounts.map Account.toJson)).sortKeys)]

/-- The canonical text. -/
def canonicalText (state : GenesisState) : String :=
  state.canonicalJson.compact

/-- The digest of the canonical text. -/
def hash (state : GenesisState) : String :=
  sha256Hex (utf8 state.canonicalText)

end GenesisState

end TokenLedger
