/-
The rules that the stored records keep at all times. They are checked over the pending writes of
every request, and over every state that is loaded; the first breach is reported.
-/

import TokenLedger.Ledger.Holdings
import TokenLedger.Ledger.Registry
import TokenLedger.Text.Lossy

namespace TokenLedger

/-- A token stands under its symbol, has an owner and its names, and its supply names its own
denomination. -/
def Token.check (key : String) (token : Token) : Except Breach Unit :=
  if key ≠ token.symbol then .error (.registryKey key token.symbol)
  else if token.owner = "" then .error (.noOwner key)
  else if token.name = "" then .error (.noName key)
  else if token.originalSymbol = "" then .error (.noOriginalSymbol key)
  else if !token.totalSupply.contains token.symbol then .error (.noSupply key)
  else .ok ()

/-- An account stands under its address, holds no zero amounts, and holds something. -/
def Account.check (key : Bytes) (account : Account) : Except Breach Unit :=
  let shown := Text.lossy key
  if utf8 account.address ≠ key then .error (.accountKey shown account.address)
  else if account.hasZero then .error (.zeroCoins shown)
  else if account.isEmpty then .error (.emptyAccount shown)
  else .ok ()

/-- Every stored token keeps the rules. -/
def checkTokens (format : RecordFormat) (tokens : LayeredStore) : Except Fault Unit := do
  for (key, token) in ← Registry.all format tokens do
    (token.check key).mapError Fault.breach

/-- Every stored account keeps the rules. -/
def checkAccounts (format : RecordFormat) (accounts : LayeredStore) : Except Fault Unit := do
  for (key, account) in ← Holdings.entries format accounts do
    (account.check key).mapError Fault.breach

/-- Every stored record keeps the rules. -/
def checkRecords (format : RecordFormat) (tokens accounts : LayeredStore) : Except Fault Unit := do
  checkTokens format tokens
  checkAccounts format accounts

end TokenLedger
