/-
The registry of tokens, one record under each symbol. Every operation names the store it works on,
so that committed and pending records are read and written alike.
-/

import TokenLedger.Record.Format
import TokenLedger.Store.Scope

namespace TokenLedger

namespace Registry

/-- The record under a symbol. -/
def get (format : RecordFormat) (store : LayeredStore) (symbol : String) : Except Fault Token :=
  match store.get? (utf8 symbol) with
  | none => .error (.tokenNotFound symbol)
  | some bytes => format.decodeToken bytes

/-- Store a record under a symbol, over an earlier one. A token without an owner is refused. -/
def set (format : RecordFormat) (store : LayeredStore) (symbol : String) (token : Token) :
    Except Fault LayeredStore :=
  if token.owner = "" then .error (.tokenWithoutOwner symbol)
  else .ok (store.set (utf8 symbol) (format.encodeToken token))

/-- Remove the record under a symbol. No request does. -/
def delete (store : LayeredStore) (symbol : String) : LayeredStore :=
  store.delete (utf8 symbol)

/-- Whether there is a record under a symbol. -/
def isRegistered (store : LayeredStore) (symbol : String) : Bool :=
  store.contains (utf8 symbol)

/-- Change the record under a symbol. -/
def update (format : RecordFormat) (store : LayeredStore) (symbol : String)
    (change : Token → Token) : Except Fault LayeredStore := do
  let token ← get format store symbol
  set format store symbol (change token)

/-- Change the name shown for a token. -/
def setName (format : RecordFormat) (store : LayeredStore) (symbol name : String) :
    Except Fault LayeredStore :=
  update format store symbol fun token => { token with name }

/-- Hand a token over. -/
def setOwner (format : RecordFormat) (store : LayeredStore) (symbol : String) (owner : Address) :
    Except Fault LayeredStore :=
  update format store symbol fun token => { token with owner }

/-- Overwrite the recorded supply. -/
def setTotalSupply (format : RecordFormat) (store : LayeredStore) (symbol : String)
    (totalSupply : Coins) : Except Fault LayeredStore :=
  update format store symbol fun token => { token with totalSupply }

/-- One stored record with its key as a text. -/
def readEntry (format : RecordFormat) (entry : Bytes × Bytes) : Except Fault (String × Token) :=
  match utf8? entry.1 with
  | none => .error (.unreadable .registryKey)
  | some symbol => do return (symbol, ← format.decodeToken entry.2)

/-- Every record in key order. -/
def all (format : RecordFormat) (store : LayeredStore) : Except Fault (List (String × Token)) :=
  store.entries.mapM (readEntry format)

end Registry

end TokenLedger
