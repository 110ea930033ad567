/-
Everything that can go wrong in the ledger, cause by cause. Each cause has one wording and one
number. A fatal fault means that the stored state or the delivery of requests is not what it should
be; any other fault refuses one request and leaves the ledger as it was.
-/

import TokenLedger.Ledger.Amount
import TokenLedger.Text.Outside

namespace TokenLedger

/-- What is wrong with a request, whatever the state of the ledger. -/
inductive RequestFlaw where
  | noSource
  | noNameSymbolOrSupply
  | noMinter
  | noSymbolOrAmount
  | negativeAmount
  | noSymbol
  | noOwner
  /-- The body of a request does not have the fields of its type. -/
  | malformedBody
  /-- The text of a request is no document. -/
  | malformedText
  /-- The text of a stream of requests is no list of documents. -/
  | malformedStream
  | noSequence
  /-- The schema version, given as it was written, is no 32-bit word. -/
  | schemaOutOfRange (written : String)
  deriving DecidableEq, Repr

def RequestFlaw.message : RequestFlaw → String
  | .noSource => "source address cannot be empty"
  | .noNameSymbolOrSupply => "name, symbol and/or total supply cannot be empty"
  | .noMinter => "minter address cannot be empty"
  | .noSymbolOrAmount => "symbol and/or amount cannot be empty"
  | .negativeAmount => "amount cannot be negative"
  | .noSymbol => "symbol cannot be empty"
  | .noOwner => "owner address cannot be empty"
  | .malformedBody => Outside.json.marker
  | .malformedText => "malformed request: " ++ Outside.json.marker
  | .malformedStream => "malformed request stream: " ++ Outside.json.marker
  | .noSequence => "envelope missing sequence"
  | .schemaOutOfRange written => "schema_version " ++ written ++ " is not a u32"

/-- What was asked for and is not known. -/
inductive Unknown where
  /-- A request that names no type. -/
  | noType
  /-- A type of request. -/
  | requestType (tag : String)
  /-- A query path. -/
  | query (path : List String)
  /-- The logged request with this sequence number has no type. -/
  | noKind (sequence : UInt64)
  deriving DecidableEq, Repr

def Unknown.message : Unknown → String
  | .noType => "missing request type"
  | .requestType tag => tag
  | .query path => "unknown assetmanagement query endpoint: " ++ "/".intercalate path
  | .noKind sequence => "envelope " ++ sequence.toNat.repr ++ " carries no request kind"

/-- What cannot be read from the stores. -/
inductive Unreadable where
  | document
  | tokenMessage
  | accountMessage
  | repeatedDenomination
  | registryKey
  deriving DecidableEq, Repr

def Unreadable.message : Unreadable → String
  | .document => Outside.json.marker
  | .tokenMessage => "token record: " ++ Outside.proto.marker
  | .accountMessage => "account record: " ++ Outside.proto.marker
  | .repeatedDenomination => "duplicate denomination in coin list"
  | .registryKey => "non-UTF-8 registry key: " ++ Outside.utf8.marker

/-- Where a genesis state is incomplete, and what it lacks there. -/
inductive GenesisFlaw where
  | tokenOwner (symbol : String)
  | tokenSymbol (owner : String)
  | tokenSupply (symbol : String)
  | tokenName (symbol : String)
  | tokenOriginalSymbol (symbol : String)
  | repeatedSymbol (symbol : String)
  | accountAddress
  | zeroCoins (address : String)
  | repeatedAddress (address : String)
  /-- The ledger has a genesis state already. -/
  | loadedBefore
  /-- A record could not be stored. -/
  | notStored (reason : String)
  deriving DecidableEq, Repr

/-- Which record is incomplete. -/
def GenesisFlaw.subject : GenesisFlaw → String
  | .tokenOwner symbol | .tokenSupply symbol | .tokenName symbol | .tokenOriginalSymbol symbol
  | .repeatedSymbol symbol => "symbol " ++ symbol
  | .tokenSymbol owner => "owner " ++ owner
  | .accountAddress => "account"
  | .zeroCoins address | .repeatedAddress address => "address " ++ address
  | .loadedBefore => "engine"
  | .notStored _ => "load"

/-- What the record lacks. -/
def GenesisFlaw.lacking : GenesisFlaw → String
  | .tokenOwner _ => "owner"
  | .tokenSymbol _ => "symbol"
  | .tokenSupply _ => "total supply"
  | .tokenName _ => "name"
  | .tokenOriginalSymbol _ => "original symbol"
  | .repeatedSymbol _ => "unique symbol"
  | .accountAddress => "address"
  | .zeroCoins _ => "non-zero coin amounts"
  | .repeatedAddress _ => "unique address"
  | .loadedBefore => "uninitialized ledger (genesis already loaded)"
  | .notStored reason => reason

/-- A stored record that breaks a rule of the ledger. -/
inductive Breach where
  /-- A token stands under a key that is not its symbol. -/
  | registryKey (key symbol : String)
  | noOwner (key : String)
  | noName (key : String)
  | noOriginalSymbol (key : String)
  /-- A token's supply does not name its own denomination. -/
  | noSupply (key : String)
  /-- An account stands under a key that is not its address. -/
  | accountKey (key address : String)
  | zeroCoins (key : String)
  | emptyAccount (key : String)
  deriving DecidableEq, Repr

def Breach.message : Breach → String
  | .registryKey key symbol =>
    "[registry_key] key " ++ Text.quoted key ++ " holds token with symbol " ++ Text.quoted symbol
  | .noOwner key => "[owner] token " ++ Text.quoted key ++ " has no owner"
  | .noName key => "[name] token " ++ Text.quoted key ++ " has no name"
  | .noOriginalSymbol key =>
    "[original_symbol] token " ++ Text.quoted key ++ " has no original symbol"
  | .noSupply key =>
    "[total_supply] token " ++ Text.quoted key ++ " has no supply entry in its own denomination"
  | .accountKey key address =>
    "[account_key] key " ++ Text.quoted key ++ " holds account " ++ Text.quoted address
  | .zeroCoins key => "[zero_entry] account " ++ Text.quoted key ++ " stores a zero amount"
  | .emptyAccount key => "[empty_account] account " ++ Text.quoted key ++ " is stored but empty"

/-- What can go wrong. -/
inductive Fault where
  | tokenNotFound (symbol : String)
  /-- A token without an owner is not stored. -/
  | tokenWithoutOwner (symbol : String)
  | notOwner (expected actual : String)
  | badAmount (flaw : AmountFlaw)
  | balanceTooLow (address symbol : String) (available requested : Amount)
  | frozenBalanceTooLow (address symbol : String) (available requested : Amount)
  /-- No unused symbol was found in the given number of attempts. -/
  | noFreeSymbol (requested : String) (attempts : UInt32)
  | notMintable (symbol : String)
  | badRequest (flaw : RequestFlaw)
  | unknown (what : Unknown)
  | unreadable (what : Unreadable)
  | badGenesis (flaw : GenesisFlaw)
  | breach (rule : Breach)
  | outOfSequence (expected actual : UInt64)
  | wrongSchema (expected actual : UInt32)
  /-- A request came before the genesis state. -/
  | noGenesis
  deriving DecidableEq, Repr

namespace Fault

/-- A shortage of coins, after the words that say of which. -/
def shortage (address symbol : String) (available requested : Amount) : String :=
  " of '" ++ symbol ++ "' for '" ++ address ++ "': have " ++ Amount.text available ++
    ", need " ++ Amount.text requested

def message : Fault → String
  | .tokenNotFound symbol => "could not find token for symbol '" ++ symbol ++ "'"
  | .tokenWithoutOwner symbol =>
    "unable to store token because owner for symbol '" ++ symbol ++ "' is empty"
  | .notOwner expected actual =>
    "incorrect owner: expected '" ++ expected ++ "', got '" ++ actual ++ "'"
  | .badAmount flaw => "invalid amount: " ++ flaw.message
  | .balanceTooLow address symbol available requested =>
    "insufficient balance" ++ shortage address symbol available requested
  | .frozenBalanceTooLow address symbol available requested =>
    "insufficient frozen balance" ++ shortage address symbol available requested
  | .noFreeSymbol requested attempts =>
    "could not derive a unique symbol from '" ++ requested ++ "' after " ++
      attempts.toNat.repr ++ " attempts"
  | .notMintable symbol => "token '" ++ symbol ++ "' is not mintable"
  | .badRequest flaw => "invalid request: " ++ flaw.message
  | .unknown what => "unrecognized assetmanagement request: " ++ what.message
  | .unreadable what => "serialization failure: " ++ what.message
  | .badGenesis flaw =>
    "invalid genesis record (" ++ flaw.subject ++ "): missing " ++ flaw.lacking
  | .breach rule => "invariant violation: " ++ rule.message
  | .outOfSequence expected actual =>
    "sequence violation: expected " ++ expected.toNat.repr ++ ", got " ++ actual.toNat.repr
  | .wrongSchema expected actual =>
    "schema version mismatch: expected " ++ expected.toNat.repr ++ ", got " ++ actual.toNat.repr
  | .noGenesis =>
    "ledger not initialized: genesis must be loaded before the first request"

/-- The number of a cause; the fatal ones start at 201. -/
def code : Fault → Nat
  | .tokenNotFound _ => 101
  | .tokenWithoutOwner _ => 102
  | .notOwner _ _ => 103
  | .badAmount _ => 104
  | .balanceTooLow _ _ _ _ => 105
  | .frozenBalanceTooLow _ _ _ _ => 106
  | .noFreeSymbol _ _ => 107
  | .notMintable _ => 108
  | .badRequest _ => 109
  | .unknown _ => 110
  | .unreadable _ => 201
  | .badGenesis _ => 202
  | .breach _ => 203
  | .outOfSequence _ _ => 204
  | .wrongSchema _ _ => 205
  | .noGenesis => 206

/-- Whether no further request may be delivered. -/
def isFatal : Fault → Bool
  | .unreadable _ | .badGenesis _ | .breach _ | .outOfSequence _ _ | .wrongSchema _ _
  | .noGenesis => true
  | _ => false

theorem isFatal_eq (fault : Fault) : fault.isFatal = decide (201 ≤ fault.code) := by
  cases fault <;> rfl

/-- The fatal faults are the ones with numbers from 201 on. -/
theorem isFatal_iff (fault : Fault) : fault.isFatal = true ↔ 201 ≤ fault.code := by
  rw [isFatal_eq, decide_eq_true_iff]

end Fault

/-- The sum of two amounts, or the fault that it does not fit. -/
def Amount.addOrFault (first second : Amount) : Except Fault Amount :=
  match Amount.add? first second with
  | some sum => .ok sum
  | none => .error (.badAmount .tooLarge)

/-- Read an amount, or give the fault of its text. -/
def Amount.parseOrFault (raw : String) : Except Fault Amount :=
  (Amount.parse raw).mapError .badAmount

end TokenLedger
