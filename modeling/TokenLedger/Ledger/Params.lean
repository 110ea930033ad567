/-
What is chosen once for a ledger, and what is given out for each request that succeeds.
-/

import TokenLedger.Json.Record
import TokenLedger.Json.Writer
import TokenLedger.Ledger.Token

namespace TokenLedger

open Json

/-- The choices made when a ledger is set up. -/
structure Params where
  /-- How many digits follow a requested symbol. -/
  symbolSuffixLength : UInt64 := 3
  /-- How many symbols an issuance tries. -/
  maxSymbolAttempts : UInt32 := 8
  /-- Whether only tokens issued as mintable may be minted. -/
  enforceMintable : Bool := false
  deriving DecidableEq, Repr, Inhabited

namespace Params

def fieldNames : List String :=
  ["symbol_suffix_len", "max_symbol_attempts", "enforce_mintable"]

def toJson (params : Params) : Value :=
  .object [
    ("symbol_suffix_len", .word params.symbolSuffixLength),
    ("max_symbol_attempts", .word params.maxSymbolAttempts.toUInt64),
    ("enforce_mintable", .bool params.enforceMintable)]

/-- Read parameters, each of which may be left out. -/
def ofTree? (tree : Tree) : Option Params := do
  let record ← Record.ofTree? fieldNames false tree
  let standard : Params := {}
  return {
    symbolSuffixLength :=
      ← record.withDefault "symbol_suffix_len" Tree.word? standard.symbolSuffixLength
    maxSymbolAttempts :=
      ← record.withDefault "max_symbol_attempts" Tree.shortWord? standard.maxSymbolAttempts
    enforceMintable := ← record.withDefault "enforce_mintable" Tree.bool? standard.enforceMintable }

end Params

/-- What a request that succeeds has done. -/
structure Receipt where
  action : String
  /-- The symbol acted on; for an issuance the one that was found. -/
  symbol : String
  address : Address
  amount : Amount
  /-- The supply afterwards, when the request changed it. -/
  totalSupply : Option Amount
  /-- What can be spent afterwards, when the request moved an amount between the buckets. -/
  unfrozen : Option Amount
  /-- What is frozen afterwards, when the request moved an amount between the buckets. -/
  frozen : Option Amount
  deriving DecidableEq, Repr

namespace Receipt

/-- The receipt of a change of the supply. -/
def ofSupply (action symbol : String) (address : Address) (amount supply : Amount) : Receipt :=
  ⟨action, symbol, address, amount, some supply, none, none⟩

/-- The receipt of a move between the buckets. -/
def ofMove (action symbol : String) (address : Address) (amount unfrozen frozen : Amount) :
    Receipt :=
  ⟨action, symbol, address, amount, none, some unfrozen, some frozen⟩

/-- An amount, or null. -/
def optional (amount : Option Amount) : Value :=
  (amount.map Value.word).getD .null

def fieldNames : List String :=
  ["request_type", "symbol", "address", "amount", "total_supply", "unfrozen", "frozen"]

def toJson (receipt : Receipt) : Value :=
  .object [
    ("request_type", .string receipt.action),
    ("symbol", .string receipt.symbol),
    ("address", .string receipt.address),
    ("amount", .word receipt.amount),
    ("total_supply", optional receipt.totalSupply),
    ("unfrozen", optional receipt.unfrozen),
    ("frozen", optional receipt.frozen)]

/-- Read a receipt; other members are skipped. -/
def ofTree? (tree : Tree) : Option Receipt := do
  let record ← Record.ofTree? fieldNames true tree
  return {
    action := ← record.required "request_type" Tree.text?
    symbol := ← record.required "symbol" Tree.text?
    address := ← record.required "address" Tree.text?
    amount := ← record.required "amount" Tree.word?
    totalSupply := ← record.optional "total_supply" Tree.word?
    unfrozen := ← record.optional "unfrozen" Tree.word?
    frozen := ← record.optional "frozen" Tree.word? }

end Receipt

end TokenLedger
