/-
What requests do. A request works on the pending writes of a scope and on the symbol generator; when
it fails, some of its writes may have been made already, and whoever opened the scope discards them.
-/

import TokenLedger.Engine.Symbols
import TokenLedger.Ledger.Holdings
import TokenLedger.Ledger.Params
import TokenLedger.Ledger.Registry
import TokenLedger.Request.Basic

namespace TokenLedger

/-- What is fixed for a ledger: the format of its records and its parameters. -/
structure Setup where
  format : RecordFormat
  params : Params
  deriving DecidableEq, Repr

/-- What a request works on. -/
structure Work where
  tokens : LayeredStore
  accounts : LayeredStore
  generator : SymbolGenerator

/-- A step of a request. What it has written before it failed remains written. -/
abbrev Step := ExceptT Fault (StateM Work)

namespace Step

/-- Change the stored accounts. -/
def onAccounts {α : Type} (change : Holdings.Change α) : Step α := do
  let work ← get
  let (outcome, accounts) := change.perform work.accounts
  set { work with accounts }
  outcome

/-- Add to what an address can spend. -/
def credit (setup : Setup) (address : Address) (symbol : String) (amount : Amount) : Step Amount :=
  onAccounts (Holdings.credit setup.format address symbol amount)

/-- Take from what an address can spend. -/
def debit (setup : Setup) (address : Address) (symbol : String) (amount : Amount) : Step Amount :=
  onAccounts (Holdings.debit setup.format address symbol amount)

/-- Store the record of a token. -/
def register (setup : Setup) (symbol : String) (token : Token) : Step Unit := do
  let work ← get
  let tokens ← Registry.set setup.format work.tokens symbol token
  set { work with tokens }

/-- Overwrite the recorded supply of a symbol by an amount of the symbol itself. -/
def recordSupply (setup : Setup) (symbol : String) (supply : Amount) : Step Unit := do
  let work ← get
  let tokens ←
    Registry.setTotalSupply setup.format work.tokens symbol (Coins.single symbol supply)
  set { work with tokens }

/-- Find a symbol that is not registered. At least one proposal is made. -/
def findSymbol (setup : Setup) (requested : String) : Step String := do
  let work ← get
  let attempts := max setup.params.maxSymbolAttempts 1
  let (symbol, generator) :=
    work.generator.firstFree? (Registry.isRegistered work.tokens) requested attempts.toNat
  set { work with generator }
  match symbol with
  | some symbol => return symbol
  | none => throw (.noFreeSymbol requested attempts)

/-- The record of a token, if the signer owns it. -/
def ownedToken (setup : Setup) (symbol : String) (signer : Address) : Step Token := do
  let work ← get
  let token ← Registry.get setup.format work.tokens symbol
  if signer ≠ token.owner then throw (.notOwner token.owner signer)
  return token

end Step

open Step

/-- Issue a token under a new symbol and give its whole supply to the source. -/
def issue (setup : Setup) (terms : Issuance) : Step Receipt := do
  let supply ← Amount.parseOrFault terms.totalSupply
  let symbol ← findSymbol setup terms.symbol
  let _ ← credit setup terms.source symbol supply
  register setup symbol
    (Token.issued terms.name symbol terms.symbol supply terms.source terms.mintable)
  return .ofSupply Request.issueAction symbol terms.source supply supply

/-- Create units of a token for its owner. -/
def mint (setup : Setup) (terms : Order) : Step Receipt := do
  let token ← ownedToken setup terms.symbol terms.signer
  if setup.params.enforceMintable ∧ token.mintable = false then
    throw (.notMintable terms.symbol)
  let amount ← Amount.parseOrFault terms.amount
  let _ ← credit setup token.owner terms.symbol amount
  let supply ← Amount.addOrFault token.supply amount
  recordSupply setup terms.symbol supply
  return .ofSupply OrderKind.mint.action terms.symbol token.owner amount supply

/-- Destroy units that the owner of a token can spend. -/
def burn (setup : Setup) (terms : Order) : Step Receipt := do
  let token ← ownedToken setup terms.symbol terms.signer
  let amount ← Amount.parseOrFault terms.amount
  let _ ← debit setup token.owner terms.symbol amount
  match Amount.sub? token.supply amount with
  | none => throw (.balanceTooLow token.owner terms.symbol token.supply amount)
  | some supply =>
    recordSupply setup terms.symbol supply
    return .ofSupply OrderKind.burn.action terms.symbol token.owner amount supply

/-- Freeze an amount that the signer can spend. -/
def freeze (setup : Setup) (terms : Order) : Step Receipt := do
  let amount ← Amount.parseOrFault terms.amount
  let (unfrozen, frozen) ←
    onAccounts (Holdings.freeze setup.format terms.signer terms.symbol amount)
  return .ofMove OrderKind.freeze.action terms.symbol terms.signer amount unfrozen frozen

/-- Give a frozen amount back to the signer. -/
def unfreeze (setup : Setup) (terms : Order) : Step Receipt := do
  let amount ← Amount.parseOrFault terms.amount
  let (unfrozen, frozen) ←
    onAccounts (Holdings.unfreeze setup.format terms.signer terms.symbol amount)
  return .ofMove OrderKind.unfreeze.action terms.symbol terms.signer amount unfrozen frozen

/-- Carry out a request that has passed its checks. -/
def apply (setup : Setup) : Request → Step Receipt
  | .issue terms => issue setup terms
  | .order .mint terms => mint setup terms
  | .order .burn terms => burn setup terms
  | .order .freeze terms => freeze setup terms
  | .order .unfreeze terms => unfreeze setup terms

end TokenLedger
