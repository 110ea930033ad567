/-
Requests. A request either issues a new token or orders a change of the holdings of one symbol: to
mint, burn, freeze or unfreeze an amount of it. Amounts are carried as text and read when the
request is carried out. This file also holds the checks that need no ledger.
-/

import TokenLedger.Ledger.Token
import TokenLedger.Ledger.Fault

namespace TokenLedger

/-- The terms of a new token. -/
structure Issuance where
  source : Address
  name : String
  symbol : String
  totalSupply : String
  mintable : Bool
  deriving DecidableEq, Repr

/-- What an order does with an amount. -/
inductive OrderKind where
  | mint
  | burn
  | freeze
  | unfreeze
  deriving DecidableEq, Repr

/-- An amount of a symbol, ordered by whoever signs. -/
structure Order where
  amount : String
  symbol : String
  signer : Address
  deriving DecidableEq, Repr

/-- A request. -/
inductive Request where
  | issue (terms : Issuance)
  | order (kind : OrderKind) (terms : Order)
  deriving DecidableEq, Repr

/-- The route that all requests of the ledger share. -/
def route : String := "assetmanagement"

namespace OrderKind

def all : List OrderKind := [.mint, .burn, .freeze, .unfreeze]

/-- The name of the action. -/
def action : OrderKind → String
  | .mint => "mint_coins"
  | .burn => "burn_coins"
  | .freeze => "freeze_coins"
  | .unfreeze => "unfreeze_coins"

/-- The type under which an order is written. -/
def tag : OrderKind → String
  | .mint => "assetmanagement/MintCoins"
  | .burn => "assetmanagement/BurnCoins"
  | .freeze => "assetmanagement/FreezeCoins"
  | .unfreeze => "assetmanagement/UnfreezeCoins"

/-- What the signer is called where an order is written. -/
def signerName : OrderKind → String
  | .mint => "minter"
  | .burn => "source"
  | .freeze => "owner"
  | .unfreeze => "owner"

end OrderKind

namespace Request

/-- The name of an issuance as an action. -/
def issueAction : String := "issue_token"

/-- The type under which an issuance is written. -/
def issueTag : String := "assetmanagement/IssueToken"

/-- The name of the action. -/
def action : Request → String
  | .issue _ => issueAction
  | .order kind _ => kind.action

/-- The type under which a request is written. -/
def tag : Request → String
  | .issue _ => issueTag
  | .order kind _ => kind.tag

/-- The types of requests. -/
def tags : List String := issueTag :: OrderKind.all.map OrderKind.tag

/-- Whose signature authorises a request. -/
def signer : Request → Address
  | .issue terms => terms.source
  | .order _ terms => terms.signer

/-- Everybody whose signature authorises a request. -/
def signers (request : Request) : List Address := [request.signer]

end Request

/-! ### Checks without a ledger -/

/-- An issuance has to name its source, the token, the symbol and a supply that is an amount. -/
def Issuance.validate (terms : Issuance) : Except Fault Unit :=
  if terms.source = "" then .error (.badRequest .noSource)
  else if terms.name = "" ∨ terms.symbol = "" ∨ terms.totalSupply = "" then
    .error (.badRequest .noNameSymbolOrSupply)
  else do
    let _ ← Amount.parseOrFault terms.totalSupply

/-- Minting and burning check only that nothing is missing and that the amount has no minus; whether
it is an amount is seen when the order is carried out. -/
def Order.validateSupplyChange (order : Order) (noSigner : RequestFlaw) : Except Fault Unit :=
  if order.signer = "" then .error (.badRequest noSigner)
  else if order.symbol = "" ∨ order.amount = "" then .error (.badRequest .noSymbolOrAmount)
  else if '-' ∈ order.amount.toList then .error (.badRequest .negativeAmount)
  else .ok ()

/-- Freezing and unfreezing need a positive amount. -/
def Order.validateMove (order : Order) : Except Fault Unit := do
  let _ ← (Amount.parsePositive order.amount).mapError Fault.badAmount
  if order.symbol = "" then .error (.badRequest .noSymbol)
  else if order.signer = "" then .error (.badRequest .noOwner)
  else .ok ()

/-- The checks that come before the ledger is looked at. -/
def Request.validate : Request → Except Fault Unit
  | .issue terms => terms.validate
  | .order .mint terms => terms.validateSupplyChange .noMinter
  | .order .burn terms => terms.validateSupplyChange .noSource
  | .order .freeze terms => terms.validateMove
  | .order .unfreeze terms => terms.validateMove

end TokenLedger
