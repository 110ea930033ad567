/-
Tokens: what the registry records about one issued token.
-/

import TokenLedger.Ledger.Coins

namespace TokenLedger

/-- Who holds an account. Whether an address is genuine is decided elsewhere. -/
abbrev Address := String

/-- The record of one issued token. -/
structure Token where
  owner : Address
  /-- The name shown for the token. -/
  name : String
  /-- The symbol under which the token is registered. -/
  symbol : String
  /-- The symbol that was asked for when the token was issued. -/
  originalSymbol : String
  /-- The units issued and not burned. -/
  totalSupply : Coins
  /-- Whether the issuer declared that more units may be minted. -/
  mintable : Bool
  deriving DecidableEq

namespace Token

/-- The supply in the token's own denomination. -/
def supply (token : Token) : Amount :=
  token.totalSupply.amountOf token.symbol

/-- The token that an issuance creates. -/
def issued (name symbol originalSymbol : String) (supply : Amount) (owner : Address)
    (mintable : Bool) : Token :=
  { owner, name, symbol, originalSymbol, totalSupply := Coins.single symbol supply, mintable }

/-- The record in lines of a label and a value. -/
def text (token : Token) : String :=
  "Owner: " ++ token.owner ++ "\nName: " ++ token.name ++ "\nSymbol: " ++ token.symbol ++
    "\nOriginal Symbol: " ++ token.originalSymbol ++
    "\nTotal Supply: " ++ Coins.text token.totalSupply ++
    "\nMintable: " ++ (if token.mintable then "true" else "false")

end Token

end TokenLedger
