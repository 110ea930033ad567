/-
Tokens and accounts as binary messages. Coins are a list of messages, one for each denomination, and
a list that names a denomination twice is refused. The numbers of the fields are part of what is
stored and never change.
-/

import TokenLedger.Ledger.Account
import TokenLedger.Wire.Field

namespace TokenLedger

open Wire

namespace Coins

/-- A message for each denomination, under the given field number. -/
def fields (number : Nat) (coins : Coins) : List Field :=
  coins.entries.map fun entry => messageField number (textField 1 entry.1 ++ wordField 2 entry.2)

/-- Take one field of a coin message into account; a later field of one number counts. -/
def mergeCoin (coin : String × Amount) (field : Field) : Option (String × Amount) :=
  match field.number with
  | 1 => do return (← field.payload.text?, coin.2)
  | 2 => do return (coin.1, ← field.payload.word?)
  | _ => some coin

/-- Read one coin message, which stands inside one other message. -/
def coin? (payload : Payload) : Option (String × Amount) := do
  (← payload.message? 1).foldlM mergeCoin ("", 0)

/-- The coins of a list that names each denomination once. -/
def ofDistinct? (coins : List (String × Amount)) : Option Coins :=
  let collected : Coins := SortedMap.ofList coins
  if collected.size = coins.length then some collected else none

end Coins

/-- A token as it is read, before its coins are collected. -/
structure TokenMessage where
  owner : String
  name : String
  symbol : String
  originalSymbol : String
  totalSupply : List (String × Amount)
  mintable : Bool
  deriving DecidableEq

namespace TokenMessage

def empty : TokenMessage := ⟨"", "", "", "", [], false⟩

/-- Take one field into account. -/
def merge (token : TokenMessage) (field : Field) : Option TokenMessage :=
  match field.number with
  | 1 => do return { token with owner := ← field.payload.text? }
  | 2 => do return { token with name := ← field.payload.text? }
  | 3 => do return { token with symbol := ← field.payload.text? }
  | 4 => do return { token with originalSymbol := ← field.payload.text? }
  | 5 => do return { token with totalSupply := token.totalSupply ++ [← Coins.coin? field.payload] }
  | 6 => do return { token with mintable := ← field.payload.flag? }
  | _ => some token

/-- Read a token message. -/
def read? (bytes : Bytes) : Option TokenMessage := do
  (← Wire.read 0 bytes).foldlM merge empty

end TokenMessage

namespace Token

def fields (token : Token) : List Field :=
  textField 1 token.owner ++ textField 2 token.name ++ textField 3 token.symbol ++
    textField 4 token.originalSymbol ++ Coins.fields 5 token.totalSupply ++
    flagField 6 token.mintable

/-- The bytes of a token message. -/
def toMessage (token : Token) : Bytes :=
  Wire.write token.fields

/-- Read a token from a message. -/
def ofMessage (bytes : Bytes) : Except Unreadable Token :=
  match TokenMessage.read? bytes with
  | none => .error .tokenMessage
  | some message =>
    match Coins.ofDistinct? message.totalSupply with
    | none => .error .repeatedDenomination
    | some totalSupply =>
      .ok {
        owner := message.owner
        name := message.name
        symbol := message.symbol
        originalSymbol := message.originalSymbol
        totalSupply
        mintable := message.mintable }

end Token

/-- An account as it is read, before its coins are collected. -/
structure AccountMessage where
  address : String
  coins : List (String × Amount)
  frozenCoins : List (String × Amount)
  deriving DecidableEq

namespace AccountMessage

def empty : AccountMessage := ⟨"", [], []⟩

/-- Take one field into account. -/
def merge (account : AccountMessage) (field : Field) : Option AccountMessage :=
  match field.number with
  | 1 => do return { account with address := ← field.payload.text? }
  | 2 => do return { account with coins := account.coins ++ [← Coins.coin? field.payload] }
  | 3 => do
    return { account with frozenCoins := account.frozenCoins ++ [← Coins.coin? field.payload] }
  | _ => some account

/-- Read an account message. -/
def read? (bytes : Bytes) : Option AccountMessage := do
  (← Wire.read 0 bytes).foldlM merge empty

end AccountMessage

namespace Account

def fields (account : Account) : List Field :=
  textField 1 account.address ++ Coins.fields 2 account.coins ++ Coins.fields 3 account.frozenCoins

/-- The bytes of an account message. -/
def toMessage (account : Account) : Bytes :=
  Wire.write account.fields

/-- Read an account from a message. -/
def ofMessage (bytes : Bytes) : Except Unreadable Account :=
  match AccountMessage.read? bytes with
  | none => .error .accountMessage
  | some message =>
    match Coins.ofDistinct? message.coins, Coins.ofDistinct? message.frozenCoins with
    | some coins, some frozenCoins => .ok ⟨message.address, coins, frozenCoins⟩
    | _, _ => .error .repeatedDenomination

end Account

end TokenLedger
