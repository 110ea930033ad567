/-
Coins, tokens and accounts as JSON documents. Coins are an object with a member for each
denomination; tokens and accounts are records whose fields all have to be there and which have no
others.
-/

import TokenLedger.Json.Reader
import TokenLedger.Json.Record
import TokenLedger.Json.Writer
import TokenLedger.Ledger.Account

namespace TokenLedger

open Json

namespace Coins

/-- A member for each denomination. -/
def toJson (coins : Coins) : Value :=
  .object (coins.entries.map fun entry => (entry.1, .word entry.2))

/-- One denomination and its amount. -/
def entry? (member : Option String × Tree) : Option (String × Amount) := do
  return (← member.1, ← member.2.word?)

/-- Read coins. Of the members with one denomination the last counts. -/
def ofTree? : Tree → Option Coins
  | .object members => (members.mapM entry?).map SortedMap.ofList
  | _ => none

end Coins

namespace Token

def fieldNames : List String :=
  ["owner", "name", "symbol", "original_symbol", "total_supply", "mintable"]

def toJson (token : Token) : Value :=
  .object [
    ("owner", .string token.owner),
    ("name", .string token.name),
    ("symbol", .string token.symbol),
    ("original_symbol", .string token.originalSymbol),
    ("total_supply", Coins.toJson token.totalSupply),
    ("mintable", .bool token.mintable)]

def ofTree? (tree : Tree) : Option Token := do
  let record ← Record.ofTree? fieldNames false tree
  return {
    owner := ← record.required "owner" Tree.text?
    name := ← record.required "name" Tree.text?
    symbol := ← record.required "symbol" Tree.text?
    originalSymbol := ← record.required "original_symbol" Tree.text?
    totalSupply := ← record.required "total_supply" Coins.ofTree?
    mintable := ← record.required "mintable" Tree.bool? }

end Token

namespace Account

/-- The spendable bucket stands next to the address, the frozen one by itself. -/
def toJson (account : Account) : Value :=
  .object [
    ("base", .object [
      ("address", .string account.address),
      ("coins", Coins.toJson account.coins)]),
    ("frozen", .object [("coins", Coins.toJson account.frozenCoins)])]

/-- Read the address and the spendable bucket. -/
def baseOfTree? (tree : Tree) : Option (Address × Coins) := do
  let record ← Record.ofTree? ["address", "coins"] false tree
  return (← record.required "address" Tree.text?, ← record.required "coins" Coins.ofTree?)

/-- Read the frozen bucket. -/
def frozenOfTree? (tree : Tree) : Option Coins := do
  (← Record.ofTree? ["coins"] false tree).required "coins" Coins.ofTree?

def ofTree? (tree : Tree) : Option Account := do
  let record ← Record.ofTree? ["base", "frozen"] false tree
  let (address, coins) ← record.required "base" baseOfTree?
  return ⟨address, coins, ← record.required "frozen" frozenOfTree?⟩

end Account

end TokenLedger
