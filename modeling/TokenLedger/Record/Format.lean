/-
The two formats of stored records. The stores hold bytes; which bytes stand for a token or an
account is decided once, when a ledger is set up, by choosing one of the two formats.
-/

import TokenLedger.Record.Document
import TokenLedger.Record.Message

namespace TokenLedger

/-- How records are stored. -/
inductive RecordFormat where
  /-- As compact JSON documents. -/
  | json
  /-- As binary messages. -/
  | proto
  deriving DecidableEq, Repr

namespace RecordFormat

/-- The word for a format in configurations. -/
def name : RecordFormat → String
  | .json => "json"
  | .proto => "proto"

def encodeToken : RecordFormat → Token → Bytes
  | .json, token => utf8 token.toJson.compact
  | .proto, token => token.toMessage

def encodeAccount : RecordFormat → Account → Bytes
  | .json, account => utf8 account.toJson.compact
  | .proto, account => account.toMessage

/-- A document read by the given reader, or the fault that it is none. -/
def document {α : Type} (read : Json.Tree → Option α) (bytes : Bytes) : Except Fault α :=
  match (Json.Tree.ofBytes? bytes).bind read with
  | some record => .ok record
  | none => .error (.unreadable .document)

def decodeToken : RecordFormat → Bytes → Except Fault Token
  | .json, bytes => document Token.ofTree? bytes
  | .proto, bytes => (Token.ofMessage bytes).mapError .unreadable

def decodeAccount : RecordFormat → Bytes → Except Fault Account
  | .json, bytes => document Account.ofTree? bytes
  | .proto, bytes => (Account.ofMessage bytes).mapError .unreadable

end RecordFormat

end TokenLedger
