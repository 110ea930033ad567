/-
Requests as JSON documents. A request is an object with its type and its value, a record of its
fields. Further members next to the two are skipped, but the value has to have exactly the fields of
its type.
-/

import TokenLedger.Json.Reader
import TokenLedger.Json.Record
import TokenLedger.Json.Writer
import TokenLedger.Request.Basic

namespace TokenLedger

open Json

namespace Issuance

def fieldNames : List String :=
  ["source_address", "name", "symbol", "total_supply", "mintable"]

def toJson (terms : Issuance) : Value :=
  .object [
    ("source_address", .string terms.source),
    ("name", .string terms.name),
    ("symbol", .string terms.symbol),
    ("total_supply", .string terms.totalSupply),
    ("mintable", .bool terms.mintable)]

def ofTree? (tree : Tree) : Option Issuance := do
  let record ← Record.ofTree? fieldNames false tree
  return {
    source := ← record.required "source_address" Tree.text?
    name := ← record.required "name" Tree.text?
    symbol := ← record.required "symbol" Tree.text?
    totalSupply := ← record.required "total_supply" Tree.text?
    mintable := ← record.required "mintable" Tree.bool? }

end Issuance

namespace Order

def toJson (kind : OrderKind) (order : Order) : Value :=
  .object [
    ("amount", .string order.amount),
    ("symbol", .string order.symbol),
    (kind.signerName, .string order.signer)]

def ofTree? (kind : OrderKind) (tree : Tree) : Option Order := do
  let record ← Record.ofTree? ["amount", "symbol", kind.signerName] false tree
  return {
    amount := ← record.required "amount" Tree.text?
    symbol := ← record.required "symbol" Tree.text?
    signer := ← record.required kind.signerName Tree.text? }

end Order

namespace Request

/-- The value of a request, without its type. -/
def valueToJson : Request → Value
  | .issue terms => terms.toJson
  | .order kind terms => terms.toJson kind

def toJson (request : Request) : Value :=
  .object [("type", .string request.tag), ("value", request.valueToJson)]

/-- What a signer signs: the document with its members in canonical order. -/
def signText (request : Request) : String :=
  request.toJson.sortKeys.compact

/-- Read the value of a request of the given type. -/
def valueOfTree? (tag : String) (tree : Tree) : Option Request :=
  if tag = issueTag then (Issuance.ofTree? tree).map .issue
  else
    match OrderKind.all.find? fun kind => kind.tag = tag with
    | some kind => (Order.ofTree? kind tree).map (.order kind)
    | none => none

/-- Read a type: a string, or, where it is the member of an object, also an object whose one member
is null and bears the type as its key. -/
def tagOfTree? (named : Bool) : Tree → Option String
  | .string text => text
  | .object [(key, .null)] => if named then key else none
  | _ => none

/-- Read a request from a document, its type and value as members or as the two items of an
array. -/
def ofTree? (tree : Tree) : Option Request := do
  let record ← Record.ofTree? ["type", "value"] true tree
  let tag ← record.required "type" (tagOfTree? record.named)
  record.required "value" (valueOfTree? tag)

/-- Read a request from a value. Only an object has a type; a type that is not one of the ledger's
is unknown, whatever stands next to it. -/
def ofValue (value : Value) : Except Fault Request :=
  match (value.member? "type").bind Value.text? with
  | none => .error (.unknown .noType)
  | some tag =>
    if tag ∉ tags then .error (.unknown (.requestType tag))
    else
      match ofTree? value.tree with
      | some request => .ok request
      | none => .error (.badRequest .malformedBody)

/-- Read a request from the bytes of its document. -/
def ofBytes (bytes : Bytes) : Except Fault Request :=
  match Value.ofBytes? bytes with
  | some value => ofValue value
  | none => .error (.badRequest .malformedText)

end Request

end TokenLedger
