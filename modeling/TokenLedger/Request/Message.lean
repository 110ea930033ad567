/-
Envelopes as binary messages, the form in which they are logged. A logged envelope need not carry a
request of a known type, since a newer writer may know more types than the reader.
-/

import TokenLedger.Request.Envelope
import TokenLedger.Wire.Field

namespace TokenLedger

open Wire

/-- An envelope as it is logged. -/
structure LoggedEnvelope where
  sequence : UInt64
  schemaVersion : UInt32
  /-- The request, if there is one, and in it the request of a known type, if it is one. -/
  request : Option (Option Request)
  deriving DecidableEq, Repr

/-! ### Field numbers -/

def Request.issueNumber : Nat := 1

def OrderKind.number : OrderKind → Nat
  | .mint => 2
  | .burn => 3
  | .freeze => 4
  | .unfreeze => 5

/-! ### Writing -/

def Issuance.fields (terms : Issuance) : List Field :=
  textField 1 terms.source ++ textField 2 terms.name ++ textField 3 terms.symbol ++
    textField 4 terms.totalSupply ++ flagField 5 terms.mintable

def Order.fields (order : Order) : List Field :=
  textField 1 order.amount ++ textField 2 order.symbol ++ textField 3 order.signer

/-- The one field of a request, numbered by its type. -/
def Request.field : Request → Field
  | .issue terms => messageField issueNumber terms.fields
  | .order kind terms => messageField kind.number terms.fields

/-! ### Reading -/

/-- Take one field into account. -/
def Issuance.merge (terms : Issuance) (field : Field) : Option Issuance :=
  match field.number with
  | 1 => do return { terms with source := ← field.payload.text? }
  | 2 => do return { terms with name := ← field.payload.text? }
  | 3 => do return { terms with symbol := ← field.payload.text? }
  | 4 => do return { terms with totalSupply := ← field.payload.text? }
  | 5 => do return { terms with mintable := ← field.payload.flag? }
  | _ => some terms

/-- Take one field into account. -/
def Order.merge (order : Order) (field : Field) : Option Order :=
  match field.number with
  | 1 => do return { order with amount := ← field.payload.text? }
  | 2 => do return { order with symbol := ← field.payload.text? }
  | 3 => do return { order with signer := ← field.payload.text? }
  | _ => some order

/-- The issuance that a repeated one is merged into. -/
def Request.issuanceSoFar : Option Request → Issuance
  | some (.issue terms) => terms
  | _ => ⟨"", "", "", "", false⟩

/-- The order of one kind that a repeated one is merged into. -/
def Request.orderSoFar (kind : OrderKind) : Option Request → Order
  | some (.order other terms) => if other = kind then terms else ⟨"", "", ""⟩
  | _ => ⟨"", "", ""⟩

/-- Take one field of a request into account. A further field of the same type is merged into the
request, one of another type takes its place. -/
def Request.merge (request : Option Request) (field : Field) : Option (Option Request) :=
  if field.number = issueNumber then do
    let fields ← field.payload.message? 2
    return some (.issue (← fields.foldlM Issuance.merge (issuanceSoFar request)))
  else
    match OrderKind.all.find? fun kind => kind.number = field.number with
    | none => some request
    | some kind => do
      let fields ← field.payload.message? 2
      return some (.order kind (← fields.foldlM Order.merge (orderSoFar kind request)))

namespace LoggedEnvelope

def empty : LoggedEnvelope := ⟨0, 0, none⟩

/-- The fields of the request, which are none for a request of no known type. -/
def requestFields : Option Request → List Field
  | none => []
  | some request => [request.field]

def fields (envelope : LoggedEnvelope) : List Field :=
  wordField 1 envelope.sequence ++ wordField 2 envelope.schemaVersion.toUInt64 ++
    (match envelope.request with
    | none => []
    | some request => [messageField 3 (requestFields request)])

/-- The bytes of an envelope. -/
def encode (envelope : LoggedEnvelope) : Bytes :=
  Wire.write envelope.fields

/-- Take one field into account. A version keeps its low 32 bits. -/
def merge (envelope : LoggedEnvelope) (field : Field) : Option LoggedEnvelope :=
  match field.number with
  | 1 => do return { envelope with sequence := ← field.payload.word? }
  | 2 => do return { envelope with schemaVersion := (← field.payload.word?).toUInt32 }
  | 3 => do
    let fields ← field.payload.message? 1
    let request ← fields.foldlM Request.merge (envelope.request.getD none)
    return { envelope with request := some request }
  | _ => some envelope

/-- Read an envelope from its bytes. -/
def decode? (bytes : Bytes) : Option LoggedEnvelope := do
  (← Wire.read 0 bytes).foldlM merge empty

/-- The form in which an envelope is logged. -/
def ofEnvelope (envelope : Envelope) : LoggedEnvelope :=
  ⟨envelope.sequence, envelope.schemaVersion, some (some envelope.request)⟩

/-- The envelope that was logged, if its request is of a known type. -/
def toEnvelope (logged : LoggedEnvelope) : Except Fault Envelope :=
  match logged.request with
  | some (some request) => .ok ⟨logged.sequence, logged.schemaVersion, request⟩
  | _ => .error (.unknown (.noKind logged.sequence))

end LoggedEnvelope

end TokenLedger
