/-
Envelopes: requests as they are delivered, each with its place in the sequence and the version of
the form in which it is written.
-/

import TokenLedger.Request.Document

namespace TokenLedger

open Json

/-- A request as it is delivered. -/
structure Envelope where
  sequence : UInt64
  schemaVersion : UInt32
  request : Request
  deriving DecidableEq, Repr

/-- The only version that is accepted. -/
def schemaVersion : UInt32 := 1

namespace Envelope

def toJson (envelope : Envelope) : Value :=
  .object [
    ("sequence", .word envelope.sequence),
    ("schema_version", .word envelope.schemaVersion.toUInt64),
    ("request", envelope.request.toJson)]

/-- Read an envelope from a document; other members are skipped, and without a version it has the
one that is accepted. -/
def ofTree? (tree : Tree) : Option Envelope := do
  let record ← Record.ofTree? ["sequence", "schema_version", "request"] true tree
  return {
    sequence := ← record.required "sequence" Tree.word?
    schemaVersion := ← record.withDefault "schema_version" Tree.shortWord? TokenLedger.schemaVersion
    request := ← record.required "request" Request.ofTree? }

/-- The version in an envelope. -/
def versionOf (value : Value) : Except Fault UInt32 :=
  match value.member? "schema_version" with
  | none => .ok TokenLedger.schemaVersion
  | some written =>
    match written.tree.shortWord? with
    | some version => .ok version
    | none => .error (.badRequest (.schemaOutOfRange written.compact))

/-- Read an envelope from a value: the sequence number first, then the version, then the request. -/
def ofValue (value : Value) : Except Fault Envelope := do
  let sequence ←
    match (value.member? "sequence").bind Value.word? with
    | some sequence => .ok sequence
    | none => .error (.badRequest .noSequence)
  let schemaVersion ← versionOf value
  let request ← Request.ofValue ((value.member? "request").getD .null)
  return { sequence, schemaVersion, request }

/-- Read the envelopes of a stream, an array of documents. -/
def streamOfText (text : String) : Except Fault (List Envelope) :=
  match Tree.parse? text with
  | some (.array items) =>
    match items.mapM (Tree.value? (Tree.nestingLimit - 1)) with
    | some values => values.mapM ofValue
    | none => .error (.badRequest .malformedStream)
  | _ => .error (.badRequest .malformedStream)

end Envelope

end TokenLedger
