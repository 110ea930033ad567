/-
Snapshots: the state of a ledger at one place of the sequence, in canonical form, with the digest of
that text and with the number of symbols proposed so far. A snapshot is believed only when its
version is the one of these rules and its digest is the one of its text.
-/

import TokenLedger.Engine.Document

namespace TokenLedger

open Json

/-- The state of a ledger at one place of the sequence. -/
structure Snapshot where
  sequence : UInt64
  /-- How many symbols had been proposed. -/
  nonce : UInt64
  /-- The canonical text of the state. -/
  text : String
  /-- The digest of the text. -/
  digest : String
  version : UInt32
  deriving DecidableEq, Repr

namespace Snapshot

/-- Take a snapshot of a state. -/
def ofState (sequence nonce : UInt64) (state : GenesisState) : Snapshot :=
  ⟨sequence, nonce, state.canonicalText, state.hash, ledgerVersion⟩

/-- The digest that a snapshot should have. -/
def computedDigest (snapshot : Snapshot) : String :=
  sha256Hex (utf8 snapshot.text)

/-- Whether a snapshot has the digest of its text. -/
def isIntact (snapshot : Snapshot) : Bool :=
  snapshot.computedDigest = snapshot.digest

/-- The state in a snapshot that can be believed. -/
def state (snapshot : Snapshot) : Except StateFault GenesisState :=
  if snapshot.version ≠ ledgerVersion then .error (.wrongVersion snapshot.version.toUInt64)
  else if !snapshot.isIntact then .error (.wrongHash snapshot.digest snapshot.computedDigest)
  else GenesisState.ofText snapshot.text

def fieldNames : List String :=
  ["sequence", "symbol_nonce", "canonical_json", "hash", "ledger_version"]

def toJson (snapshot : Snapshot) : Value :=
  .object [
    ("sequence", .word snapshot.sequence),
    ("symbol_nonce", .word snapshot.nonce),
    ("canonical_json", .string snapshot.text),
    ("hash", .string snapshot.digest),
    ("ledger_version", .word snapshot.version.toUInt64)]

def ofTree? (tree : Tree) : Option Snapshot := do
  let record ← Record.ofTree? fieldNames false tree
  return {
    sequence := ← record.required "sequence" Tree.word?
    nonce := ← record.required "symbol_nonce" Tree.word?
    text := ← record.required "canonical_json" Tree.text?
    digest := ← record.required "hash" Tree.text?
    version := ← record.required "ledger_version" Tree.shortWord? }

end Snapshot

end TokenLedger
