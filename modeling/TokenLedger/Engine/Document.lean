/-
States as documents. A state is written in its canonical form; it is read from that form or from a
plain list of records without a version, and with any order of the members. A state from outside is
trusted only after it has been loaded into empty stores and the stored records have been checked.
-/

import TokenLedger.Engine.Canonical
import TokenLedger.Engine.Invariant
import TokenLedger.Json.Reader

namespace TokenLedger

open Json

/-- What is wrong with a document that should hold a state. -/
inductive DocumentFlaw where
  /-- It is no list of records. -/
  | malformed
  /-- It is no snapshot. -/
  | malformedSnapshot
  /-- Its version is no integer. -/
  | versionNotInteger
  deriving DecidableEq, Repr

def DocumentFlaw.message : DocumentFlaw → String
  | .malformed => Outside.json.marker
  | .malformedSnapshot => "bad snapshot: " ++ Outside.json.marker
  | .versionNotInteger => "ledger_version must be an integer"

/-- Why a state cannot be taken from a document or a file, or brought into one. -/
inductive StateFault where
  | unreadable (flaw : DocumentFlaw)
  /-- The document was written under other rules. -/
  | wrongVersion (actual : UInt64)
  /-- The records cannot be a genesis state. -/
  | badGenesis (fault : Fault)
  /-- A record that was loaded breaks a rule of the ledger. -/
  | breach (fault : Fault)
  /-- The digest that was recorded is not the one of the text. -/
  | wrongHash (recorded computed : String)
  /-- The file cannot be read or written. -/
  | file
  deriving DecidableEq, Repr

def StateFault.message : StateFault → String
  | .unreadable flaw => "DeserializationError: " ++ flaw.message
  | .wrongVersion actual =>
    "VersionMismatch: expected ledger version " ++ ledgerVersion.toNat.repr ++ ", got " ++
      actual.toNat.repr
  | .badGenesis fault => "InvalidGenesis: " ++ fault.message
  | .breach fault => "InvariantViolation: " ++ fault.message
  | .wrongHash recorded computed =>
    "HashMismatch: recorded " ++ recorded ++ ", computed " ++ computed
  | .file => "IoError: " ++ Outside.os.marker

namespace GenesisState

/-- The member of a document that holds its version. -/
def versionName : String := "ledger_version"

/-- A version, if there is one, has to be the one of these rules. -/
def checkVersion : Option Value → Except StateFault Unit
  | none => .ok ()
  | some version =>
    match version.word? with
    | none => .error (.unreadable .versionNotInteger)
    | some actual =>
      if actual = ledgerVersion.toUInt64 then .ok () else .error (.wrongVersion actual)

/-- A document without its version. -/
def withoutVersion : Value → Value
  | .object members => .object (members.filter fun member => member.1 ≠ versionName)
  | value => value

/-- Read a state from a document. The records are not checked. -/
def ofText (text : String) : Except StateFault GenesisState := do
  match Value.parse? text with
  | none => .error (.unreadable .malformed)
  | some value =>
    checkVersion (value.member? versionName)
    match ofTree? (withoutVersion value).tree with
    | none => .error (.unreadable .malformed)
    | some state => .ok state

/-- Load a state into empty stores and check the stored records. -/
def tryOut (state : GenesisState) : Except StateFault Unit := do
  state.validate.mapError StateFault.badGenesis
  let (loaded, store) := state.load .json .empty
  loaded.mapError StateFault.badGenesis
  let scope := store.plain
  (checkRecords .json scope.tokens scope.accounts).mapError StateFault.breach

/-- Read a state from a document that is not trusted. -/
def restoreText (text : String) : Except StateFault GenesisState := do
  let state ← ofText text
  state.tryOut
  return state

end GenesisState

end TokenLedger
