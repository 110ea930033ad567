/-
Everything that can go wrong around a ledger: with the files in which it is kept, with their
contents, and in the ledger itself.
-/

import TokenLedger.Disk.Basic
import TokenLedger.Engine.Document
import TokenLedger.Journal.Frame
import TokenLedger.Settings.Basic

namespace TokenLedger

/-- What can go wrong around a ledger. -/
inductive Failure where
  /-- A file or a folder cannot be read or written. -/
  | disk
  | sessionExists (session : String)
  /-- An envelope is too long for the length in front of it. -/
  | frameTooLong
  | ledger (fault : Fault)
  | settings (path : String) (flaw : SettingsFlaw)
  | state (fault : StateFault)
  /-- The request log is corrupt from an offset on. -/
  | corrupt (offset : Nat) (corruption : Corruption)
  /-- A request log and what is to be logged, or what has been restored from it, do not fit. -/
  | logOrder (expected actual : UInt64)
  deriving DecidableEq, Repr

def Failure.message : Failure → String
  | .disk => "I/O error: " ++ Outside.os.marker
  | .sessionExists session => "I/O error: session " ++ session ++ " already exists"
  | .frameTooLong => "I/O error: frame too large"
  | .ledger fault => "ledger error: " ++ fault.message
  | .settings path flaw => "invalid config " ++ path ++ ": " ++ flaw.message
  | .state fault => fault.message
  | .corrupt offset corruption =>
    "request log corrupted at byte " ++ offset.repr ++ ": " ++ corruption.message
  | .logOrder expected actual =>
    "request log sequence violation: expected " ++ expected.toNat.repr ++ ", got " ++
      actual.toNat.repr

/-- The text of a file that has been looked for. -/
def readText (found : Option Node) : Except Failure String :=
  match (found.bind Node.content?).bind utf8? with
  | some text => .ok text
  | none => .error .disk

end TokenLedger
