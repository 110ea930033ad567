/-
Request logs on disk. A log only ever grows, by one frame at a time, and each frame has the number
after the one before it. When a frame cannot be written as a whole, the file is cut back to what it
held, so that no part of the frame remains.
-/

import TokenLedger.Failure

namespace TokenLedger

/-- A request log that is open. -/
structure Journal where
  path : Path
  /-- The number of the last envelope, or zero. -/
  lastSequence : UInt64
  deriving DecidableEq, Repr

namespace Journal

/-- Read the file of a log. -/
def readFile (tree : FileTree) (path : Path) : Except Failure (List LoggedEnvelope) :=
  match tree.read? path with
  | none => .error .disk
  | some bytes =>
    (Frame.readAll bytes).mapError fun (offset, corruption) => .corrupt offset corruption

/-- Read a log, which is empty where there is nothing. -/
def readAt (tree : FileTree) (path : Path) : Except Failure (List LoggedEnvelope) :=
  if tree.exists? path then readFile tree path else .ok []

/-- The number of the last of some envelopes, or zero. -/
def lastOf (envelopes : List LoggedEnvelope) : UInt64 :=
  (envelopes.getLast?.map LoggedEnvelope.sequence).getD 0

/-- Open the log at a place. Its folder is made, and what it holds is checked. -/
def openAt (disk : Disk) (path : Path) : Except Failure Journal × Disk :=
  match disk.makeFolders (Path.parent path) with
  | (false, disk) => (.error .disk, disk)
  | (true, disk) =>
    ((readAt disk.tree path).map fun envelopes => ⟨path, lastOf envelopes⟩, disk)

/-- Every envelope of a log. -/
def load (journal : Journal) (tree : FileTree) : Except Failure (List LoggedEnvelope) :=
  readAt tree journal.path

/-- Write a frame at the end of a file, as a whole or not at all. -/
def writeFrame (disk : Disk) (path : Path) (envelope : LoggedEnvelope) : Bool × Disk :=
  let before := (disk.tree.read? path).getD []
  match disk.append path (Frame.write envelope) with
  | (true, disk) => (true, disk)
  | (false, disk) => (false, disk.truncate path before.length)

/-- Append an envelope, which has to have the next number. The file is made before the length of the
frame is looked at. -/
def append (journal : Journal) (disk : Disk) (envelope : LoggedEnvelope) :
    Except Failure Unit × Journal × Disk :=
  let expected := journal.lastSequence + 1
  if envelope.sequence ≠ expected then
    (.error (.logOrder expected envelope.sequence), journal, disk)
  else
    match disk.openEnd journal.path with
    | (false, disk) => (.error .disk, journal, disk)
    | (true, disk) =>
      if UInt32.size ≤ envelope.encode.length then (.error .frameTooLong, journal, disk)
      else
        match writeFrame disk journal.path envelope with
        | (false, disk) => (.error .disk, journal, disk)
        | (true, disk) => (.ok (), { journal with lastSequence := envelope.sequence }, disk)

end Journal

end TokenLedger
