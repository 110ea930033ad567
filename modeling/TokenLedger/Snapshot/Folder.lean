/-
Folders of snapshots. A snapshot is kept in a file that is named by its place in the sequence; the
latest snapshot is the one with the greatest number, whatever the order of the names.
-/

import TokenLedger.Failure
import TokenLedger.Snapshot.Basic

namespace TokenLedger

namespace Snapshot

/-! ### Names -/

/-- A number with zeros in front, at least six digits. -/
def paddedDigits (number : Nat) : List Char :=
  let digits := Nat.toDigits 10 number
  List.replicate (6 - digits.length) '0' ++ digits

def nameStart : String := "snapshot_"

def nameEnd : String := ".json"

/-- The name of the file of a snapshot. -/
def fileName (sequence : UInt64) : String :=
  nameStart ++ String.ofList (paddedDigits sequence.toNat) ++ nameEnd

/-- What is left of a text after another at its front. -/
def after? (start : List Char) (chars : List Char) : Option (List Char) :=
  if start.isPrefixOf chars then some (chars.drop start.length) else none

/-- What is left of a text before another at its end. -/
def before? (ending : List Char) (chars : List Char) : Option (List Char) :=
  if ending.isSuffixOf chars then some (chars.take (chars.length - ending.length)) else none

/-- A word written in digits, with any number of zeros and perhaps a plus in front. -/
def wordOfChars? (chars : List Char) : Option UInt64 :=
  let digits :=
    match chars with
    | '+' :: rest => rest
    | _ => chars
  if Amount.isDigits digits then Amount.ofNat? (Nat.ofDigitChars 10 digits 0) else none

/-- The number in the name of the file of a snapshot. -/
def sequenceOfName? (name : String) : Option UInt64 := do
  let rest ← after? nameStart.toList name.toList
  wordOfChars? (← before? nameEnd.toList rest)

/-! ### Files -/

/-- The place of the file of a snapshot. -/
def place (folder : Path) (sequence : UInt64) : Path :=
  folder ++ [fileName sequence]

/-- Save a snapshot in a folder, which is made if it is not there. -/
def save (snapshot : Snapshot) (disk : Disk) (folder : Path) : Except Failure Path × Disk :=
  match disk.makeFolders folder with
  | (false, disk) => (.error .disk, disk)
  | (true, disk) =>
    let path := place folder snapshot.sequence
    match disk.write path (utf8 snapshot.toJson.compact) with
    | (false, disk) => (.error .disk, disk)
    | (true, disk) => (.ok path, disk)

/-- Read the snapshot in a text. -/
def ofText (text : String) : Except Failure Snapshot :=
  match (Json.Tree.parse? text).bind ofTree? with
  | some snapshot => .ok snapshot
  | none => .error (.state (.unreadable .malformedSnapshot))

/-- Load the snapshot of one place in the sequence, if there is one. -/
def load (tree : FileTree) (folder : Path) (sequence : UInt64) :
    Except Failure (Option Snapshot) := do
  let path := place folder sequence
  if tree.exists? path then return some (← ofText (← readText (tree.node? path))) else return none

/-- The places in the sequence of which there are snapshots, in ascending order. -/
def list (tree : FileTree) (folder : Path) : Except Failure (List UInt64) :=
  if !tree.exists? folder then .ok []
  else if !tree.isFolder folder then .error .disk
  else .ok (sortBy id ((tree.names folder).filterMap sequenceOfName?))

/-- Load the latest snapshot, if there is one. -/
def latest (tree : FileTree) (folder : Path) : Except Failure (Option Snapshot) := do
  match (← list tree folder).getLast? with
  | some sequence => load tree folder sequence
  | none => return none

end Snapshot

end TokenLedger
