/-
Disks. A disk is a tree of files together with what will become of the coming writes to files: a
write may be refused, may break off halfway, or may be reported as failed although all of it has
arrived. Where nothing is said, a write succeeds. Folders are made and files are cut at once, and
reading a file gives what it holds.
-/

import TokenLedger.Disk.FileTree

namespace TokenLedger

/-- What becomes of a write. -/
inductive WriteFate where
  /-- All bytes arrive. -/
  | done
  /-- The file is not opened. -/
  | refused
  /-- No more than the first bytes arrive. -/
  | cut (count : Nat)
  /-- All bytes arrive, but the disk does not confirm it. -/
  | unconfirmed
  deriving DecidableEq, Repr

/-- A tree of files, and what becomes of the coming writes. -/
structure Disk where
  tree : FileTree
  fates : List WriteFate
  deriving DecidableEq

namespace Disk

/-- A disk on which every write succeeds. -/
def ofTree (tree : FileTree) : Disk := ⟨tree, []⟩

/-- What becomes of the next write. -/
def nextFate (disk : Disk) : WriteFate :=
  disk.fates.headD .done

/-- Write bytes after others that a file is to start with: whether it succeeded. -/
def writeAfter (disk : Disk) (path : Path) (start bytes : Bytes) : Bool × Disk :=
  match disk.tree.filePlace? path with
  | none => (false, disk)
  | some place =>
    let holding (content : Bytes) : Disk := ⟨disk.tree.put place content, disk.fates.tail⟩
    match disk.nextFate with
    | .done => (true, holding (start ++ bytes))
    | .refused => (false, ⟨disk.tree, disk.fates.tail⟩)
    | .cut count => (false, holding (start ++ bytes.take count))
    | .unconfirmed => (false, holding (start ++ bytes))

/-- Write a file, over what it held: whether it succeeded. -/
def write (disk : Disk) (path : Path) (bytes : Bytes) : Bool × Disk :=
  disk.writeAfter path [] bytes

/-- Write at the end of a file, which need not be there: whether it succeeded. -/
def append (disk : Disk) (path : Path) (bytes : Bytes) : Bool × Disk :=
  disk.writeAfter path ((disk.tree.read? path).getD []) bytes

/-- Open a file to write at its end, and make it where there is none: whether it is open. -/
def openEnd (disk : Disk) (path : Path) : Bool × Disk :=
  match disk.tree.filePlace? path with
  | none => (false, disk)
  | some place =>
    if disk.nextFate = .refused then (false, ⟨disk.tree, disk.fates.tail⟩)
    else if disk.tree.exists? path then (true, disk)
    else (true, ⟨disk.tree.put place [], disk.fates⟩)

/-- Cut a file to a length, if it is there and longer. -/
def truncate (disk : Disk) (path : Path) (length : Nat) : Disk :=
  { disk with tree := disk.tree.change path (List.take length) }

/-- Make a folder and those on the way to it: whether they are all there. -/
def makeFolders (disk : Disk) (path : Path) : Bool × Disk :=
  let (made, tree) := disk.tree.makeFolders path
  (made, { disk with tree })

end Disk

end TokenLedger
