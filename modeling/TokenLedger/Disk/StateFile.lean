/-
States in files. A file holds the canonical text of a state; a state that is loaded from a file is
tried out first.
-/

import TokenLedger.Disk.Basic
import TokenLedger.Engine.Document

namespace TokenLedger

namespace GenesisState

/-- Save a state in a file, whose folder is made if it is not there. -/
def save (state : GenesisState) (disk : Disk) (path : Path) : Except StateFault Unit × Disk :=
  match disk.makeFolders (Path.parent path) with
  | (false, disk) => (.error .file, disk)
  | (true, disk) =>
    match disk.write path (utf8 state.canonicalText) with
    | (false, disk) => (.error .file, disk)
    | (true, disk) => (.ok (), disk)

/-- Load a state from a file that has been looked for. -/
def loadFile (found : Option Node) : Except StateFault GenesisState :=
  match (found.bind Node.content?).bind utf8? with
  | some text => restoreText text
  | none => .error .file

end GenesisState

end TokenLedger
