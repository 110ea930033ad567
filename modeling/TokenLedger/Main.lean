/-
The program: it looks at the files that its arguments name, and writes the report.
-/

import TokenLedger.CommandLine

namespace TokenLedger

/-- The number by which a system says that a place is a folder. -/
def folderCode : UInt32 := 21

/-- What is at a place that a text names: a file with what it holds, or something else that is there
and cannot be read as a file. -/
def nodeNamed? (name : String) : IO (Option Node) := do
  try
    return some (.file (← IO.FS.readBinFile name).data.toList)
  catch
    | .noFileOrDirectory _ _ _ => return none
    | .invalidArgument _ _ _ => return none
    | .inappropriateType _ code _ => return if code = folderCode then some .folder else none
    | _ => return some .folder

/-- What is at each of the named places. -/
def findAll (names : List String) : IO (List (String × Option Node)) :=
  names.mapM fun name => return (name, ← nodeNamed? name)

/-- Run with some arguments, and give the exit status. -/
def runProgram (arguments : List String) : IO UInt32 := do
  let found ← findAll (CommandLine.filesOf arguments)
  let report := CommandLine.runArguments (fun name => (found.lookup name).join) arguments
  IO.print report.output
  match report.complaint with
  | some complaint => IO.eprintln complaint
  | none => pure ()
  return report.status

end TokenLedger

/-- Run with the arguments that are given. -/
def main (arguments : List String) : IO UInt32 :=
  TokenLedger.runProgram arguments
