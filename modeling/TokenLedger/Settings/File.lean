/-
Settings in a file.
-/

import TokenLedger.Failure
import TokenLedger.Settings.Document

namespace TokenLedger

/-- Load settings from a file that has been looked for by its name; where nothing has been found,
nothing is chosen. -/
def Settings.load (name : String) (found : Option Node) : Except Failure Settings := do
  if found = none then return {}
  else (Settings.ofText (← readText found)).mapError (Failure.settings name)

end TokenLedger
