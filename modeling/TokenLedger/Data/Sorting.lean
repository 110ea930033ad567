/-
Sorting by a key. The sort is stable: records with the same key stay in the order in which they were
given.
-/

import TokenLedger.Data.KeyOrder

namespace TokenLedger

open KeyOrder

variable {κ α : Type} [KeyOrder κ]

/-- Put a record before the first one whose key is not before its own. -/
def insertBy (key : α → κ) (record : α) : List α → List α
  | [] => [record]
  | other :: rest =>
    if before (key other) (key record) then other :: insertBy key record rest
    else record :: other :: rest

/-- The records in ascending order of their keys. -/
def sortBy (key : α → κ) (records : List α) : List α :=
  records.foldr (insertBy key) []

end TokenLedger
