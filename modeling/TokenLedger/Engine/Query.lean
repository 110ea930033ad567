/-
Questions about the registry. A question is a path; the answer is an indented JSON document.
-/

import TokenLedger.Ledger.Registry

namespace TokenLedger

open Json

/-- Answer a path: one token by its symbol, all symbols, or all tokens. -/
def query (format : RecordFormat) (tokens : LayeredStore) (path : List String) :
    Except Fault String :=
  match path with
  | ["find", symbol] => do
    return (← Registry.get format tokens symbol).toJson.indented
  | ["symbols"] => do
    let records ← Registry.all format tokens
    return (Value.array (records.map fun record => .string record.1)).indented
  | ["tokens"] => do
    let records ← Registry.all format tokens
    return (Value.array (records.map fun record => record.2.toJson)).indented
  | _ => .error (.unknown (.query path))

end TokenLedger
