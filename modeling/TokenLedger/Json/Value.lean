/-
JSON values. An object lists its members in order, each key once; the order is kept because it shows
in what is written.
-/

import TokenLedger.Json.Number
import TokenLedger.Data.Sorting

namespace TokenLedger.Json

/-- A JSON value. -/
inductive Value where
  | null
  | bool (value : Bool)
  | number (value : Number)
  | string (text : String)
  | array (items : List Value)
  | object (members : List (String × Value))
  deriving Inhabited

namespace Value

/-- A word as a value. -/
def word (value : UInt64) : Value :=
  .number (.ofWord value)

/-- A natural number as a value. -/
def nat (value : Nat) : Value :=
  .number (.integer value)

/-- The first member of an object with the given key. -/
def member? (key : String) : Value → Option Value
  | .object members => (members.find? fun member => member.1 = key).map (·.2)
  | _ => none

/-- The text of a string. -/
def text? : Value → Option String
  | .string text => some text
  | _ => none

/-- The word that a number is. -/
def word? : Value → Option UInt64
  | .number amount => amount.word?
  | _ => none

/-! ### Canonical order -/

mutual

/-- The same value with the members of every object, at every depth, in ascending key order. -/
def sortKeys : Value → Value
  | .array items => .array (sortItems items)
  | .object members => .object (sortMembers members)
  | .null => .null
  | .bool value => .bool value
  | .number value => .number value
  | .string text => .string text
termination_by structural value => value

/-- Each item with its keys sorted. -/
def sortItems : List Value → List Value
  | [] => []
  | item :: rest => sortKeys item :: sortItems rest
termination_by structural items => items

/-- The members in ascending key order, each value with its keys sorted. -/
def sortMembers : List (String × Value) → List (String × Value)
  | [] => []
  | (key, value) :: rest => insertBy (·.1) (key, sortKeys value) (sortMembers rest)
termination_by structural members => members

end

end Value

end TokenLedger.Json
