/-
Documents as they are written. A well-formed document can hold parts that have no value: a number
beyond the doubles, or a string with half of a surrogate pair. Such a part may be skipped, but it
cannot be read. A document also keeps every member of an object, repeated keys included; what a
repetition means is decided by whoever reads the object.
-/

import TokenLedger.Json.Value

namespace TokenLedger.Json

/-- A document as it is written. -/
inductive Tree where
  | null
  | bool (value : Bool)
  /-- A number; nothing when it is out of range. -/
  | number (value : Option Number)
  /-- A string; nothing when it is no text. -/
  | string (text : Option String)
  | array (items : List Tree)
  | object (members : List (Option String × Tree))
  deriving Inhabited

namespace Tree

/-- The word that a number is. -/
def word? : Tree → Option UInt64
  | .number (some amount) => amount.word?
  | _ => none

/-- The 32-bit word that a number is. -/
def shortWord? (tree : Tree) : Option UInt32 := do
  let word ← tree.word?
  if word.toNat < UInt32.size then some word.toUInt32 else none

/-- The text of a string. -/
def text? : Tree → Option String
  | .string text => text
  | _ => none

/-- A truth value. -/
def bool? : Tree → Option Bool
  | .bool value => some value
  | _ => none

/-- The items of an array, each read alike. -/
def list? {α : Type} (read : Tree → Option α) : Tree → Option (List α)
  | .array items => items.mapM read
  | _ => none

/-- Either null or a value that can be read. -/
def orNull? {α : Type} (read : Tree → Option α) : Tree → Option (Option α)
  | .null => some none
  | tree => (read tree).map some

/-! ### From documents to values -/

/-- Bind a key to a value: in the place of an earlier member with the same key, or at the end. -/
def putMember (key : String) (value : Value) : List (String × Value) → List (String × Value)
  | [] => [(key, value)]
  | (other, old) :: rest =>
    if other = key then (key, value) :: rest else (other, old) :: putMember key value rest

/-- How deeply the arrays and objects of a value may be nested. -/
def nestingLimit : Nat := 127

mutual

/-- The value of a document, whose arrays and objects are nested at most as deeply as given. Of the
members with one key the last gives the value and the first the place. -/
def value? (depth : Nat) : Tree → Option Value
  | .null => some .null
  | .bool value => some (.bool value)
  | .number value => value.map .number
  | .string text => text.map .string
  | .array items =>
    match depth with
    | 0 => none
    | depth + 1 => (items? depth items).map .array
  | .object members =>
    match depth with
    | 0 => none
    | depth + 1 => (members? depth members []).map .object
termination_by structural tree => tree

/-- The value of each item. -/
def items? (depth : Nat) : List Tree → Option (List Value)
  | [] => some []
  | item :: rest => do
    let value ← value? depth item
    return value :: (← items? depth rest)
termination_by structural items => items

/-- The members so far, and the value of each further one. -/
def members? (depth : Nat) : List (Option String × Tree) → List (String × Value) →
    Option (List (String × Value))
  | [], earlier => some earlier
  | (key, member) :: rest, earlier => do
    let key ← key
    let value ← value? depth member
    members? depth rest (putMember key value earlier)
termination_by structural members => members

end

end Tree

namespace Value

mutual

/-- A value as a document. -/
def tree : Value → Tree
  | .null => .null
  | .bool value => .bool value
  | .number amount => .number (some amount)
  | .string text => .string (some text)
  | .array items => .array (itemTrees items)
  | .object members => .object (memberTrees members)
termination_by structural value => value

/-- Items as documents. -/
def itemTrees : List Value → List Tree
  | [] => []
  | item :: rest => tree item :: itemTrees rest
termination_by structural items => items

/-- Members as documents. -/
def memberTrees : List (String × Value) → List (Option String × Tree)
  | [] => []
  | (key, value) :: rest => (some key, tree value) :: memberTrees rest
termination_by structural members => members

end

end Value

end TokenLedger.Json
