/-
Reading records. A record with a fixed list of fields is written as an object, in which each field
has its name, or as an array, in which the fields stand in their order. Fields at the end of an
array may be left out, and any field of an object; what a missing field means is decided field by
field.
-/

import TokenLedger.Json.Tree

namespace TokenLedger.Json

/-- The fields that a record was written with. -/
structure Record where
  /-- Whether the record was written as an object. -/
  named : Bool
  fields : List (String × Tree)

namespace Record

/-- Keep the members that are fields, each at most once. A member that is no field is refused, or
skipped when the record is open; every key has to be a text. -/
def ofMembers? (names : List String) (isOpen : Bool) :
    List (Option String × Tree) → Option (List (String × Tree))
  | [] => some []
  | (key, value) :: rest => do
    let key ← key
    let fields ← ofMembers? names isOpen rest
    if key ∈ names then
      if fields.any fun field => field.1 = key then none else some ((key, value) :: fields)
    else if isOpen then some fields
    else none

/-- The fields of a record with the given names. -/
def ofTree? (names : List String) (isOpen : Bool) : Tree → Option Record
  | .object members => (ofMembers? names isOpen members).map fun fields => ⟨true, fields⟩
  | .array items =>
    if items.length ≤ names.length then some ⟨false, names.zip items⟩ else none
  | _ => none

/-- The document written for a field. -/
def field? (record : Record) (name : String) : Option Tree :=
  (record.fields.find? fun field => field.1 = name).map (·.2)

/-- A field that has to be there. -/
def required {α : Type} (record : Record) (name : String) (read : Tree → Option α) : Option α := do
  read (← record.field? name)

/-- A field that has a value of its own when it is missing. -/
def withDefault {α : Type} (record : Record) (name : String) (read : Tree → Option α)
    (default : α) : Option α :=
  match record.field? name with
  | some tree => read tree
  | none => some default

/-- A field that may be null, and that an object may leave out instead. -/
def optional {α : Type} (record : Record) (name : String) (read : Tree → Option α) :
    Option (Option α) :=
  match record.field? name with
  | some tree => tree.orNull? read
  | none => if record.named then some none else none

end Record

end TokenLedger.Json
