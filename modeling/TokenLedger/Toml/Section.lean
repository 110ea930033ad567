/-
Putting a TOML document together. A document is a tree of tables that grows line by line: a line
binds a key in the table that is open, and a header opens a table. What has been written once is not
written again, and a table that a header or a value has made is not extended by keys with dots.
-/

import TokenLedger.Toml.Value

namespace TokenLedger.Toml

/-- What a table has been made by. -/
inductive Origin where
  /-- A header of its own. -/
  | header
  /-- A header of a table inside it. -/
  | innerHeader
  /-- A key with dots. -/
  | dottedKey
  deriving DecidableEq, Repr

/-- A part of a document that is being put together. -/
inductive Item where
  | value (value : Value)
  | table (origin : Origin) (members : List (String × Item))
  /-- Tables that share a header, the last one first. -/
  | tables (last : List (String × Item)) (earlier : List (List (String × Item)))

/-- The members of a table that is being put together. -/
abbrev Members := List (String × Item)

/-- Change what is bound to a name. -/
def alter (name : String) (change : Option Item → Option Item) : Members → Option Members
  | [] => do return [(name, ← change none)]
  | (other, item) :: rest =>
    if other = name then do return (other, ← change (some item)) :: rest
    else do return (other, item) :: (← alter name change rest)

/-- Change the table that a header leads to, whose last name is taken by the change itself. -/
def changeBelow (change : String → Members → Option Members) :
    List String → Members → Option Members
  | [], _ => none
  | [name], members => change name members
  | name :: rest, members =>
    alter name (fun
      | none => (changeBelow change rest []).map (.table .innerHeader)
      | some (.table origin inner) => (changeBelow change rest inner).map (.table origin)
      | some (.tables last earlier) => (changeBelow change rest last).map (.tables · earlier)
      | some (.value _) => none) members

/-- Open the table of a header. -/
def openTable (path : List String) (document : Members) : Option Members :=
  changeBelow (fun name => alter name fun
    | none => some (.table .header [])
    | some (.table .innerHeader inner) => some (.table .header inner)
    | some _ => none) path document

/-- Open a further table of a header that many tables share. -/
def openFurther (path : List String) (document : Members) : Option Members :=
  changeBelow (fun name => alter name fun
    | none => some (.tables [] [])
    | some (.tables last earlier) => some (.tables [] (last :: earlier))
    | some _ => none) path document

/-- Bind a key to a value. -/
def bind (value : Value) : List String → Members → Option Members
  | [], _ => none
  | [name], members =>
    alter name (fun
      | none => some (.value value)
      | some _ => none) members
  | name :: rest, members =>
    alter name (fun
      | none => (bind value rest []).map (.table .dottedKey)
      | some (.table .dottedKey inner) => (bind value rest inner).map (.table .dottedKey)
      | some (.table .innerHeader inner) =>
        if rest.length = 1 then none else (bind value rest inner).map (.table .innerHeader)
      | some (.tables last earlier) =>
        if rest.length = 1 then none else (bind value rest last).map (.tables · earlier)
      | some _ => none) members

/-- Bind a key in the table that a header has opened. -/
def bindUnder (header key : List String) (value : Value) (document : Members) : Option Members :=
  if header = [] then bind value key document
  else
    changeBelow (fun name => alter name fun
      | some (.table origin inner) => (bind value key inner).map (.table origin)
      | some (.tables last earlier) => (bind value key last).map (.tables · earlier)
      | _ => none) header document

/-! ### The finished document -/

mutual

/-- The value of a finished part. -/
def Item.toValue : Item → Value
  | .value value => value
  | .table _ members => .table (memberValues members)
  | .tables last earlier => .array ((tableValues earlier).reverse ++ [.table (memberValues last)])
termination_by structural item => item

/-- The values of members. -/
def memberValues : List (String × Item) → List (String × Value)
  | [] => []
  | (name, item) :: rest => (name, item.toValue) :: memberValues rest
termination_by structural members => members

/-- The values of tables. -/
def tableValues : List (List (String × Item)) → List Value
  | [] => []
  | members :: rest => .table (memberValues members) :: tableValues rest
termination_by structural tables => tables

end

end TokenLedger.Toml
