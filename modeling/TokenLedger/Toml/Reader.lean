/-
Reading TOML documents. A document is read line by line; each line binds a key, opens a table, or is
blank.
-/

import TokenLedger.Toml.Number
import TokenLedger.Toml.Section
import TokenLedger.Toml.Text

namespace TokenLedger.Toml

/-- The table that bindings within braces make. -/
def inlineTable? (bindings : List (List String × Value)) : Option Value := do
  let members ← bindings.foldlM (fun members (key, value) => bind value key members) []
  return .table (memberValues members)

mutual

/-- Read a value. The bound is on the number of values, items and bindings still to be read, for
which the number of characters is enough; the depth is that to which arrays and tables may be
nested. -/
def readValue : Nat → Nat → List Char → Option (Value × List Char)
  | 0, _, _ => none
  | bound + 1, depth, chars =>
    match chars with
    | 't' :: 'r' :: 'u' :: 'e' :: rest => some (.bool true, rest)
    | 'f' :: 'a' :: 'l' :: 's' :: 'e' :: rest => some (.bool false, rest)
    | '[' :: rest =>
      match depth with
      | 0 => none
      | depth + 1 => do
        let (items, rest) ← readItems bound depth rest
        return (.array items, rest)
    | '\x7b' :: rest =>
      match depth with
      | 0 => none
      | depth + 1 =>
        match skipSpace rest with
        | '\x7d' :: rest => some (.table [], rest)
        | rest => do
          let (bindings, rest) ← readBindings bound depth rest
          return (← inlineTable? bindings, rest)
    | _ =>
      match readText chars with
      | some (text, rest) => some (.text text, rest)
      | none => readNumber chars
termination_by structural bound => bound

/-- Read items up to the end of an array; a comma may stand after the last one. -/
def readItems : Nat → Nat → List Char → Option (List Value × List Char)
  | 0, _, _ => none
  | bound + 1, depth, chars =>
    match skipLines chars with
    | ']' :: rest => some ([], rest)
    | chars => do
      let (item, rest) ← readValue bound depth chars
      match skipLines rest with
      | ',' :: rest => do
        let (items, rest) ← readItems bound depth rest
        return (item :: items, rest)
      | ']' :: rest => return ([item], rest)
      | _ => none
termination_by structural bound => bound

/-- Read bindings up to the end of a table within braces. -/
def readBindings : Nat → Nat → List Char → Option (List (List String × Value) × List Char)
  | 0, _, _ => none
  | bound + 1, depth, chars => do
    let (key, rest) ← readKey chars
    match rest with
    | '=' :: rest => do
      let (value, rest) ← readValue bound depth (skipSpace rest)
      match skipSpace rest with
      | ',' :: rest => do
        let (bindings, rest) ← readBindings bound depth rest
        return ((key, value) :: bindings, rest)
      | '\x7d' :: rest => return ([(key, value)], rest)
      | _ => none
    | _ => none
termination_by structural bound => bound

end

/-- A document of which some lines have been read. -/
structure Progress where
  document : Members
  /-- The header of the table that is open. -/
  header : List String

/-- Read a line that is not blank: a header, or a key with its value. -/
def readLine (progress : Progress) (chars : List Char) : Option (Progress × List Char) :=
  match chars with
  | '[' :: '[' :: rest => do
    let (path, rest) ← readKey rest
    match rest with
    | ']' :: ']' :: rest => do
      let rest ← endLine? rest
      return (⟨← openFurther path progress.document, path⟩, rest)
    | _ => none
  | '[' :: rest => do
    let (path, rest) ← readKey rest
    match rest with
    | ']' :: rest => do
      let rest ← endLine? rest
      return (⟨← openTable path progress.document, path⟩, rest)
    | _ => none
  | _ => do
    let (key, rest) ← readKey chars
    match rest with
    | '=' :: rest => do
      let (value, rest) ← readValue (rest.length + 1) depthLimit (skipSpace rest)
      let rest ← endLine? rest
      return (⟨← bindUnder progress.header key value progress.document, progress.header⟩, rest)
    | _ => none

/-- Read lines up to the end of the text. The bound is on their number. -/
def readLines : Nat → Progress → List Char → Option Members
  | 0, _, _ => none
  | bound + 1, progress, chars =>
    match skipSpace chars with
    | [] => some progress.document
    | char :: rest =>
      if char = '\n' ∨ char = '\r' ∨ char = '#' then do
        readLines bound progress (← endLine? (char :: rest))
      else do
        let (progress, rest) ← readLine progress (char :: rest)
        readLines bound progress rest

/-- A mark of the order of bytes may stand at the start of a text. -/
def skipMark : List Char → List Char
  | '\ufeff' :: rest => rest
  | chars => chars

/-- The members of the document that a text is. -/
def parse? (text : String) : Option (List (String × Value)) := do
  let chars := text.toList
  let document ← readLines (chars.length + 1) ⟨[], []⟩ (skipMark chars)
  return memberValues document

end TokenLedger.Toml
