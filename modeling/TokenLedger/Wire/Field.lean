/-
Binary messages. A message is a sequence of numbered fields; the number says what the field means,
and the kind next to it how far the field reaches, so that a reader can step over a field that it
does not know. The ledger writes two kinds: words, and strings of bytes behind their length.
-/

import TokenLedger.Wire.Varint

namespace TokenLedger.Wire

/-- What a field holds. -/
inductive Payload where
  | word (value : UInt64)
  | bytes (content : Bytes)
  /-- A kind that the ledger does not use. -/
  | skipped
  deriving DecidableEq, Repr

/-- A numbered field. -/
structure Field where
  number : Nat
  payload : Payload
  deriving DecidableEq, Repr

/-! ### Writing -/

/-- The number of a field and its kind. -/
def key (number kind : Nat) : Bytes :=
  varint (UInt64.ofNat (number * 8 + kind))

/-- The bytes of a field. A kind that the ledger does not use is not written. -/
def Field.write (field : Field) : Bytes :=
  match field.payload with
  | .word value => key field.number 0 ++ varint value
  | .bytes content => key field.number 2 ++ lengthVarint content.length ++ content
  | .skipped => []

/-- The bytes of a message. -/
def write (fields : List Field) : Bytes :=
  fields.flatMap Field.write

/-- A text field; the empty text is left out. -/
def textField (number : Nat) (text : String) : List Field :=
  if text = "" then [] else [⟨number, .bytes (utf8 text)⟩]

/-- A word field; zero is left out. -/
def wordField (number : Nat) (value : UInt64) : List Field :=
  if value = 0 then [] else [⟨number, .word value⟩]

/-- A truth value; false is left out. -/
def flagField (number : Nat) (value : Bool) : List Field :=
  if value then [⟨number, .word 1⟩] else []

/-- A message inside a message, which is written even when it is empty. -/
def messageField (number : Nat) (fields : List Field) : Field :=
  ⟨number, .bytes (write fields)⟩

/-! ### Reading -/

/-- Read the number and the kind of a field. -/
def readKey (bytes : Bytes) : Option (Nat × Nat × Bytes) := do
  let (word, rest) ← readVarint bytes
  let number := word.toNat / 8
  if word.toNat < UInt32.size ∧ 0 < number then some (number, word.toNat % 8, rest) else none

/-- The given number of bytes, and what follows them. -/
def splitAt? (count : Nat) (bytes : Bytes) : Option (Bytes × Bytes) :=
  if count ≤ bytes.length then some (bytes.take count, bytes.drop count) else none

mutual

/-- Read what a field holds. The bound is on the number of fields in the groups still to be read,
for which the number of bytes is enough; the depth is how deeply groups may be nested from here. -/
def readPayload : Nat → Nat → Nat → Nat → Bytes → Option (Payload × Bytes)
  | 0, _, _, _, _ => none
  | _, 0, _, _, _ => none
  | bound + 1, depth + 1, number, kind, bytes =>
    match kind with
    | 0 => do
      let (value, rest) ← readVarint bytes
      return (.word value, rest)
    | 1 => do
      let (_, rest) ← splitAt? 8 bytes
      return (.skipped, rest)
    | 2 => do
      let (length, rest) ← readLength bytes
      let (content, rest) ← splitAt? length rest
      return (.bytes content, rest)
    | 3 => do
      let rest ← readGroup bound depth number bytes
      return (.skipped, rest)
    | 5 => do
      let (_, rest) ← splitAt? 4 bytes
      return (.skipped, rest)
    | _ => none
termination_by structural bound => bound

/-- Step over the fields of a group up to its end, which bears the number of the group. -/
def readGroup : Nat → Nat → Nat → Bytes → Option Bytes
  | 0, _, _, _ => none
  | bound + 1, depth, number, bytes => do
    let (inner, kind, rest) ← readKey bytes
    if kind = 4 then
      if inner = number then some rest else none
    else do
      let (_, rest) ← readPayload bound depth inner kind rest
      readGroup bound depth number rest
termination_by structural bound => bound

end

/-- Read fields until nothing is left, at most as many as given. -/
def readFields (depth : Nat) : Nat → Bytes → Option (List Field)
  | _, [] => some []
  | 0, _ => none
  | bound + 1, bytes => do
    let (number, kind, rest) ← readKey bytes
    let (payload, rest) ← readPayload (rest.length + 1) depth number kind rest
    return ⟨number, payload⟩ :: (← readFields depth bound rest)

/-- How deeply messages and groups may be nested. -/
def nestingLimit : Nat := 100

/-- The fields of a message that stands inside as many others as given. -/
def read (enclosing : Nat) (bytes : Bytes) : Option (List Field) :=
  readFields (nestingLimit - enclosing) bytes.length bytes

namespace Payload

/-- The word that a field holds. -/
def word? : Payload → Option UInt64
  | .word value => some value
  | _ => none

/-- The bytes that a field holds. -/
def bytes? : Payload → Option Bytes
  | .bytes content => some content
  | _ => none

/-- The text that a field holds. -/
def text? (payload : Payload) : Option String := do
  utf8? (← payload.bytes?)

/-- The truth value that a field holds: any word but zero is true. -/
def flag? (payload : Payload) : Option Bool := do
  return (← payload.word?) != 0

/-- The fields of the message that a field holds. -/
def message? (enclosing : Nat) (payload : Payload) : Option (List Field) := do
  read enclosing (← payload.bytes?)

end Payload

end TokenLedger.Wire
