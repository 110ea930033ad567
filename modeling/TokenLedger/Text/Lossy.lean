/-
Reading bytes that may not be text. Every byte sequence is given a text to show in a message:
well-formed UTF-8 is read as it is, and each broken sequence is shown as one replacement character,
where a broken sequence reaches as far as it could still have been completed.
-/

import TokenLedger.Data.Bytes

namespace TokenLedger.Text

/-- A character of which some bytes have been read. -/
structure Partial where
  /-- The bits read so far. -/
  value : Nat
  /-- How many bytes are still owed, at least one. -/
  owed : Nat
  /-- The least next byte that goes on with the character. -/
  low : UInt8
  /-- The greatest next byte that goes on with the character. -/
  high : UInt8

/-- What a byte that starts a character of several bytes begins. -/
def Partial.start? (byte : UInt8) : Option Partial :=
  if 0xC2 ≤ byte ∧ byte ≤ 0xDF then some ⟨byte.toNat - 0xC0, 1, 0x80, 0xBF⟩
  else if byte = 0xE0 then some ⟨0, 2, 0xA0, 0xBF⟩
  else if byte = 0xED then some ⟨0xD, 2, 0x80, 0x9F⟩
  else if 0xE1 ≤ byte ∧ byte ≤ 0xEF then some ⟨byte.toNat - 0xE0, 2, 0x80, 0xBF⟩
  else if byte = 0xF0 then some ⟨0, 3, 0x90, 0xBF⟩
  else if 0xF1 ≤ byte ∧ byte ≤ 0xF3 then some ⟨byte.toNat - 0xF0, 3, 0x80, 0xBF⟩
  else if byte = 0xF4 then some ⟨4, 3, 0x80, 0x8F⟩
  else none

/-- The character that stands for a broken sequence. -/
def replacement : Char := '\ufffd'

/-- Begin a character: the characters completed at once, and what is left unfinished. -/
def beginChar (byte : UInt8) : List Char × Option Partial :=
  if byte < 0x80 then ([Char.ofNat byte.toNat], none)
  else
    match Partial.start? byte with
    | some unfinished => ([], some unfinished)
    | none => ([replacement], none)

/-- One more byte after an unfinished character, or after none. -/
def nextByte (unfinished : Option Partial) (byte : UInt8) : List Char × Option Partial :=
  match unfinished with
  | none => beginChar byte
  | some char =>
    if char.low ≤ byte ∧ byte ≤ char.high then
      let value := char.value * 64 + byte.toNat % 64
      if char.owed ≤ 1 then ([Char.ofNat value], none)
      else ([], some ⟨value, char.owed - 1, 0x80, 0xBF⟩)
    else
      let (chars, unfinished) := beginChar byte
      (replacement :: chars, unfinished)

/-- The characters of a byte string after an unfinished character. -/
def lossyChars (unfinished : Option Partial) : Bytes → List Char
  | [] => if unfinished.isSome then [replacement] else []
  | byte :: rest =>
    let (chars, unfinished) := nextByte unfinished byte
    chars ++ lossyChars unfinished rest

/-- The text shown for a byte string. -/
def lossy (bytes : Bytes) : String :=
  String.ofList (lossyChars none bytes)

end TokenLedger.Text
