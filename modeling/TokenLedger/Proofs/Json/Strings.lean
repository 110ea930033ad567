/-
This file proves that every text is read back from its string literal. A literal names a character
either by itself, by a letter after a backslash, or, for the remaining control characters, by its
number; those numbers are far below the surrogates, so that joining the pieces never has to look at
two of them at once.
-/

import Mathlib
import TokenLedger.Json.Reader
import TokenLedger.Json.Writer

namespace TokenLedger.Json

/-! ### One character -/

/-- The piece that the reader finds where a character was written: only the longest way of writing
one gives its number. -/
def pieceOf (char : Char) : Piece :=
  if (escapeChar char).length = 6 then .unit char.toNat else .char char

/-- A control character is named by its two last digits. -/
theorem unit?_hexDigits : ∀ code < 0x20,
    unit? '0' '0' (hexDigit 'a' (UInt8.ofNat code / 16)) (hexDigit 'a' (UInt8.ofNat code % 16)) =
      some code := by
  decide

theorem readPiecesAfter_unit (earlier : List Piece) {a b c d : Char} {code : Nat}
    (named : unit? a b c d = some code) (rest : List Char) :
    readPiecesAfter earlier ('\\' :: 'u' :: a :: b :: c :: d :: rest) =
      readPiecesAfter (.unit code :: earlier) rest := by
  rw [readPiecesAfter, named]

theorem readPiecesAfter_letter (earlier : List Piece) {letter char : Char}
    (named : escaped? letter = some char) (rest : List Char) :
    readPiecesAfter earlier ('\\' :: letter :: rest) =
      readPiecesAfter (.char char :: earlier) rest := by
  have notNumber : letter ≠ 'u' := by
    rintro rfl
    cases named
  rw [readPiecesAfter.eq_def]
  split
  case h_5 notLetter same =>
    obtain ⟨rfl, rfl⟩ := List.cons.inj same
    exact absurd rfl (notLetter letter rest rfl)
  all_goals simp_all

theorem readPiecesAfter_plain (earlier : List Piece) {char : Char} (notQuote : char ≠ '"')
    (notBackslash : char ≠ '\\') (printable : ¬ char.toNat < 0x20) (rest : List Char) :
    readPiecesAfter earlier (char :: rest) = readPiecesAfter (.char char :: earlier) rest := by
  rw [readPiecesAfter.eq_def]
  split <;> simp_all

/-- What is written for a character is read as its piece. -/
theorem readPiecesAfter_escapeChar (earlier : List Piece) (char : Char) (rest : List Char) :
    readPiecesAfter earlier (escapeChar char ++ rest) =
      readPiecesAfter (pieceOf char :: earlier) rest := by
  unfold pieceOf
  unfold escapeChar
  split
  case h_8 notQuote notBackslash _ _ _ _ _ =>
    split
    next control =>
      have written (byte : UInt8) : hexDigits 'a' [byte] =
          [hexDigit 'a' (byte / 16), hexDigit 'a' (byte % 16)] := rfl
      simp only [written, List.cons_append, List.nil_append,
        readPiecesAfter_unit earlier (unit?_hexDigits _ control)]
      rfl
    next printable =>
      rw [List.singleton_append, readPiecesAfter_plain earlier notQuote notBackslash printable]
      rfl
  all_goals
    rw [List.cons_append, List.singleton_append, readPiecesAfter_letter earlier rfl]
    rfl

/-! ### Joining the pieces -/

/-- A unit below the surrogates is a character, whatever follows. -/
theorem joinPiecesAfter_unit (earlier : List Char) {code : Nat} (low : code < 0xD800)
    (pieces : List Piece) :
    joinPiecesAfter earlier (.unit code :: pieces) =
      joinPiecesAfter (Char.ofNat code :: earlier) pieces := by
  have notHigh : isHighUnit code = false := by simp [isHighUnit]; omega
  have notLow : isLowUnit code = false := by simp [isLowUnit]; omega
  rw [joinPiecesAfter.eq_def]
  split <;> simp_all

/-- Only control characters are given by their number. -/
theorem control_of_length_escapeChar {char : Char} (longest : (escapeChar char).length = 6) :
    char.toNat < 0x20 := by
  unfold escapeChar at longest
  split at longest
  case h_8 =>
    split at longest
    next control => exact control
    next => cases longest
  all_goals cases longest

theorem joinPiecesAfter_pieceOf (earlier : List Char) (char : Char) (pieces : List Piece) :
    joinPiecesAfter earlier (pieceOf char :: pieces) = joinPiecesAfter (char :: earlier) pieces := by
  unfold pieceOf
  split
  next longest =>
    have control := control_of_length_escapeChar longest
    rw [joinPiecesAfter_unit earlier (by omega), Char.ofNat_toNat]
  next => rw [joinPiecesAfter]

theorem joinPiecesAfter_map_pieceOf (earlier chars : List Char) :
    joinPiecesAfter earlier (chars.map pieceOf) = some (earlier.reverse ++ chars) := by
  induction chars generalizing earlier with
  | nil => rw [List.map_nil, joinPiecesAfter, List.append_nil]
  | cons char rest inductionHypothesis =>
    rw [List.map_cons, joinPiecesAfter_pieceOf, inductionHypothesis, List.reverse_cons,
      List.append_assoc, List.singleton_append]

/-! ### A whole literal -/

theorem readPiecesAfter_flatMap_escapeChar (earlier : List Piece) (chars rest : List Char) :
    readPiecesAfter earlier (chars.flatMap escapeChar ++ '"' :: rest) =
      some (earlier.reverse ++ chars.map pieceOf, rest) := by
  induction chars generalizing earlier with
  | nil => rw [List.flatMap_nil, List.nil_append, readPiecesAfter, List.map_nil, List.append_nil]
  | cons char others inductionHypothesis =>
    rw [List.flatMap_cons, List.append_assoc, readPiecesAfter_escapeChar, inductionHypothesis,
      List.reverse_cons, List.append_assoc, List.singleton_append, List.map_cons]

/-- A text is read back from its literal, whose opening quote has been read. -/
theorem readString_stringChars (text : String) (rest : List Char) :
    readString (text.toList.flatMap escapeChar ++ '"' :: rest) = some (some text, rest) := by
  rw [readString, readPieces, readPiecesAfter_flatMap_escapeChar]
  simp [joinPieces, joinPiecesAfter_map_pieceOf, String.ofList_toList]

theorem stringChars_append (text : String) (rest : List Char) :
    stringChars text ++ rest = '"' :: (text.toList.flatMap escapeChar ++ '"' :: rest) := by
  simp [stringChars]

end TokenLedger.Json
