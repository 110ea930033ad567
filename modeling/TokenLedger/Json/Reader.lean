/-
Reading JSON. A reader takes the characters that are left and returns what it read together with
the characters after it. White space is the space, the tab, the line feed and the carriage return.
-/

import TokenLedger.Json.Tree

namespace TokenLedger.Json

/-- The characters that may stand between the parts of a document. -/
def isSpace (char : Char) : Bool :=
  char == ' ' || char == '\t' || char == '\n' || char == '\r'

/-- What is left after white space. -/
def skipSpace (chars : List Char) : List Char :=
  chars.dropWhile isSpace

/-! ### Strings -/

/-- A part of a string literal: a character, or a UTF-16 unit named by an escape. -/
inductive Piece where
  | char (value : Char)
  | unit (code : Nat)
  deriving DecidableEq, Repr

/-- Whether a unit is the first half of a surrogate pair. -/
def isHighUnit (code : Nat) : Bool :=
  0xD800 ≤ code && code < 0xDC00

/-- Whether a unit is the second half of a surrogate pair. -/
def isLowUnit (code : Nat) : Bool :=
  0xDC00 ≤ code && code < 0xE000

/-- The characters of the pieces after those of earlier ones, which are given in reverse. Half of a
surrogate pair must not stand alone. -/
def joinPiecesAfter (earlier : List Char) : List Piece → Option (List Char)
  | [] => some earlier.reverse
  | .char value :: rest => joinPiecesAfter (value :: earlier) rest
  | .unit high :: .unit low :: rest =>
    if isHighUnit high then
      if isLowUnit low then
        joinPiecesAfter
          (Char.ofNat (0x10000 + (high - 0xD800) * 0x400 + (low - 0xDC00)) :: earlier) rest
      else none
    else if isLowUnit high then none
    else joinPiecesAfter (Char.ofNat high :: earlier) (.unit low :: rest)
  | .unit code :: rest =>
    if isHighUnit code || isLowUnit code then none
    else joinPiecesAfter (Char.ofNat code :: earlier) rest

/-- The characters of the pieces, unless half of a surrogate pair stands alone. -/
def joinPieces (pieces : List Piece) : Option (List Char) :=
  joinPiecesAfter [] pieces

/-- The character that a one-letter escape names. -/
def escaped? : Char → Option Char
  | '"' => some '"'
  | '\\' => some '\\'
  | '/' => some '/'
  | 'b' => some '\x08'
  | 'f' => some '\x0c'
  | 'n' => some '\n'
  | 'r' => some '\r'
  | 't' => some '\t'
  | _ => none

/-- The unit that four hexadecimal digits name. -/
def unit? (a b c d : Char) : Option Nat := do
  return (((← hexValue? a) * 16 + (← hexValue? b)) * 16 + (← hexValue? c)) * 16 + (← hexValue? d)

/-- Read up to the double quote that ends a string. The pieces before are given in reverse. -/
def readPiecesAfter (earlier : List Piece) : List Char → Option (List Piece × List Char)
  | [] => none
  | '"' :: rest => some (earlier.reverse, rest)
  | '\\' :: 'u' :: a :: b :: c :: d :: rest =>
    match unit? a b c d with
    | some code => readPiecesAfter (.unit code :: earlier) rest
    | none => none
  | '\\' :: letter :: rest =>
    match escaped? letter with
    | some char => readPiecesAfter (.char char :: earlier) rest
    | none => none
  | char :: rest =>
    if char.toNat < 0x20 ∨ char = '\\' then none
    else readPiecesAfter (.char char :: earlier) rest

/-- Read up to the double quote that ends a string. -/
def readPieces (chars : List Char) : Option (List Piece × List Char) :=
  readPiecesAfter [] chars

/-- Read a string after its opening quote. -/
def readString (chars : List Char) : Option (Option String × List Char) := do
  let (pieces, rest) ← readPieces chars
  return ((joinPieces pieces).map String.ofList, rest)

/-! ### Numbers -/

/-- The digits at the front, at least one, and what follows them. -/
def readDigits (chars : List Char) : Option (List Char × List Char) :=
  let digits := chars.takeWhile Char.isDigit
  if digits = [] then none else some (digits, chars.dropWhile Char.isDigit)

/-- Read the digits after a point, if there is a point. -/
def readFraction : List Char → Option (Option (List Char) × List Char)
  | '.' :: rest => do
    let (digits, rest) ← readDigits rest
    return (some digits, rest)
  | chars => some (none, chars)

/-- Read an exponent, if there is one. -/
def readExponent : List Char → Option (Option (Bool × List Char) × List Char)
  | [] => some (none, [])
  | char :: rest =>
    if char = 'e' ∨ char = 'E' then do
      let (negative, rest) :=
        match rest with
        | '+' :: rest => (false, rest)
        | '-' :: rest => (true, rest)
        | _ => (false, rest)
      let (digits, rest) ← readDigits rest
      return (some (negative, digits), rest)
    else some (none, char :: rest)

/-- Read a number that starts with a digit. No further digit may follow a leading zero. -/
def readUnsigned (negative : Bool) (chars : List Char) : Option (Numeral × List Char) := do
  let (whole, rest) ← readDigits chars
  if whole.head? = some '0' ∧ whole ≠ ['0'] then none
  else
    let (fraction, rest) ← readFraction rest
    let (exponent, rest) ← readExponent rest
    return (⟨negative, whole, fraction, exponent⟩, rest)

/-- Read a number. -/
def readNumeral : List Char → Option (Numeral × List Char)
  | '-' :: rest => readUnsigned true rest
  | chars => readUnsigned false chars

/-! ### Documents -/

mutual

/-- Read a value; white space may stand before it. The bound is on the number of values, items and
members still to be read, for which the number of characters is enough. -/
def readTree : Nat → List Char → Option (Tree × List Char)
  | 0, _ => none
  | bound + 1, chars =>
    match skipSpace chars with
    | 'n' :: 'u' :: 'l' :: 'l' :: rest => some (.null, rest)
    | 't' :: 'r' :: 'u' :: 'e' :: rest => some (.bool true, rest)
    | 'f' :: 'a' :: 'l' :: 's' :: 'e' :: rest => some (.bool false, rest)
    | '"' :: rest => do
      let (text, rest) ← readString rest
      return (.string text, rest)
    | '[' :: rest =>
      match skipSpace rest with
      | ']' :: rest => some (.array [], rest)
      | rest => do
        let (items, rest) ← readItems bound rest
        return (.array items, rest)
    | '\x7b' :: rest =>
      match skipSpace rest with
      | '\x7d' :: rest => some (.object [], rest)
      | rest => do
        let (members, rest) ← readMembers bound rest
        return (.object members, rest)
    | rest => do
      let (numeral, rest) ← readNumeral rest
      return (.number numeral.number?, rest)
termination_by structural bound => bound

/-- Read items up to the end of an array. -/
def readItems : Nat → List Char → Option (List Tree × List Char)
  | 0, _ => none
  | bound + 1, chars => do
    let (item, rest) ← readTree bound chars
    match skipSpace rest with
    | ',' :: rest => do
      let (items, rest) ← readItems bound rest
      return (item :: items, rest)
    | ']' :: rest => return ([item], rest)
    | _ => none
termination_by structural bound => bound

/-- Read members up to the end of an object. -/
def readMembers : Nat → List Char → Option (List (Option String × Tree) × List Char)
  | 0, _ => none
  | bound + 1, chars =>
    match skipSpace chars with
    | '"' :: rest => do
      let (key, rest) ← readString rest
      match skipSpace rest with
      | ':' :: rest => do
        let (value, rest) ← readTree bound rest
        match skipSpace rest with
        | ',' :: rest => do
          let (members, rest) ← readMembers bound rest
          return ((key, value) :: members, rest)
        | '\x7d' :: rest => return ([(key, value)], rest)
        | _ => none
      | _ => none
    | _ => none
termination_by structural bound => bound

end

/-- The document that a text is, with nothing but white space around it. -/
def Tree.parse? (text : String) : Option Tree := do
  let chars := text.toList
  let (tree, rest) ← readTree (chars.length + 1) chars
  if skipSpace rest = [] then some tree else none

/-- The document whose UTF-8 text the bytes are. -/
def Tree.ofBytes? (bytes : Bytes) : Option Tree := do
  Tree.parse? (← utf8? bytes)

/-- The value that a text is. -/
def Value.parse? (text : String) : Option Value := do
  (← Tree.parse? text).value? Tree.nestingLimit

/-- The value whose UTF-8 text the bytes are. -/
def Value.ofBytes? (bytes : Bytes) : Option Value := do
  Value.parse? (← utf8? bytes)

end TokenLedger.Json
