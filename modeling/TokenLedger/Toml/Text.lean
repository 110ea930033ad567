/-
The parts of TOML documents that are not values: white space, comments, the ends of lines, keys, and
the four forms of strings. A reader takes the characters that are left and returns what it read
together with the characters after it.
-/

import TokenLedger.Data.Bytes

namespace TokenLedger.Toml

/-! ### Lines -/

/-- White space within a line. -/
def isSpace (char : Char) : Bool :=
  char == ' ' || char == '\t'

/-- What is left after white space within a line. -/
def skipSpace (chars : List Char) : List Char :=
  chars.dropWhile isSpace

/-- The characters that may stand in comments and strings: the tab, and all others but the controls
of ASCII. -/
def isPlain (char : Char) : Bool :=
  char == '\t' || (0x20 ≤ char.toNat && char.toNat != 0x7F)

/-- What is left after the end of a line. -/
def newline? : List Char → Option (List Char)
  | '\n' :: rest => some rest
  | '\r' :: '\n' :: rest => some rest
  | _ => none

/-- What is left after a comment, if there is one. -/
def skipComment : List Char → List Char
  | '#' :: rest => rest.dropWhile isPlain
  | chars => chars

/-- What is left after the rest of a line, which may hold white space and a comment. -/
def endLine? (chars : List Char) : Option (List Char) :=
  match skipComment (skipSpace chars) with
  | [] => some []
  | rest => newline? rest

/-- What is left after white space, ends of lines, and comments; whether a comment has begun. -/
def skipLinesIn (comment : Bool) : List Char → List Char
  | [] => []
  | '\n' :: rest => skipLinesIn false rest
  | '\r' :: '\n' :: rest => skipLinesIn false rest
  | char :: rest =>
    if comment then if isPlain char then skipLinesIn true rest else char :: rest
    else if isSpace char then skipLinesIn false rest
    else if char = '#' then skipLinesIn true rest
    else char :: rest

/-- What is left after white space, ends of lines, and comments. -/
def skipLines (chars : List Char) : List Char :=
  skipLinesIn false chars

/-! ### Strings -/

/-- The character that a one-letter escape names. -/
def escaped? : Char → Option Char
  | 'b' => some '\x08'
  | 't' => some '\t'
  | 'n' => some '\n'
  | 'f' => some '\x0c'
  | 'r' => some '\r'
  | '"' => some '"'
  | '\\' => some '\\'
  | _ => none

/-- The character whose number is written in hexadecimal digits, if there is one. -/
def scalar? (digits : List Char) : Option Char := do
  let code := (← digits.mapM hexValue?).foldl (fun code digit => code * 16 + digit) 0
  if code < 0xD800 ∨ (0xE000 ≤ code ∧ code < 0x110000) then some (Char.ofNat code) else none

/-- A character put in front of the text that was read. -/
def andBefore (char : Char) (read : Option (List Char × List Char)) :
    Option (List Char × List Char) :=
  read.map fun (text, rest) => (char :: text, rest)

/-- Read up to the double quote that ends a string of one line. -/
def readBasic : List Char → Option (List Char × List Char)
  | [] => none
  | '"' :: rest => some ([], rest)
  | '\\' :: 'u' :: a :: b :: c :: d :: rest => do
    andBefore (← scalar? [a, b, c, d]) (readBasic rest)
  | '\\' :: 'U' :: a :: b :: c :: d :: e :: f :: g :: h :: rest => do
    andBefore (← scalar? [a, b, c, d, e, f, g, h]) (readBasic rest)
  | '\\' :: letter :: rest => do andBefore (← escaped? letter) (readBasic rest)
  | char :: rest => if isPlain char ∧ char ≠ '\\' then andBefore char (readBasic rest) else none

/-- Up to two more of the quotes that end a string of several lines belong to its text. -/
def closing (quote : Char) : List Char → List Char × List Char
  | first :: second :: rest =>
    if first = quote then
      if second = quote then ([quote, quote], rest) else ([quote], second :: rest)
    else ([], first :: second :: rest)
  | [last] => if last = quote then ([quote], []) else ([], [last])
  | [] => ([], [])

/-- Read up to the three double quotes that end a string of several lines. A backslash at the end of
a line takes the white space and the ends of lines that follow it out of the text. -/
def readLongBasic (trimming : Bool) : List Char → Option (List Char × List Char)
  | [] => none
  | '"' :: '"' :: '"' :: rest => some (closing '"' rest)
  | '\n' :: rest =>
    if trimming then readLongBasic true rest else andBefore '\n' (readLongBasic false rest)
  | '\r' :: '\n' :: rest =>
    if trimming then readLongBasic true rest else andBefore '\n' (readLongBasic false rest)
  | '\\' :: 'u' :: a :: b :: c :: d :: rest => do
    andBefore (← scalar? [a, b, c, d]) (readLongBasic false rest)
  | '\\' :: 'U' :: a :: b :: c :: d :: e :: f :: g :: h :: rest => do
    andBefore (← scalar? [a, b, c, d, e, f, g, h]) (readLongBasic false rest)
  | '\\' :: letter :: rest =>
    match escaped? letter with
    | some char => andBefore char (readLongBasic false rest)
    | none =>
      if (newline? (skipSpace (letter :: rest))).isSome then readLongBasic true rest else none
  | char :: rest =>
    if trimming && isSpace char then readLongBasic true rest
    else if isPlain char ∧ char ≠ '\\' then andBefore char (readLongBasic false rest)
    else none

/-- Read up to the single quote that ends a literal string of one line. -/
def readLiteral : List Char → Option (List Char × List Char)
  | [] => none
  | '\x27' :: rest => some ([], rest)
  | char :: rest => if isPlain char then andBefore char (readLiteral rest) else none

/-- Read up to the three single quotes that end a literal string of several lines. -/
def readLongLiteral : List Char → Option (List Char × List Char)
  | [] => none
  | '\x27' :: '\x27' :: '\x27' :: rest => some (closing '\x27' rest)
  | '\n' :: rest => andBefore '\n' (readLongLiteral rest)
  | '\r' :: '\n' :: rest => andBefore '\n' (readLongLiteral rest)
  | char :: rest => if isPlain char then andBefore char (readLongLiteral rest) else none

/-- A string of several lines may start on the next line. -/
def skipFirstNewline (chars : List Char) : List Char :=
  (newline? chars).getD chars

/-- Read a string of any form. -/
def readText (chars : List Char) : Option (String × List Char) := do
  let (text, rest) ←
    match chars with
    | '"' :: '"' :: '"' :: rest => readLongBasic false (skipFirstNewline rest)
    | '"' :: rest => readBasic rest
    | '\x27' :: '\x27' :: '\x27' :: rest => readLongLiteral (skipFirstNewline rest)
    | '\x27' :: rest => readLiteral rest
    | _ => none
  return (String.ofList text, rest)

/-! ### Keys -/

/-- The characters of a name that is not quoted. -/
def isBare (char : Char) : Bool :=
  char.isAlphanum || char == '-' || char == '_'

/-- Read one name of a key. -/
def readName (chars : List Char) : Option (String × List Char) := do
  let (name, rest) ←
    match chars with
    | '"' :: rest => readBasic rest
    | '\x27' :: rest => readLiteral rest
    | _ =>
      let name := chars.takeWhile isBare
      if name = [] then none else some (name, chars.dropWhile isBare)
  return (String.ofList name, rest)

/-- Read names with dots between them, at most as many as given. -/
def readNames : Nat → List Char → Option (List String × List Char)
  | 0, _ => none
  | limit + 1, chars => do
    let (name, rest) ← readName (skipSpace chars)
    match skipSpace rest with
    | '.' :: rest => do
      let (names, rest) ← readNames limit rest
      return (name :: names, rest)
    | rest => return ([name], rest)

/-- The greatest number of names in a key, and the greatest depth of a value. -/
def depthLimit : Nat := 79

/-- Read a key. -/
def readKey (chars : List Char) : Option (List String × List Char) :=
  readNames depthLimit chars

end TokenLedger.Toml
