/-
Writing JSON. The compact form has no spaces; the indented form starts a new line for every item and
member, two spaces deeper than the line that opened its container. In strings only the double
quote, the backslash and the characters below the space are escaped.
-/

import TokenLedger.Json.Value

namespace TokenLedger.Json

/-- How one character appears inside a string. -/
def escapeChar (char : Char) : List Char :=
  match char with
  | '"' => ['\\', '"']
  | '\\' => ['\\', '\\']
  | '\x08' => ['\\', 'b']
  | '\x0c' => ['\\', 'f']
  | '\n' => ['\\', 'n']
  | '\r' => ['\\', 'r']
  | '\t' => ['\\', 't']
  | _ =>
    if char.toNat < 0x20 then
      ['\\', 'u', '0', '0'] ++ hexDigits 'a' [UInt8.ofNat char.toNat]
    else [char]

/-- A text as a string literal. -/
def stringChars (text : String) : List Char :=
  ['"'] ++ text.toList.flatMap escapeChar ++ ['"']

namespace Value

def boolChars (value : Bool) : List Char :=
  if value then ['t', 'r', 'u', 'e'] else ['f', 'a', 'l', 's', 'e']

mutual

/-- The compact form of a value. -/
def compactChars : Value → List Char
  | .null => ['n', 'u', 'l', 'l']
  | .bool value => boolChars value
  | .number amount => amount.chars
  | .string text => stringChars text
  | .array items => ['['] ++ compactItems items ++ [']']
  | .object members => ['\x7b'] ++ compactMembers members ++ ['\x7d']
termination_by structural value => value

/-- Items with commas between them. -/
def compactItems : List Value → List Char
  | [] => []
  | item :: rest => compactChars item ++ compactMoreItems rest
termination_by structural items => items

/-- Items with a comma before each. -/
def compactMoreItems : List Value → List Char
  | [] => []
  | item :: rest => [','] ++ compactChars item ++ compactMoreItems rest
termination_by structural items => items

/-- Members with commas between them. -/
def compactMembers : List (String × Value) → List Char
  | [] => []
  | (key, value) :: rest =>
    stringChars key ++ [':'] ++ compactChars value ++ compactMoreMembers rest
termination_by structural members => members

/-- Members with a comma before each. -/
def compactMoreMembers : List (String × Value) → List Char
  | [] => []
  | (key, value) :: rest =>
    [','] ++ stringChars key ++ [':'] ++ compactChars value ++ compactMoreMembers rest
termination_by structural members => members

end

/-- The compact text of a value. -/
def compact (value : Value) : String :=
  String.ofList value.compactChars

/-- A new line at the given depth. -/
def newLine (depth : Nat) : List Char :=
  '\n' :: List.replicate (2 * depth) ' '

mutual

/-- The indented form of a value that starts on a line of the given depth. -/
def indentedChars (depth : Nat) : Value → List Char
  | .null => ['n', 'u', 'l', 'l']
  | .bool value => boolChars value
  | .number amount => amount.chars
  | .string text => stringChars text
  | .array [] => ['[', ']']
  | .array (item :: rest) =>
    ['['] ++ newLine (depth + 1) ++ indentedChars (depth + 1) item ++
      indentedItems (depth + 1) rest ++ newLine depth ++ [']']
  | .object [] => ['\x7b', '\x7d']
  | .object ((key, value) :: rest) =>
    ['\x7b'] ++ newLine (depth + 1) ++ stringChars key ++ [':', ' '] ++
      indentedChars (depth + 1) value ++ indentedMembers (depth + 1) rest ++
      newLine depth ++ ['\x7d']
termination_by structural value => value

/-- Further items, each after a comma on a line of its own. -/
def indentedItems (depth : Nat) : List Value → List Char
  | [] => []
  | item :: rest =>
    [','] ++ newLine depth ++ indentedChars depth item ++ indentedItems depth rest
termination_by structural items => items

/-- Further members, each after a comma on a line of its own. -/
def indentedMembers (depth : Nat) : List (String × Value) → List Char
  | [] => []
  | (key, value) :: rest =>
    [','] ++ newLine depth ++ stringChars key ++ [':', ' '] ++ indentedChars depth value ++
      indentedMembers depth rest
termination_by structural members => members

end

/-- The indented text of a value. -/
def indented (value : Value) : String :=
  String.ofList (value.indentedChars 0)

end Value

end TokenLedger.Json
