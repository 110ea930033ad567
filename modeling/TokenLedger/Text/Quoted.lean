/-
Texts quoted for messages. A quoted text stands between double quotes on one line; a double quote,
a backslash, the usual line controls and the null character have two-character escapes, and any
other unprintable character is named by its code point in hexadecimal.
-/

import TokenLedger.Text.Unprintable

namespace TokenLedger.Text

/-- How one character appears inside a quoted text. -/
def quoteChar (char : Char) : List Char :=
  match char with
  | '"' => ['\\', '"']
  | '\\' => ['\\', '\\']
  | '\n' => ['\\', 'n']
  | '\r' => ['\\', 'r']
  | '\t' => ['\\', 't']
  | '\x00' => ['\\', '0']
  | _ =>
    if isUnprintable char then
      ['\\', 'u', '\x7b'] ++ Nat.toDigits 16 char.toNat ++ ['\x7d']
    else [char]

/-- A text between double quotes, with everything escaped that would not show. -/
def quoted (text : String) : String :=
  String.ofList (['"'] ++ text.toList.flatMap quoteChar ++ ['"'])

end TokenLedger.Text
