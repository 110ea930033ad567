/-
The characters that count as white space in a text written by people.
-/

namespace TokenLedger.Text

/-- The characters with the Unicode property of being white space. -/
def isBlank (char : Char) : Bool :=
  let code := char.toNat
  (0x9 ≤ code && code ≤ 0xD) || code == 0x20 || code == 0x85 || code == 0xA0 || code == 0x1680 ||
    (0x2000 ≤ code && code ≤ 0x200A) || code == 0x2028 || code == 0x2029 || code == 0x202F ||
    code == 0x205F || code == 0x3000

/-- Whether a text consists of white space only. -/
def allBlank (text : String) : Bool :=
  text.toList.all isBlank

end TokenLedger.Text
