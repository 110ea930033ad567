/-
Numbers, dates and times in TOML documents. Between two digits of a number there may be an
underscore. Integers have 64 bits and a sign; other numbers have to be below the range of doubles.
-/

import TokenLedger.Data.Bytes
import TokenLedger.Number.Binary64
import TokenLedger.Toml.Value

namespace TokenLedger.Toml

/-! ### Digits -/

/-- The further digits of a number, without the underscores between them. -/
def moreDigits (isDigit : Char → Bool) : List Char → List Char × List Char
  | '_' :: digit :: rest =>
    if isDigit digit then
      let (digits, rest) := moreDigits isDigit rest
      (digit :: digits, rest)
    else ([], '_' :: digit :: rest)
  | digit :: rest =>
    if isDigit digit then
      let (digits, rest) := moreDigits isDigit rest
      (digit :: digits, rest)
    else ([], digit :: rest)
  | [] => ([], [])

/-- Read at least one digit. -/
def readDigits (isDigit : Char → Bool) : List Char → Option (List Char × List Char)
  | digit :: rest =>
    if isDigit digit then
      let (digits, rest) := moreDigits isDigit rest
      some (digit :: digits, rest)
    else none
  | [] => none

/-- Read the digits of a decimal integer, of which the first is not zero unless it is the only
one. -/
def readDecimal : List Char → Option (List Char × List Char)
  | '0' :: rest => some (['0'], rest)
  | chars => readDigits Char.isDigit chars

/-- Read a sign, if there is one: whether it is a minus. -/
def readSign : List Char → Bool × List Char
  | '+' :: rest => (false, rest)
  | '-' :: rest => (true, rest)
  | chars => (false, chars)

/-! ### Integers -/

/-- The number that digits stand for. -/
def valueOf (base : Nat) (digits : List Char) : Nat :=
  digits.foldl (fun value digit => value * base + (hexValue? digit).getD 0) 0

/-- An integer of 64 bits with a sign. -/
def ofInt? (value : Int) : Option Value :=
  if Int64.minValue.toInt ≤ value ∧ value ≤ Int64.maxValue.toInt then some (.integer value)
  else none

/-- Read an integer in a base that its first two characters have told. -/
def readBased (base : Nat) (isDigit : Char → Bool) (chars : List Char) :
    Option (Value × List Char) := do
  let (digits, rest) ← readDigits isDigit chars
  return (← ofInt? (valueOf base digits), rest)

/-- Read an integer. -/
def readInteger : List Char → Option (Value × List Char)
  | '0' :: 'x' :: rest => readBased 16 (fun char => (hexValue? char).isSome) rest
  | '0' :: 'o' :: rest => readBased 8 (fun char => '0' ≤ char && char ≤ '7') rest
  | '0' :: 'b' :: rest => readBased 2 (fun char => char == '0' || char == '1') rest
  | chars => do
    let (negative, rest) := readSign chars
    let (digits, rest) ← readDecimal rest
    let magnitude := valueOf 10 digits
    return (← ofInt? (if negative then -magnitude else magnitude), rest)

/-! ### Other numbers -/

/-- Whether digits times a power of ten are beyond the doubles. -/
def isTooLarge (digits : List Char) (power : Int) : Bool :=
  let significand := valueOf 10 digits
  if significand = 0 then false
  else if power + digits.length < -400 then false
  else if 400 < power + (Nat.toDigits 10 significand).length then true
  else
    let numerator := significand * Nat.pow 10 power.toNat
    (Binary64.ofFraction? numerator (Nat.pow 10 (-power).toNat)).isNone

/-- Read an exponent. -/
def readExponent : List Char → Option (Int × List Char)
  | [] => none
  | char :: rest =>
    if char = 'e' ∨ char = 'E' then do
      let (negative, rest) := readSign rest
      let (digits, rest) ← readDigits Char.isDigit rest
      let magnitude := valueOf 10 digits
      return (if negative then -magnitude else magnitude, rest)
    else none

/-- Read what makes a number more than an integer: the digits after its point and its exponent. -/
def readTail (chars : List Char) : Option (List Char × Int × List Char) :=
  match chars with
  | '.' :: rest => do
    let (fraction, rest) ← readDigits Char.isDigit rest
    match readExponent rest with
    | some (exponent, rest) => return (fraction, exponent, rest)
    | none => return (fraction, 0, rest)
  | _ => do
    let (exponent, rest) ← readExponent chars
    return ([], exponent, rest)

/-- What is left after a number that is no integer. Only a number with a minus may be beyond the
doubles. -/
def skipFloat? (chars : List Char) : Option (List Char) :=
  let (negative, rest) := readSign chars
  match rest with
  | 'i' :: 'n' :: 'f' :: rest => some rest
  | 'n' :: 'a' :: 'n' :: rest => some rest
  | _ => do
    let (whole, rest) ← readDecimal rest
    let (fraction, exponent, rest) ← readTail rest
    if !negative && isTooLarge (whole ++ fraction) (exponent - fraction.length) then none
    else some rest

/-! ### Dates and times -/

/-- The number that the first characters, as many as given, are the digits of. -/
def fixedDigits? (count : Nat) (chars : List Char) : Option (Nat × List Char) :=
  let digits := chars.take count
  if digits.length = count ∧ digits.all Char.isDigit then some (valueOf 10 digits, chars.drop count)
  else none

/-- What is left after the given character. -/
def skip? (expected : Char) : List Char → Option (List Char)
  | char :: rest => if char = expected then some rest else none
  | [] => none

/-- The number of days of a month. -/
def daysOfMonth (year month : Nat) : Nat :=
  let leap := year % 4 = 0 ∧ (year % 100 ≠ 0 ∨ year % 400 = 0)
  if month = 2 then if leap then 29 else 28
  else if month = 4 ∨ month = 6 ∨ month = 9 ∨ month = 11 then 30
  else 31

/-- What is left after a date. -/
def skipDate? (chars : List Char) : Option (List Char) := do
  let (year, rest) ← fixedDigits? 4 chars
  let (month, rest) ← fixedDigits? 2 (← skip? '-' rest)
  let (day, rest) ← fixedDigits? 2 (← skip? '-' rest)
  if 1 ≤ month ∧ month ≤ 12 ∧ 1 ≤ day ∧ day ≤ daysOfMonth year month then some rest else none

/-- What is left after hours and minutes. -/
def skipMinutes? (chars : List Char) : Option (List Char) := do
  let (hour, rest) ← fixedDigits? 2 chars
  let (minute, rest) ← fixedDigits? 2 (← skip? ':' rest)
  if hour ≤ 23 ∧ minute ≤ 59 then some rest else none

/-- What is left after a time, which may have a fraction of a second. -/
def skipTime? (chars : List Char) : Option (List Char) := do
  let (second, rest) ← fixedDigits? 2 (← skip? ':' (← skipMinutes? chars))
  if 60 < second then none
  else
    match rest with
    | '.' :: fraction =>
      if fraction.takeWhile Char.isDigit = [] then none
      else some (fraction.dropWhile Char.isDigit)
    | _ => some rest

/-- What is left after the distance from universal time, if there is one. -/
def skipOffset : List Char → Option (List Char)
  | [] => some []
  | char :: rest =>
    if char = 'Z' ∨ char = 'z' then some rest
    else if char = '+' ∨ char = '-' then skipMinutes? rest
    else some (char :: rest)

/-- What is left after the time of a day, if there is one. -/
def skipTimeOfDay (chars : List Char) : List Char :=
  match chars with
  | [] => []
  | char :: rest =>
    if char = 'T' ∨ char = 't' ∨ char = ' ' then
      ((skipTime? rest).bind skipOffset).getD chars
    else chars

/-- What is left after a date, a time, or both. -/
def skipMoment? (chars : List Char) : Option (List Char) :=
  match skipDate? chars with
  | some rest => some (skipTimeOfDay rest)
  | none => skipTime? chars

/-- Read a number, a date or a time. -/
def readNumber (chars : List Char) : Option (Value × List Char) :=
  match skipMoment? chars with
  | some rest => some (.moment, rest)
  | none =>
    match skipFloat? chars with
    | some rest => some (.float, rest)
    | none => readInteger chars

end TokenLedger.Toml
