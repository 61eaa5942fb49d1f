import FaxRelay.Toml.Lexeme

/-!
# Numbers and moments of a settings document

Integers are decimal, or hexadecimal, octal or binary behind a marker; they fit
64 bits with a sign. Digits may be grouped by single underscores. Of a number
with a fraction or an exponent only its correctness matters, and of a moment
that the date exists and the time of day does.
-/

set_option autoImplicit false

namespace FaxRelay.Toml

/-! ## Runs of digits -/

/-- Takes further digits, each of which may have one underscore before it. -/
def takeMoreDigits (isDigit : Char → Bool) : List Char → Option (List Char × List Char)
  | [] => some ([], [])
  | '_' :: [] => none
  | '_' :: digit :: rest =>
    if isDigit digit then
      (takeMoreDigits isDigit rest).map fun (digits, rest) => (digit :: digits, rest)
    else none
  | first :: rest =>
    if isDigit first then
      (takeMoreDigits isDigit rest).map fun (digits, rest) => (first :: digits, rest)
    else some ([], first :: rest)

/-- Takes a run of digits that begins with a digit. -/
def takeDigits (isDigit : Char → Bool) : List Char → Option (List Char × List Char)
  | [] => none
  | first :: rest =>
    if isDigit first then
      (takeMoreDigits isDigit rest).map fun (digits, rest) => (first :: digits, rest)
    else none

/-- Takes a sign; it is negative or not. -/
def takeSign : List Char → Bool × List Char
  | '-' :: rest => (true, rest)
  | '+' :: rest => (false, rest)
  | text => (false, text)

/-- Takes the digits of a decimal integer: a zero alone, or a run without leading zeros. -/
def takeDecimal : List Char → Option (List Char × List Char)
  | '0' :: rest => some (['0'], rest)
  | text => takeDigits Char.isDigit text

/-! ## Integers -/

/-- One more than the greatest integer. -/
def integerLimit : Nat := Nat.pow 2 63

/-- An integer from its sign and its magnitude, if it fits. -/
def integer? (negative : Bool) (magnitude : Nat) : Option Int :=
  if negative then if magnitude ≤ integerLimit then some (-(magnitude : Int)) else none
  else if magnitude < integerLimit then some magnitude else none

/-- Whether a character is a digit of a base up to sixteen. -/
def isDigitOf (base : Nat) (character : Char) : Bool :=
  ((hexValue? character).map fun value => decide (value < base)).getD false

/-- Takes the digits of an integer in a base. -/
def takeInBase (base : Nat) (text : List Char) : Option (Int × List Char) := do
  let (digits, rest) ← takeDigits (isDigitOf base) text
  let value ← integer? false (digitsIn base digits)
  return (value, rest)

/-- Takes an integer. -/
def takeInteger (text : List Char) : Option (Int × List Char) :=
  match text with
  | '0' :: 'x' :: rest => takeInBase 16 rest
  | '0' :: 'o' :: rest => takeInBase 8 rest
  | '0' :: 'b' :: rest => takeInBase 2 rest
  | _ => do
    let (negative, rest) := takeSign text
    let (digits, rest) ← takeDecimal rest
    let value ← integer? negative (digitsIn 10 digits)
    return (value, rest)

/-! ## Numbers with a fraction -/

/-- The places before the point from which on a number is surely out of range. -/
def hugePlaces : Int := 310

/-- The least numerator over one that is out of the range of numbers with a fraction: halfway
from the greatest of them to the next power of two. -/
def fractionLimit : Nat := Nat.pow 2 1024 - Nat.pow 2 970

/-- Whether `mantissa` times ten to the power `exponent` is out of range. -/
def isOutOfRange (mantissa : Nat) (exponent : Int) : Bool :=
  let places : Int := (Nat.toDigits 10 mantissa).length + exponent
  if mantissa = 0 then false
  else if hugePlaces < places then true
  else if places < hugePlaces - 10 then false
  else if 0 ≤ exponent then fractionLimit ≤ mantissa * Nat.pow 10 exponent.toNat
  else fractionLimit * Nat.pow 10 (-exponent).toNat ≤ mantissa

/-- Takes an exponent. -/
def takeExponent : List Char → Option (Int × List Char)
  | [] => none
  | first :: rest =>
    if first = 'e' ∨ first = 'E' then do
      let (negative, rest) := takeSign rest
      let (digits, rest) ← takeDigits Char.isDigit rest
      let magnitude : Int := digitsIn 10 digits
      return (if negative then -magnitude else magnitude, rest)
    else none

/-- Takes the digits of a fraction. -/
def takeFraction : List Char → Option (List Char × List Char)
  | '.' :: rest => takeDigits Char.isDigit rest
  | _ => none

/-- Whether a text goes on with an exponent. -/
def startsExponent : List Char → Bool
  | 'e' :: _ => true
  | 'E' :: _ => true
  | _ => false

/-- Takes the fraction, the exponent or both that follow the integer part of a number. -/
def takeFractionExponent (text : List Char) : Option ((List Char × Int) × List Char) :=
  match text with
  | '.' :: _ => do
    let (fraction, rest) ← takeFraction text
    if startsExponent rest then
      let (exponent, rest) ← takeExponent rest
      return ((fraction, exponent), rest)
    else return ((fraction, 0), rest)
  | _ => do
    let (exponent, rest) ← takeExponent text
    return (([], exponent), rest)

/-- Takes the word for infinity or for no number. -/
def takeSpecial (text : List Char) : Option (List Char) :=
  if text.take 3 = ['i', 'n', 'f'] ∨ text.take 3 = ['n', 'a', 'n'] then some (text.drop 3) else none

/-- Takes a number with a fraction, an exponent or both, or a special one. A positive number that
is out of range is refused. -/
def takeFractional (text : List Char) : Option (List Char) :=
  let (negative, unsigned) := takeSign text
  let finite : Option (List Char) := do
    let (whole, rest) ← takeDecimal unsigned
    let ((fraction, exponent), rest) ← takeFractionExponent rest
    let mantissa := digitsIn 10 (whole ++ fraction)
    if !negative && isOutOfRange mantissa (exponent - fraction.length) then none
    else return rest
  finite.or (takeSpecial unsigned)

/-! ## Moments -/

/-- Takes a number of exactly `count` digits that lies between two bounds. -/
def takeFixed (count low high : Nat) (text : List Char) : Option (Nat × List Char) :=
  let digits := text.take count
  let value := digitsIn 10 digits
  if digits.length = count ∧ digits.all Char.isDigit ∧ low ≤ value ∧ value ≤ high then
    some (value, text.drop count)
  else none

/-- Drops a given character. -/
def drop? (character : Char) : List Char → Option (List Char)
  | first :: rest => if first = character then some rest else none
  | [] => none

/-- Whether a year has a leap day. -/
def isLeapYear (year : Nat) : Bool := year % 4 = 0 && (year % 100 ≠ 0 || year % 400 = 0)

/-- The number of days of a month. -/
def daysIn (year month : Nat) : Nat :=
  if month = 2 then if isLeapYear year then 29 else 28
  else if month = 4 ∨ month = 6 ∨ month = 9 ∨ month = 11 then 30
  else 31

/-- Takes a date. -/
def takeDate (text : List Char) : Option (List Char) := do
  let (year, rest) ← takeFixed 4 0 9999 text
  let rest ← drop? '-' rest
  let (month, rest) ← takeFixed 2 1 12 rest
  let rest ← drop? '-' rest
  let (_, rest) ← takeFixed 2 1 (daysIn year month) rest
  return rest

/-- Takes the fraction of a second, if there is one. -/
def takeSecondFraction (text : List Char) : Option (List Char) :=
  match text with
  | '.' :: rest =>
    if (rest.takeWhile Char.isDigit).isEmpty then none else some (rest.dropWhile Char.isDigit)
  | _ => some text

/-- Takes a time of day. -/
def takeTime (text : List Char) : Option (List Char) := do
  let (_, rest) ← takeFixed 2 0 23 text
  let rest ← drop? ':' rest
  let (_, rest) ← takeFixed 2 0 59 rest
  let rest ← drop? ':' rest
  let (_, rest) ← takeFixed 2 0 60 rest
  takeSecondFraction rest

/-- Takes a time zone, if there is one. -/
def takeZone (text : List Char) : Option (List Char) :=
  match text with
  | [] => some []
  | first :: rest =>
    if first = 'Z' ∨ first = 'z' then some rest
    else if first = '+' ∨ first = '-' then do
      let (_, rest) ← takeFixed 2 0 23 rest
      let rest ← drop? ':' rest
      let (_, rest) ← takeFixed 2 0 59 rest
      return rest
    else some text

/-- Takes the time of day behind a date, with its time zone. -/
def takeTimeOfDate (text : List Char) : Option (List Char) :=
  match text with
  | [] => none
  | first :: rest =>
    if first = 'T' ∨ first = 't' ∨ first = ' ' then (takeTime rest).bind takeZone else none

/-- Takes a moment: a date, a date with a time of day, or a time of day. -/
def takeMoment (text : List Char) : Option (List Char) :=
  match takeDate text with
  | some rest => some ((takeTimeOfDate rest).getD rest)
  | none => takeTime text

end FaxRelay.Toml
