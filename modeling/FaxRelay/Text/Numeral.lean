/-!
# Numerals

Decimal numbers as they stand in addresses, ports, arguments and settings. A
run of digits may begin with zeros unless the reader of it says otherwise; its
value must stay below the limit of the place it is read for. Printing uses the
shortest decimal form, whose digits denote the number that was printed.
-/

set_option autoImplicit false

namespace FaxRelay.Text

/-- The longest run of decimal digits at the start of a text, and what follows it. -/
def splitDigits (text : List Char) : List Char × List Char :=
  (text.takeWhile Char.isDigit, text.dropWhile Char.isDigit)

/-- The number that a run of decimal digits denotes. -/
def digitsValue (digits : List Char) : Nat := Nat.ofDigitChars 10 digits 0

/-- Reads a nonempty run of decimal digits whose value is below `limit`. -/
def natBelow? (limit : Nat) (digits : List Char) : Option Nat :=
  if digits ≠ [] ∧ digits.all Char.isDigit ∧ digitsValue digits < limit then
    some (digitsValue digits)
  else none

/-- Reads a natural number below `limit` that may carry a plus sign. -/
def signedNatBelow? (limit : Nat) : List Char → Option Nat
  | '+' :: digits => natBelow? limit digits
  | digits => natBelow? limit digits

/-- Reads an integer with an optional sign whose magnitude is at most `limit`, below it when
there is no minus sign. -/
def intWithin? (limit : Nat) : List Char → Option Int
  | '-' :: digits => (natBelow? (limit + 1) digits).map fun value => -(value : Int)
  | digits => (signedNatBelow? limit digits).map fun value => (value : Int)

/-- The decimal form of a number. -/
def decimal (value : Nat) : List Char := Nat.toDigits 10 value

/-- The hexadecimal form of a number, filled up with zeros to at least four digits. -/
def hexFour (value : Nat) : List Char :=
  let digits := Nat.toDigits 16 value
  List.replicate (4 - digits.length) '0' ++ digits

/-! ## Printed numbers -/

@[simp] theorem digitsValue_decimal (value : Nat) : digitsValue (decimal value) = value :=
  Nat.ofDigitChars_toDigits (by decide) (by decide)

theorem isDigit_of_mem_decimal {value : Nat} {digit : Char} (member : digit ∈ decimal value) :
    digit.isDigit = true :=
  Nat.isDigit_of_mem_toDigits (by decide) (by decide) member

end FaxRelay.Text
