/-!
# Bytes in hexadecimal

Two digits for each byte, the high one first.
-/

set_option autoImplicit false

namespace FaxRelay.Text

/-- The two digits of a byte. -/
def byteDigits (byte : UInt8) : List Char :=
  [Nat.digitChar (byte.toNat / 16), Nat.digitChar (byte.toNat % 16)]

/-- The digits of a sequence of bytes. -/
def hexOfBytes (bytes : List UInt8) : String := String.ofList (bytes.flatMap byteDigits)

/-- The value of a hexadecimal digit in lower case. -/
def digitValue (digit : Char) : Nat :=
  if digit.isDigit then digit.toNat - 48 else digit.toNat - 87

/-- The bytes that a sequence of digits stands for; an odd digit at the end is ignored. -/
def bytesOfHex : List Char → List UInt8
  | high :: low :: rest =>
    UInt8.ofNat (digitValue high * 16 + digitValue low) :: bytesOfHex rest
  | _ => []

end FaxRelay.Text
