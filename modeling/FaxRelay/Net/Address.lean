import FaxRelay.Text.Numeral

/-!
# Addresses of sockets

An internet address of four octets, and an endpoint: an address with a port.
Written, the octets are decimal numbers between dots and the port follows a
colon. Reading is strict about octets, which carry no superfluous zeros, and
lenient about ports, which may.

A reader takes what it understands from the front of a text and hands back the
rest, so the same reader serves inside a message and for a whole text.
-/

set_option autoImplicit false

namespace FaxRelay.Net

open FaxRelay.Text

/-- An internet address of four octets. -/
structure Ipv4 where
  first : UInt8
  second : UInt8
  third : UInt8
  fourth : UInt8
  deriving DecidableEq, Repr, Inhabited

/-- An address together with a port: where one socket is reached. -/
structure Endpoint where
  ip : Ipv4
  port : UInt16
  deriving DecidableEq, Repr, Inhabited

namespace Ipv4

/-- The address of this host as seen by itself. -/
def loopback : Ipv4 := ⟨127, 0, 0, 1⟩

/-- The address that stands for every address of this host. -/
def unspecified : Ipv4 := ⟨0, 0, 0, 0⟩

end Ipv4

/-! ## Written form -/

/-- The decimal form of an octet. -/
def octetChars (octet : UInt8) : List Char := decimal octet.toNat

/-- The dotted form of an address. -/
def Ipv4.chars (ip : Ipv4) : List Char :=
  octetChars ip.first ++ '.' :: octetChars ip.second ++ '.' :: octetChars ip.third ++
    '.' :: octetChars ip.fourth

/-- The dotted form of an address and its port after a colon. -/
def Endpoint.chars (endpoint : Endpoint) : List Char :=
  endpoint.ip.chars ++ ':' :: decimal endpoint.port.toNat

/-- The dotted form of an address as a text. -/
def Ipv4.text (ip : Ipv4) : String := String.ofList ip.chars

/-- The written form of an endpoint as a text. -/
def Endpoint.text (endpoint : Endpoint) : String := String.ofList endpoint.chars

/-! ## Reading -/

/-- The rest of a text that begins with the given character. -/
def dropChar? (character : Char) : List Char → Option (List Char)
  | first :: rest => if first = character then some rest else none
  | [] => none

/-- Reads a run of digits as an octet: at most 255, and without superfluous zeros. -/
def octet? (digits : List Char) : Option UInt8 :=
  if digits.head? = some '0' ∧ digits ≠ ['0'] then none
  else (natBelow? 256 digits).map UInt8.ofNat

/-- Reads a run of digits as a port: below 65536, and any number of leading zeros. -/
def port? (digits : List Char) : Option UInt16 := (natBelow? 65536 digits).map UInt16.ofNat

/-- Takes an octet from the front of a text. -/
def takeOctet? (text : List Char) : Option (UInt8 × List Char) :=
  (octet? (splitDigits text).1).map fun octet => (octet, (splitDigits text).2)

/-- Takes an octet that follows a dot. -/
def takeDotOctet? (text : List Char) : Option (UInt8 × List Char) :=
  (dropChar? '.' text).bind takeOctet?

/-- Takes a dotted address from the front of a text. -/
def Ipv4.take? (text : List Char) : Option (Ipv4 × List Char) := do
  let (first, text) ← takeOctet? text
  let (second, text) ← takeDotOctet? text
  let (third, text) ← takeDotOctet? text
  let (fourth, text) ← takeDotOctet? text
  return (⟨first, second, third, fourth⟩, text)

/-- Takes an endpoint from the front of a text: a dotted address, a colon and a port. -/
def Endpoint.take? (text : List Char) : Option (Endpoint × List Char) := do
  let (ip, text) ← Ipv4.take? text
  let text ← dropChar? ':' text
  let port ← port? (splitDigits text).1
  return (⟨ip, port⟩, (splitDigits text).2)

/-- What a reader took when it took the whole text. -/
def whole? {α : Type} : Option (α × List Char) → Option α
  | some (value, []) => some value
  | _ => none

/-- Reads a whole text as a dotted address. -/
def Ipv4.ofText? (text : String) : Option Ipv4 := whole? (Ipv4.take? text.toList)

/-- Reads a whole text as an endpoint. -/
def Endpoint.ofText? (text : String) : Option Endpoint := whole? (Endpoint.take? text.toList)

end FaxRelay.Net
