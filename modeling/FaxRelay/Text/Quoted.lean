import FaxRelay.Text.Unprintable

/-!
# Quoted text

A value that came from outside is shown in a message between double quotes, so
that its ends, its blanks and its unprintable characters can be seen. Quote,
backslash, tab, line feed, carriage return and the zero character have an
escape of two characters; any other character without a printed form is shown
by its code point in hexadecimal; all others stand for themselves. A single
quote is not special.
-/

set_option autoImplicit false

namespace FaxRelay.Text

/-- The written form of one character inside quotes. -/
def quoteCharacter (character : Char) : List Char :=
  match character with
  | '\x00' => ['\\', '0']
  | '\t' => ['\\', 't']
  | '\n' => ['\\', 'n']
  | '\r' => ['\\', 'r']
  | '\\' => ['\\', '\\']
  | '\x22' => ['\\', '\x22']
  | _ =>
    if isPrintable character then [character]
    else ['\\', 'u', '\x7b'] ++ Nat.toDigits 16 character.toNat ++ ['\x7d']

/-- A text between double quotes, each character in its written form. -/
def quote (text : String) : String :=
  String.ofList (['\x22'] ++ text.toList.flatMap quoteCharacter ++ ['\x22'])

end FaxRelay.Text
