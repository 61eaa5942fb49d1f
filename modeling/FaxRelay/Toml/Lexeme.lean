import FaxRelay.Text.Numeral

/-!
# Lexemes of a settings document

The smallest parts of a document: blanks, line ends and comments, keys, and the
four kinds of string. Every reader takes what it understands from the front of
the text and hands back the rest; it gives nothing when the text cannot go on
in that way.

A comment and a string hold no control characters but the tab, and a line ends
in a line feed with or without a carriage return before it.
-/

set_option autoImplicit false

namespace FaxRelay.Toml

/-! ## Blanks, lines and comments -/

/-- The blanks within a line. -/
def isBlank (character : Char) : Bool := character = ' ' || character = '\t'

/-- Drops blanks. -/
def skipBlanks (text : List Char) : List Char := text.dropWhile isBlank

/-- The characters beyond ASCII. -/
def isForeign (character : Char) : Bool := 0x80 ≤ character.toNat

/-- The characters of a comment. -/
def isCommentChar (character : Char) : Bool :=
  character = '\t' || (0x20 ≤ character.toNat && character.toNat ≤ 0x7E) || isForeign character

/-- The text behind the end of a line, if it begins with one. -/
def dropNewline? : List Char → Option (List Char)
  | '\n' :: rest => some rest
  | '\r' :: '\n' :: rest => some rest
  | _ => none

/-- Drops a comment, up to the end of its line. -/
def skipComment : List Char → List Char
  | '#' :: rest => rest.dropWhile isCommentChar
  | text => text

/-- The text behind blanks, a comment and the end of the line or of the document. -/
def dropLineEnd? (text : List Char) : Option (List Char) :=
  match skipComment (skipBlanks text) with
  | [] => some []
  | rest => dropNewline? rest

/-- Drops blanks, line ends and comments, looking at no more than `fuel` of them. -/
def skipFillFrom : Nat → List Char → List Char
  | 0, text => text
  | fuel + 1, text =>
    let text := skipComment (skipBlanks text)
    match dropNewline? text with
    | some rest => skipFillFrom fuel rest
    | none => text

/-- Drops blanks, line ends and comments. -/
def skipFill (text : List Char) : List Char := skipFillFrom text.length text

/-- Drops blanks and line ends, looking at no more than `fuel` of them. -/
def skipSpaceFrom : Nat → List Char → List Char
  | 0, text => text
  | fuel + 1, text =>
    let text := skipBlanks text
    match dropNewline? text with
    | some rest => skipSpaceFrom fuel rest
    | none => text

/-- Drops blanks and line ends. -/
def skipSpace (text : List Char) : List Char := skipSpaceFrom text.length text

/-! ## Escapes -/

/-- The value of a hexadecimal digit. -/
def hexValue? (character : Char) : Option Nat :=
  if character.isDigit then some (character.toNat - 48)
  else if 'a' ≤ character ∧ character ≤ 'f' then some (character.toNat - 87)
  else if 'A' ≤ character ∧ character ≤ 'F' then some (character.toNat - 55)
  else none

/-- The number that a sequence of digits in a base denotes. -/
def digitsIn (base : Nat) (digits : List Char) : Nat :=
  digits.foldl (fun total digit => total * base + (hexValue? digit).getD 0) 0

/-- Takes the character whose code point is written in `count` hexadecimal digits. -/
def takeCodePoint (count : Nat) (text : List Char) : Option (Char × List Char) :=
  let digits := text.take count
  let value := digitsIn 16 digits
  if digits.length = count ∧ digits.all (fun digit => (hexValue? digit).isSome) ∧
      value.isValidChar then
    some (Char.ofNat value, text.drop count)
  else none

/-- Takes what follows a backslash. -/
def takeEscape : List Char → Option (Char × List Char)
  | 'b' :: rest => some ('\x08', rest)
  | 't' :: rest => some ('\t', rest)
  | 'n' :: rest => some ('\n', rest)
  | 'f' :: rest => some ('\x0c', rest)
  | 'r' :: rest => some ('\r', rest)
  | '\x22' :: rest => some ('\x22', rest)
  | '\\' :: rest => some ('\\', rest)
  | 'u' :: rest => takeCodePoint 4 rest
  | 'U' :: rest => takeCodePoint 8 rest
  | _ => none

/-! ## Strings -/

/-- The characters that stand for themselves between double quotes. -/
def isBasicChar (character : Char) : Bool :=
  isCommentChar character && character ≠ '\x22' && character ≠ '\\'

/-- The characters between single quotes. -/
def isLiteralChar (character : Char) : Bool :=
  isCommentChar character && character ≠ '\x27'

/-- Takes the rest of a string between double quotes, behind the first one. -/
def takeBasicFrom : Nat → List Char → Option (List Char × List Char)
  | 0, _ => none
  | _ + 1, [] => none
  | fuel + 1, first :: rest =>
    if first = '\x22' then some ([], rest)
    else if first = '\\' then do
      let (character, rest) ← takeEscape rest
      let (characters, rest) ← takeBasicFrom fuel rest
      return (character :: characters, rest)
    else if isBasicChar first then do
      let (characters, rest) ← takeBasicFrom fuel rest
      return (first :: characters, rest)
    else none

/-- Takes a string between double quotes. -/
def takeBasic : List Char → Option (List Char × List Char)
  | '\x22' :: rest => takeBasicFrom (rest.length + 1) rest
  | _ => none

/-- Takes a string between single quotes. -/
def takeLiteral : List Char → Option (List Char × List Char)
  | '\x27' :: rest =>
    match rest.dropWhile isLiteralChar with
    | '\x27' :: after => some (rest.takeWhile isLiteralChar, after)
    | _ => none
  | _ => none

/-- How a string of several lines ends: a run of three to five quotes closes it, and those before
the last three belong to it. A shorter run belongs to it wholly and does not close it. -/
inductive QuoteRun where
  | inside (count : Nat)
  | closing (count : Nat)
  | excessive

/-- What a run of `count` quotes is. -/
def quoteRun (count : Nat) : QuoteRun :=
  if count < 3 then .inside count else if count ≤ 5 then .closing (count - 3) else .excessive

/-- The rest of a text after a backslash at the end of a line: everything up to the next
character that is neither blank nor line end. -/
def dropContinuation? (text : List Char) : Option (List Char) :=
  (dropNewline? (skipBlanks text)).map skipSpace

/-- Takes the rest of a string of several lines, behind the opening quotes. Escapes are read
where the quote is a double one. -/
def takeLinesFrom (quote : Char) : Nat → List Char → Option (List Char × List Char)
  | 0, _ => none
  | _ + 1, [] => none
  | fuel + 1, first :: rest =>
    if first = quote then
      let run := ((first :: rest).takeWhile (· == quote)).length
      let rest := (first :: rest).dropWhile (· == quote)
      match quoteRun run with
      | .closing count => some (List.replicate count quote, rest)
      | .inside count => do
        let (characters, rest) ← takeLinesFrom quote fuel rest
        return (List.replicate count quote ++ characters, rest)
      | .excessive => none
    else if first = '\\' ∧ quote = '\x22' then
      match dropContinuation? rest with
      | some rest => takeLinesFrom quote fuel rest
      | none => do
        let (character, rest) ← takeEscape rest
        let (characters, rest) ← takeLinesFrom quote fuel rest
        return (character :: characters, rest)
    else if isCommentChar first then do
      let (characters, rest) ← takeLinesFrom quote fuel rest
      return (first :: characters, rest)
    else do
      let rest ← dropNewline? (first :: rest)
      let (characters, rest) ← takeLinesFrom quote fuel rest
      return ('\n' :: characters, rest)

/-- Takes a string of several lines between triple quotes; a line end right behind the opening
quotes does not belong to it. -/
def takeLines (quote : Char) (text : List Char) : Option (List Char × List Char) :=
  if text.take 3 = [quote, quote, quote] then
    let body := text.drop 3
    takeLinesFrom quote (body.length + 1) ((dropNewline? body).getD body)
  else none

/-- Takes a string of any kind. -/
def takeString (text : List Char) : Option (String × List Char) := do
  let (characters, rest) ←
    (takeLines '\x22' text).or <|
      if text.take 3 = ['\x22', '\x22', '\x22'] then none
      else (takeBasic text).or <|
        (takeLines '\x27' text).or <|
          if text.take 3 = ['\x27', '\x27', '\x27'] then none else takeLiteral text
  return (String.ofList characters, rest)

/-! ## Keys -/

/-- The characters of a key without quotes. -/
def isBareKeyChar (character : Char) : Bool :=
  character.isAlphanum || character = '-' || character = '_'

/-- Takes one part of a key. -/
def takeKeyPart (text : List Char) : Option (String × List Char) :=
  match text with
  | '\x22' :: _ => (takeBasic text).map fun (part, rest) => (String.ofList part, rest)
  | '\x27' :: _ => (takeLiteral text).map fun (part, rest) => (String.ofList part, rest)
  | _ =>
    let part := text.takeWhile isBareKeyChar
    if part.isEmpty then none else some (String.ofList part, text.dropWhile isBareKeyChar)

/-- The greatest depth to which values nest and keys have parts. -/
def depthLimit : Nat := 80

/-- Takes the parts of a key, separated by dots with blanks around them. -/
def takeKeyFrom : Nat → List Char → Option (List String × List Char)
  | 0, _ => none
  | fuel + 1, text => do
    let (part, rest) ← takeKeyPart (skipBlanks text)
    match skipBlanks rest with
    | '.' :: rest =>
      let (parts, rest) ← takeKeyFrom fuel rest
      return (part :: parts, rest)
    | rest => return ([part], rest)

/-- Takes a key and the blanks behind it. A key has fewer parts than the depth limit. -/
def takeKey (text : List Char) : Option (List String × List Char) :=
  takeKeyFrom (depthLimit - 1) text

end FaxRelay.Toml
