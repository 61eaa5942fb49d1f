import FaxRelay.Toml.Number
import FaxRelay.Toml.Tree

/-!
# Settings documents

A document is a sequence of lines, each of which is empty, holds a key and its
value, or is the header of a table to which the following keys belong. Read, it
is a record; a document that breaks a rule of its format is not read at all.

Values nest to a limited depth. What remains of the text bounds how long a
reader can go on.
-/

set_option autoImplicit false

namespace FaxRelay.Toml

open FaxRelay.Data

/-! ## Values -/

/-- Drops a word from the front of a text. -/
def dropWord? (word : List Char) (text : List Char) : Option (List Char) :=
  if text.take word.length = word then some (text.drop word.length) else none

/-- Takes a value that contains no others. -/
def takeScalar (text : List Char) : Option (Value × List Char) :=
  match text with
  | [] => none
  | first :: _ =>
    if first = '\x22' ∨ first = '\x27' then
      (takeString text).map fun (content, rest) => (.text content, rest)
    else if first = 't' then
      (dropWord? "true".toList text).map fun rest => (.truth true, rest)
    else if first = 'f' then
      (dropWord? "false".toList text).map fun rest => (.truth false, rest)
    else
      ((takeMoment text).map fun rest => (Value.moment, rest)).or <|
        ((takeFractional text).map fun rest => (Value.fraction, rest)).or <|
          (takeInteger text).map fun (value, rest) => (Value.integer value, rest)

mutual

/-- Takes a value behind `depth` enclosing ones. -/
def takeValue : Nat → Nat → List Char → Option (Value × List Char)
  | 0, _, _ => none
  | fuel + 1, depth, text =>
    match text with
    | '[' :: rest =>
      if depth + 1 < depthLimit then
        match skipFill rest with
        | ']' :: rest => some (.list [], rest)
        | rest => (takeItems fuel (depth + 1) rest).map fun (items, rest) => (.list items, rest)
      else none
    | '\x7b' :: rest =>
      if depth + 1 < depthLimit then
        match skipBlanks rest with
        | '\x7d' :: rest => some (.record [], rest)
        | rest =>
          (takePairs fuel (depth + 1) [] rest).map fun (entries, rest) =>
            (.record (Node.fieldsOf entries), rest)
      else none
    | _ => takeScalar text

/-- Takes the items of a list, of which there is at least one, and the closing bracket. -/
def takeItems : Nat → Nat → List Char → Option (List Value × List Char)
  | 0, _, _ => none
  | fuel + 1, depth, text => do
    let (item, rest) ← takeValue fuel depth (skipFill text)
    match skipFill rest with
    | ']' :: rest => return ([item], rest)
    | ',' :: rest =>
      match skipFill rest with
      | ']' :: rest => return ([item], rest)
      | rest =>
        let (items, rest) ← takeItems fuel depth rest
        return (item :: items, rest)
    | _ => none

/-- Takes the pairs of an inline table, of which there is at least one, and the closing brace. -/
def takePairs : Nat → Nat → Entries → List Char → Option (Entries × List Char)
  | 0, _, _, _ => none
  | fuel + 1, depth, entries, text => do
    let (key, rest) ← takeKey (skipBlanks text)
    let rest ← drop? '=' rest
    let (content, rest) ← takeValue fuel depth (skipBlanks rest)
    let entries ← entries.assign key.dropLast (key.getLastD "") content
    match skipBlanks rest with
    | '\x7d' :: rest => return (entries, rest)
    | ',' :: rest => takePairs fuel depth entries rest
    | _ => none

end

/-- Takes a value that stands behind a key of the document. -/
def takeTopValue (text : List Char) : Option (Value × List Char) :=
  takeValue (3 * text.length + 3) 0 text

/-! ## Lines -/

/-- How the table that is being filled was named. -/
inductive Header where
  | root
  | table (path : List String) (name : String)
  | sequence (path : List String) (name : String)

/-- A document half read: the tree so far, without the table that is being filled. -/
structure Draft where
  root : Entries
  header : Header
  current : Entries

/-- A document before its first line. -/
def Draft.empty : Draft := ⟨[], .root, []⟩

/-- The tree with the table that was being filled. -/
def Draft.close (draft : Draft) : Option Entries :=
  match draft.header with
  | .root => some draft.current
  | .table path name => draft.root.closeTable path name draft.current
  | .sequence path name => draft.root.closeSequence path name draft.current

/-- Begins the table that a header names. -/
def Draft.beginTable (draft : Draft) (key : List String) : Option Draft := do
  let root ← draft.close
  let path := key.dropLast
  let name := key.getLastD ""
  let (current, root) ← root.openTable path name
  return ⟨root, .table path name, current⟩

/-- Begins another table of the sequence that a header names. -/
def Draft.beginSequence (draft : Draft) (key : List String) : Option Draft := do
  let root ← draft.close
  let path := key.dropLast
  let name := key.getLastD ""
  let root ← root.openSequence path name
  return ⟨root, .sequence path name, []⟩

/-- Enters a key and its value into the table that is being filled. -/
def Draft.assign (draft : Draft) (key : List String) (content : Value) : Option Draft :=
  (draft.current.assign key.dropLast (key.getLastD "") content).map fun current =>
    { draft with current := current }

/-- Takes one line of a document. -/
def takeLine (draft : Draft) (text : List Char) : Option (Draft × List Char) :=
  match text with
  | '#' :: _ => (dropLineEnd? text).map fun rest => (draft, rest)
  | '\n' :: _ => (dropNewline? text).map fun rest => (draft, rest)
  | '\r' :: _ => (dropNewline? text).map fun rest => (draft, rest)
  | '[' :: '[' :: rest => do
    let (key, rest) ← takeKey rest
    let rest ← drop? ']' rest
    let rest ← drop? ']' rest
    let rest ← dropLineEnd? rest
    let draft ← draft.beginSequence key
    return (draft, rest)
  | '[' :: rest => do
    let (key, rest) ← takeKey rest
    let rest ← drop? ']' rest
    let rest ← dropLineEnd? rest
    let draft ← draft.beginTable key
    return (draft, rest)
  | _ => do
    let (key, rest) ← takeKey text
    let rest ← drop? '=' rest
    let (content, rest) ← takeTopValue (skipBlanks rest)
    let rest ← dropLineEnd? rest
    let draft ← draft.assign key content
    return (draft, rest)

/-- Takes lines until nothing is left, but no more than `fuel` of them. -/
def takeLinesOf : Nat → Draft → List Char → Option Draft
  | 0, _, _ => none
  | fuel + 1, draft, text =>
    match skipBlanks text with
    | [] => some draft
    | text => do
      let (draft, rest) ← takeLine draft text
      takeLinesOf fuel draft rest

/-- The text without the mark for the order of bytes that may stand at its beginning. -/
def dropByteOrderMark : List Char → List Char
  | '\uFEFF' :: rest => rest
  | text => text

/-- Reads a document as a record. -/
def readDocument? (document : String) : Option Value := do
  let text := dropByteOrderMark document.toList
  let draft ← takeLinesOf (text.length + 1) Draft.empty text
  let root ← draft.close
  return .record (Node.fieldsOf root)

end FaxRelay.Toml
