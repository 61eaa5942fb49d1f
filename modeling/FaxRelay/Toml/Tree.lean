import FaxRelay.Data.Value

/-!
# The tree of a settings document

A document fills a tree of named entries. An entry is a finished value, a table,
or a sequence of tables. Tables come into being in three ways: by a header of
their own, implicitly as the parent of something that was named, or by a dotted
key. These ways do not mix: what was named by a header is not reopened by a
dotted key, and what was made by a dotted key is not reopened by a header.

Behind a key that names a sequence of tables, one goes on in its last table.
-/

set_option autoImplicit false

namespace FaxRelay.Toml

open FaxRelay.Data

/-- An entry of the tree. A table knows whether it came about implicitly and whether by a dotted
key. -/
inductive Node where
  | value (content : Value)
  | table (implicit dotted : Bool) (entries : List (String × Node))
  | tables (items : List Node)

/-- The entries of a table. -/
abbrev Entries := List (String × Node)

/-! ## Reading the tree as plain data -/

mutual

/-- The plain data of an entry. -/
def Node.toValue : Node → Value
  | .value content => content
  | .table _ _ entries => .record (Node.fieldsOf entries)
  | .tables items => .list (Node.valuesOf items)

/-- The plain data of the entries of a table. -/
def Node.fieldsOf : List (String × Node) → List (String × Value)
  | [] => []
  | (name, node) :: rest => (name, node.toValue) :: Node.fieldsOf rest

/-- The plain data of a sequence of tables. -/
def Node.valuesOf : List Node → List Value
  | [] => []
  | node :: rest => node.toValue :: Node.valuesOf rest

end

/-! ## Changing the tree -/

/-- Replaces the entry of a name. -/
def Entries.replace (entries : Entries) (name : String) (node : Node) : Entries :=
  entries.map fun entry => if entry.1 = name then (name, node) else entry

/-- Removes the entry of a name. -/
def Entries.remove (entries : Entries) (name : String) : Entries :=
  entries.filter fun entry => entry.1 ≠ name

/-- Goes down along a path and acts on the table at its end, of which the action learns whether
it came about by a dotted key. Tables that are missing on the way are made. On a dotted path only
implicit tables are entered. -/
def Entries.descend {α : Type} (dottedPath : Bool)
    (act : Bool → Entries → Option (α × Entries)) :
    List String → Bool → Entries → Option (α × Entries)
  | [], dotted, entries => act dotted entries
  | name :: path, _, entries =>
    match entries.lookup name with
    | none =>
      (Entries.descend dottedPath act path dottedPath []).map fun (result, inner) =>
        (result, entries ++ [(name, .table true dottedPath inner)])
    | some (.value _) => none
    | some (.table implicit dotted inner) =>
      if dottedPath && !implicit then none
      else
        (Entries.descend dottedPath act path dotted inner).map fun (result, inner) =>
          (result, entries.replace name (.table implicit dotted inner))
    | some (.tables items) =>
      match items.getLast? with
      | some (.table implicit dotted inner) =>
        (Entries.descend dottedPath act path dotted inner).map fun (result, inner) =>
          (result,
            entries.replace name (.tables (items.dropLast ++ [.table implicit dotted inner])))
      | _ => none

/-- Enters a value under a key into a table that is not dotted itself. A key of several parts
ends in a table made by dotted keys; no name is given twice. -/
def Entries.assign (entries : Entries) (path : List String) (name : String) (content : Value) :
    Option Entries :=
  let act (dotted : Bool) (inner : Entries) : Option (Unit × Entries) :=
    if dotted = path.isEmpty then none
    else if (inner.lookup name).isSome then none
    else some ((), inner ++ [(name, .value content)])
  (Entries.descend (!path.isEmpty) act path false entries).map Prod.snd

/-- Takes the table that a header names out of the tree, if it is there implicitly; a table of
any other origin is not opened again. -/
def Entries.openTable (root : Entries) (path : List String) (name : String) :
    Option (Entries × Entries) :=
  let act (_ : Bool) (parent : Entries) : Option (Entries × Entries) :=
    match parent.lookup name with
    | none => some ([], parent)
    | some (.table true false inner) => some (inner, parent.remove name)
    | some _ => none
  root.descend false act path false

/-- Whether another table can be appended to the sequence that a header names. -/
def Entries.openSequence (root : Entries) (path : List String) (name : String) :
    Option Entries :=
  let act (_ : Bool) (parent : Entries) : Option (Unit × Entries) :=
    match parent.lookup name with
    | none => some ((), parent ++ [(name, .tables [])])
    | some (.tables _) => some ((), parent)
    | some _ => none
  (root.descend false act path false).map Prod.snd

/-- Puts a finished table where its header names it. -/
def Entries.closeTable (root : Entries) (path : List String) (name : String) (table : Entries) :
    Option Entries :=
  let act (_ : Bool) (parent : Entries) : Option (Unit × Entries) :=
    if (parent.lookup name).isSome then none
    else some ((), parent ++ [(name, .table false false table)])
  (root.descend false act path false).map Prod.snd

/-- Appends a finished table to the sequence that its header names. -/
def Entries.closeSequence (root : Entries) (path : List String) (name : String)
    (table : Entries) : Option Entries :=
  let act (_ : Bool) (parent : Entries) : Option (Unit × Entries) :=
    match parent.lookup name with
    | some (.tables items) =>
      some ((), parent.replace name (.tables (items ++ [.table false false table])))
    | _ => none
  (root.descend false act path false).map Prod.snd

end FaxRelay.Toml
