/-!
# Plain data

Settings and messages are also exchanged as plain data: nothing, truth values,
numbers, moments in time, texts, lists and records with named fields. This is
what a document reader produces and what the forms of settings and messages
are read from and written to.

A structure is read from a record by the names of its fields, or from a list by
their order. Fields that it does not know are ignored. Whether a list may be
longer than the structure is a convention of the document format.
-/

set_option autoImplicit false

namespace FaxRelay.Data

/-- A piece of plain data. Numbers that are not integers and moments carry no content, because
nothing is read from them. -/
inductive Value where
  | nothing
  | truth (value : Bool)
  | integer (value : Int)
  | fraction
  | moment
  | text (value : String)
  | list (items : List Value)
  | record (fields : List (String × Value))
  deriving Inhabited

/-- What a document format lets pass when a structure is given as a list. -/
structure Convention where
  surplusItems : Bool
  deriving DecidableEq, Repr

/-- Lists have exactly the fields of the structure. -/
def Convention.strict : Convention := ⟨false⟩

/-- Items of a list beyond the fields of the structure are ignored. -/
def Convention.lenient : Convention := ⟨true⟩

/-- The parts of a structure: what was given for each field, and whether the fields were named. -/
structure Parts where
  named : Bool
  lookup : String → Option Value

namespace Value

/-- The truth value that a piece of data is. -/
def truth? : Value → Option Bool
  | truth value => some value
  | _ => none

/-- The text that a piece of data is. -/
def text? : Value → Option String
  | text value => some value
  | _ => none

/-- The natural number below `limit` that a piece of data is. -/
def natBelow? (limit : Nat) : Value → Option Nat
  | integer (.ofNat value) => if value < limit then some value else none
  | _ => none

/-- What was given for the fields of a structure. A moment is a record whose one field no
structure has. -/
def parts? (convention : Convention) (fields : List String) : Value → Option Parts
  | record given => some ⟨true, fun name => given.lookup name⟩
  | list items =>
    if convention.surplusItems || items.length ≤ fields.length then
      some ⟨false, fun name => (fields.zip items).lookup name⟩
    else none
  | moment => some ⟨true, fun _ => none⟩
  | _ => none

/-- Reads a name from a fixed set: a text, or a record whose one field has that name and holds
nothing. -/
def choice? {α : Type} (ofName? : String → Option α) : Value → Option α
  | text name => ofName? name
  | record [(name, nothing)] => ofName? name
  | _ => none

/-- Reads a value that may be absent. -/
def optional? {α : Type} (read? : Value → Option α) : Value → Option (Option α)
  | nothing => some none
  | value => (read? value).map some

end Value

namespace Parts

/-- Reads a field that has to be given. -/
def required {α : Type} (parts : Parts) (name : String) (read? : Value → Option α) : Option α :=
  (parts.lookup name).bind read?

/-- Reads a field that stays as it is when it is not given. -/
def orElse {α : Type} (parts : Parts) (name : String) (read? : Value → Option α)
    (fallback : α) : Option α :=
  match parts.lookup name with
  | some value => read? value
  | none => some fallback

/-- Reads a field that may hold nothing, and that may be left out where fields are named. -/
def optional {α : Type} (parts : Parts) (name : String) (read? : Value → Option α) :
    Option (Option α) :=
  match parts.lookup name with
  | some value => value.optional? read?
  | none => if parts.named then some none else none

end Parts

end FaxRelay.Data
