import FaxRelay.Fault

/-!
# Failures around the relay

What can go wrong before there is a relay: reading its settings, setting up its
log. A failure is told in words, and each part of the program that it passes
through may add where it happened.
-/

set_option autoImplicit false

namespace FaxRelay

/-- The four sorts of failure, each with its words. -/
inductive Failure where
  | config (text : String)
  | io (text : String)
  | custom (text : String)
  | internal (text : String)
  deriving DecidableEq, Repr

/-- Where something happened: a component, what it was doing, and perhaps with what. -/
structure Circumstance where
  component : String
  operation : String
  details : Option String
  deriving DecidableEq, Repr

/-- The details of a circumstance in parentheses. -/
def Circumstance.detailsText (circumstance : Circumstance) : String :=
  match circumstance.details with
  | none => ""
  | some details => s!" ({details})"

/-- The words for a circumstance. -/
def Circumstance.text (circumstance : Circumstance) : String :=
  s!"in component '{circumstance.component}' during operation '{circumstance.operation}'" ++
    circumstance.detailsText

namespace Failure

/-- The message about a failure. -/
def message : Failure → String
  | .config text => s!"Configuration error: {text}"
  | .io text => s!"I/O error: {text}"
  | .custom text => text
  | .internal text => s!"Internal error: {text}"

/-- A failure in a circumstance. It stays of its sort, but for a failure of the system, whose
whole message becomes part of the words. -/
def within (failure : Failure) (circumstance : Circumstance) : Failure :=
  match failure with
  | .config text => .config s!"{text} [{circumstance.text}]"
  | .internal text => .internal s!"{text} [{circumstance.text}]"
  | .custom text => .custom s!"{text} [{circumstance.text}]"
  | .io _ => .custom s!"{failure.message} [{circumstance.text}]"

/-- A failure as a fault of the relay's settings. -/
def toFault (failure : Failure) : Fault := .settings (.report failure.message)

end Failure

end FaxRelay
