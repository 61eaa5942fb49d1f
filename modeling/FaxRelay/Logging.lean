import FaxRelay.Failure
import FaxRelay.Text.Numeral

/-!
# Log settings

How much is logged and in which form. A level is named by its usual name, by
the short name of two of the severities, or by its number, from one for errors
to five for traces.
-/

set_option autoImplicit false

namespace FaxRelay

/-- The levels of a log, from the most to the least severe. -/
inductive LogLevel where
  | error
  | warn
  | info
  | debug
  | trace
  deriving DecidableEq, Repr

/-- The settings of a log. -/
structure LogSettings where
  level : LogLevel
  json : Bool := false
  fileInfo : Bool := false
  spans : Bool := false
  appName : String
  deriving DecidableEq, Repr

namespace LogLevel

/-- The name of a level. -/
def name : LogLevel → String
  | .error => "ERROR"
  | .warn => "WARN"
  | .info => "INFO"
  | .debug => "DEBUG"
  | .trace => "TRACE"

/-- The level of a number. -/
def ofNumber? : Nat → Option LogLevel
  | 1 => some .error
  | 2 => some .warn
  | 3 => some .info
  | 4 => some .debug
  | 5 => some .trace
  | _ => none

/-- The level of a word in lower case. -/
def ofWord? : String → Option LogLevel
  | "err" => some .error
  | "debg" => some .debug
  | "error" => some .error
  | "warn" => some .warn
  | "info" => some .info
  | "debug" => some .debug
  | "trace" => some .trace
  | word => (Text.signedNatBelow? UInt64.size word.toList).bind ofNumber?

/-- A text with the capital letters of ASCII made small. -/
def lowerCase (text : String) : String := String.ofList (text.toList.map Char.toLower)

/-- Reads a level in any case. -/
def ofText (text : String) : Except Failure LogLevel :=
  match ofWord? (lowerCase text) with
  | some level => .ok level
  | none => .error (.config s!"Invalid log level: {text}")

end LogLevel

namespace LogSettings

/-- The plain log of an application. -/
def plain (level : LogLevel) (appName : String) : LogSettings := { level, appName }

/-- Sets up the log. There is only one, so this fails when it was set up before. -/
def install (_settings : LogSettings) (installed : Bool) : Except Failure Unit :=
  if installed then .error (.config "Failed to install log subscriber") else .ok ()

end LogSettings

end FaxRelay
