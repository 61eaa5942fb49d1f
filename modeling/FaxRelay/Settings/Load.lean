import FaxRelay.Failure
import FaxRelay.Files.Fault
import FaxRelay.Settings.Form
import FaxRelay.Toml.Document

/-!
# Settings from a document

Settings are kept in a document that names only what differs from the defaults.
Reading the document, making settings of it and checking them are three steps;
what goes wrong in the first two is reported with the path of the document.

How the text of a document becomes settings is a parameter, since that is the
business of the format. `Settings.ofDocument` is the reader of the one format
that the program knows.
-/

set_option autoImplicit false

namespace FaxRelay

open FaxRelay.Files

/-- The complaint about a document that breaks a rule of its format or of a field. -/
def documentComplaint : String := "<toml>"

namespace Settings

/-- Makes settings of the text of a document (`from_toml_str`). -/
def ofDocument (document : String) : Except Failure Settings :=
  match (Toml.readDocument? document).bind (ofValue? .lenient) with
  | some settings => .ok settings
  | none => .error (.config documentComplaint)

/-- The circumstance of loading a document. -/
def loading (path : String) : Circumstance := ⟨"config", "load", some path⟩

/-- Loads settings from the document at a path (`load_toml`), given how a text is read and what the
path yields. -/
def load (reader : String → Except Failure Settings) (path : String)
    (document : Except FileFault String) : Except Failure Settings :=
  match document with
  | .error cause => .error ((Failure.io cause.text).within (loading path))
  | .ok text =>
    match reader text with
    | .ok settings => .ok settings
    | .error failure => .error (failure.within (loading path))

/-- Loads settings and checks them (`from_file`). -/
def loadValid (reader : String → Except Failure Settings) (path : String)
    (document : Except FileFault String) : Except Fault Settings :=
  match load reader path document with
  | .error failure => .error failure.toFault
  | .ok settings =>
    match settings.validate with
    | .error fault => .error fault
    | .ok () => .ok settings

end Settings

end FaxRelay
