import FaxRelay.OsFault

/-!
# Why a file cannot be read

A path with a zero character never reaches the operating system, because the
system takes that character for the end of the path. Everything else about a
path is for the system to judge, and what a file holds has to be text.
-/

set_option autoImplicit false

namespace FaxRelay.Files

/-- Why the text of a file cannot be had. -/
inductive FileFault where
  | zeroInPath
  | system (cause : OsFault)
  | notText
  deriving DecidableEq, Repr

/-- The text in which the fault is reported. -/
def FileFault.text : FileFault → String
  | .zeroInPath => "file name contained an unexpected NUL byte"
  | .system cause => cause.text
  | .notText => "stream did not contain valid UTF-8"

end FaxRelay.Files
