/-!
# Faults of the operating system

The reasons for which opening, using or reading something outside the program
fails, with the numbers and the words that the system has for them.
-/

set_option autoImplicit false

namespace FaxRelay

/-- A reason given by the operating system. -/
inductive OsFault where
  | noSuchFile
  | wouldBlock
  | permissionDenied
  | notDirectory
  | isDirectory
  | invalidArgument
  | nameTooLong
  | messageTooLong
  | addressInUse
  | addressUnavailable
  deriving DecidableEq, Repr

namespace OsFault

/-- The number of the fault. -/
def number : OsFault → Nat
  | .noSuchFile => 2
  | .wouldBlock => 11
  | .permissionDenied => 13
  | .notDirectory => 20
  | .isDirectory => 21
  | .invalidArgument => 22
  | .nameTooLong => 36
  | .messageTooLong => 90
  | .addressInUse => 98
  | .addressUnavailable => 99

/-- The name of the fault. -/
def name : OsFault → String
  | .noSuchFile => "No such file or directory"
  | .wouldBlock => "Resource temporarily unavailable"
  | .permissionDenied => "Permission denied"
  | .notDirectory => "Not a directory"
  | .isDirectory => "Is a directory"
  | .invalidArgument => "Invalid argument"
  | .nameTooLong => "File name too long"
  | .messageTooLong => "Message too long"
  | .addressInUse => "Address already in use"
  | .addressUnavailable => "Cannot assign requested address"

/-- The text in which the fault is reported: its name, then its number. -/
def text (fault : OsFault) : String := s!"{fault.name} (os error {fault.number})"

/-- The faults that opening or reading a file can meet. -/
def ofFiles : List OsFault :=
  [.noSuchFile, .permissionDenied, .notDirectory, .isDirectory, .invalidArgument, .nameTooLong]

end OsFault

end FaxRelay
