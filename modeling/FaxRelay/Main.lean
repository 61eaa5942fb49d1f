import FaxRelay.CommandLine
import FaxRelay.Gateway

/-!
# The program

Reads the command line and the settings document that it names, starts a
gateway with them in a network that holds nothing else, and says where it takes
signaling and which address it gives for media. The gateway then runs until it
is asked to stop, and shuts down. A command line, a document or settings that
cannot be used end the program with a message and an exit status.
-/

set_option autoImplicit false

open FaxRelay

/-- What the program prints when the command line does not ask for a gateway. -/
def rejectionText : CommandLine.Rejection → String
  | .help => "Usage: faxgw [-c FILE] [-p PORT] [-i NAME] [-l LEVEL] [--control-ip IP] " ++
      "[--media-ip IP] [--max-sessions COUNT] [--json-logs]"
  | .version => "faxgw 0.1.0"
  | .unknownArgument => "error: unexpected argument"
  | .missingValue => "error: a value is required"
  | .needlessValue => "error: unexpected value"
  | .repeated => "error: an argument cannot be used multiple times"
  | .badValue => "error: invalid value"

/-- The number that the operating system gives a failed action on a file, if it gives one. -/
def systemNumber? : IO.Error → Option UInt32
  | .noFileOrDirectory _ number _ | .permissionDenied _ number _ | .inappropriateType _ number _
  | .invalidArgument _ number _ => some number
  | _ => none

/-- The fault behind a failed action on a file; one that is not known counts as a missing file. -/
def systemFault (failure : IO.Error) : OsFault :=
  (OsFault.ofFiles.find? fun fault =>
    (systemNumber? failure).any fun number => number.toNat = fault.number).getD .noSuchFile

/-- Reads the document at a path. -/
def readDocument (path : String) : IO (Except Files.FileFault String) := do
  if '\x00' ∈ path.toList then
    return .error .zeroInPath
  try
    match String.fromUTF8? (← IO.FS.withFile path .read (·.readBinToEnd)) with
    | some text => return .ok text
    | none => return .error .notText
  catch failure =>
    return .error (.system (systemFault failure))

/-- The settings that the command line asks for. -/
def readSettings (arguments : CommandLine.Arguments) : IO (Except Fault Settings) := do
  match arguments.config with
  | none => return arguments.settings Settings.ofDocument fun _ => .error (.system .noSuchFile)
  | some path =>
    let document ← readDocument path
    return arguments.settings Settings.ofDocument fun _ => document

/-- Ends the program with a message. -/
def failWith (message : String) : IO UInt32 := do
  IO.eprintln s!"Error: {message}"
  return 1

/-- Starts a gateway, says where it is reached, and runs it: one round with each line of the input,
whose end asks it to stop. -/
def serve (settings : Settings) : IO UInt32 := do
  match Gateway.start settings EngineSupply.unfailing Net.Fabric.loopback with
  | .error fault => failWith fault.message
  | .ok gateway =>
    let control := (gateway.controlAddress?.map Net.Endpoint.text).getD "-"
    IO.println s!"signaling {control}"
    IO.println s!"media {gateway.exchange.resources.mediaIp.text}"
    let rounds := (← (← IO.getStdin).lines).size
    let stopped := gateway.run (fun _ => false) rounds
    IO.println s!"sessions left {stopped.statistics.activeSessions}"
    return 0

/-- Acts on the command line. -/
def main (arguments : List String) : IO UInt32 := do
  match CommandLine.Arguments.ofList arguments with
  | .error rejection =>
    if rejection.exitStatus = 0 then IO.println (rejectionText rejection)
    else IO.eprintln (rejectionText rejection)
    return UInt32.ofNat rejection.exitStatus
  | .ok arguments =>
    match arguments.logSettings with
    | .error failure => failWith failure.message
    | .ok _ =>
      match ← readSettings arguments with
      | .error fault => failWith fault.message
      | .ok settings => serve settings
