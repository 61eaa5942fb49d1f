import FaxRelay.Logging
import FaxRelay.Settings.Load

/-!
# The command line

The options name a settings document, override some of its fields, and shape
the log. An option takes its value from behind an equals sign, from the rest of
its cluster of letters, or from the next argument, unless that begins with a
dash. Nothing else is taken: there are no arguments besides options.

An option is settled when the next one begins or the arguments end. Only then
it is noticed that it has no value, was given before, or has a value that does
not fit, in this order; an argument that is not known at all is noticed before
the option in front of it is settled.
-/

set_option autoImplicit false

namespace FaxRelay.CommandLine

open FaxRelay.Files FaxRelay.Net FaxRelay.Text

/-- The options that take a value. -/
inductive Setting where
  | config
  | controlIp
  | controlPort
  | mediaIp
  | interface
  | maxSessions
  | logLevel
  deriving DecidableEq, Repr

/-- The options that take none. -/
inductive Switch where
  | jsonLogs
  | help
  | version
  deriving DecidableEq, Repr

/-- An option of either sort. -/
inductive Name where
  | setting (setting : Setting)
  | switch (switch : Switch)
  deriving DecidableEq, Repr

/-- What the arguments say. -/
structure Arguments where
  config : Option String := none
  controlIp : Option Ipv4 := none
  controlPort : Option UInt16 := none
  mediaIp : Option Ipv4 := none
  interface : Option String := none
  maxSessions : Option UInt64 := none
  logLevel : Option String := none
  jsonLogs : Bool := false
  deriving DecidableEq, Repr

/-- Why arguments are not acted on. Asking for help or for the version is one of the reasons. -/
inductive Rejection where
  | help
  | version
  | unknownArgument
  | missingValue
  | needlessValue
  | repeated
  | badValue
  deriving DecidableEq, Repr

/-- The status with which the program ends. -/
def Rejection.exitStatus : Rejection → Nat
  | .help => 0
  | .version => 0
  | _ => 2

/-! ## Names -/

/-- The option of a long name. -/
def ofLong? : String → Option Name
  | "config" => some (.setting .config)
  | "control-ip" => some (.setting .controlIp)
  | "control-port" => some (.setting .controlPort)
  | "media-ip" => some (.setting .mediaIp)
  | "interface" => some (.setting .interface)
  | "max-sessions" => some (.setting .maxSessions)
  | "log-level" => some (.setting .logLevel)
  | "json-logs" => some (.switch .jsonLogs)
  | "help" => some (.switch .help)
  | "version" => some (.switch .version)
  | _ => none

/-- The option of a letter. -/
def ofShort? : Char → Option Name
  | 'c' => some (.setting .config)
  | 'p' => some (.setting .controlPort)
  | 'i' => some (.setting .interface)
  | 'l' => some (.setting .logLevel)
  | 'h' => some (.switch .help)
  | 'V' => some (.switch .version)
  | _ => none

/-! ## Values -/

/-- Reads a port: an integer, perhaps with a sign, that fits 16 bits. -/
def portValue? (value : String) : Option UInt16 :=
  match intWithin? (Nat.pow 2 63) value.toList with
  | some (.ofNat port) => if port < 65536 then some (UInt16.ofNat port) else none
  | some (.negSucc _) => none
  | none => none

/-- Reads a size, perhaps with a plus sign. -/
def sizeValue? (value : String) : Option UInt64 :=
  (signedNatBelow? UInt64.size value.toList).map UInt64.ofNat

/-- Whether an option was given a value already. -/
def Arguments.has (arguments : Arguments) : Setting → Bool
  | .config => arguments.config.isSome
  | .controlIp => arguments.controlIp.isSome
  | .controlPort => arguments.controlPort.isSome
  | .mediaIp => arguments.mediaIp.isSome
  | .interface => arguments.interface.isSome
  | .maxSessions => arguments.maxSessions.isSome
  | .logLevel => arguments.logLevel.isSome

/-- The arguments with a value for an option that has none yet. -/
def Arguments.put (arguments : Arguments) (setting : Setting) (value : String) :
    Except Rejection Arguments :=
  match setting with
  | .config =>
    if value = "" then .error .missingValue else .ok { arguments with config := some value }
  | .controlIp =>
    match Ipv4.ofText? value with
    | some ip => .ok { arguments with controlIp := some ip }
    | none => .error .badValue
  | .controlPort =>
    match portValue? value with
    | some port => .ok { arguments with controlPort := some port }
    | none => .error .badValue
  | .mediaIp =>
    match Ipv4.ofText? value with
    | some ip => .ok { arguments with mediaIp := some ip }
    | none => .error .badValue
  | .interface => .ok { arguments with interface := some value }
  | .maxSessions =>
    match sizeValue? value with
    | some size => .ok { arguments with maxSessions := some size }
    | none => .error .badValue
  | .logLevel => .ok { arguments with logLevel := some value }

/-- The arguments with a value for an option, which must not have been given before. -/
def Arguments.set (arguments : Arguments) (setting : Setting) (value : String) :
    Except Rejection Arguments :=
  if arguments.has setting then .error .repeated else arguments.put setting value

/-! ## Reading arguments -/

/-- How far the arguments are read: what was settled, and the option that is not settled yet with
its value if that has come. -/
structure Reader where
  settled : Arguments
  open? : Option (Setting × Option String)
  deriving DecidableEq

/-- Settles the option that is open. -/
def Reader.settle (reader : Reader) : Except Rejection Reader :=
  match reader.open? with
  | none => .ok reader
  | some (_, none) => .error .missingValue
  | some (setting, some value) =>
    match reader.settled.set setting value with
    | .ok settled => .ok ⟨settled, none⟩
    | .error rejection => .error rejection

/-- Acts on an option without a value. -/
def Reader.switch (reader : Reader) (switch : Switch) : Except Rejection Reader :=
  match reader.settle with
  | .error rejection => .error rejection
  | .ok reader =>
    match switch with
    | .help => .error .help
    | .version => .error .version
    | .jsonLogs =>
      if reader.settled.jsonLogs then .error .repeated
      else .ok { reader with settled := { reader.settled with jsonLogs := true } }

/-- Begins an option that takes a value; an attached value settles it at once. -/
def Reader.begin (reader : Reader) (setting : Setting) (attached : Option String) :
    Except Rejection Reader :=
  match reader.settle with
  | .error rejection => .error rejection
  | .ok reader =>
    match attached with
    | none => .ok { reader with open? := some (setting, none) }
    | some value =>
      match reader.settled.set setting value with
      | .ok settled => .ok { reader with settled := settled }
      | .error rejection => .error rejection

/-- Reads a long option with what stands behind its equals sign, if it has one. -/
def Reader.long (reader : Reader) (name : String) (attached : Option String) :
    Except Rejection Reader :=
  match ofLong? name, attached with
  | none, _ => .error .unknownArgument
  | some (.switch _), some _ => .error .needlessValue
  | some (.switch switch), none => reader.switch switch
  | some (.setting setting), attached => reader.begin setting attached

/-- What is attached to a letter: the rest of the cluster, without an equals sign before it. -/
def attachedToLetter : List Char → Option String
  | [] => none
  | '=' :: rest => some (String.ofList rest)
  | rest => some (String.ofList rest)

/-- Reads a cluster of letters. -/
def Reader.cluster (reader : Reader) : List Char → Except Rejection Reader
  | [] => .ok reader
  | letter :: rest =>
    match ofShort? letter with
    | none => .error .unknownArgument
    | some (.setting setting) => reader.begin setting (attachedToLetter rest)
    | some (.switch switch) =>
      match reader.switch switch with
      | .ok reader => reader.cluster rest
      | .error rejection => .error rejection

/-- Reads an argument that is no option: the value that an open option waits for. -/
def Reader.plain (reader : Reader) (argument : String) : Except Rejection Reader :=
  match reader.open? with
  | some (setting, none) => .ok { reader with open? := some (setting, some argument) }
  | _ => .error .unknownArgument

/-- Reads one argument. -/
def Reader.step (reader : Reader) (argument : String) : Except Rejection Reader :=
  match argument.toList with
  | '-' :: '-' :: name =>
    let bare := String.ofList (name.takeWhile (· ≠ '='))
    match name.dropWhile (· ≠ '=') with
    | [] => reader.long bare none
    | _ :: value => reader.long bare (some (String.ofList value))
  | '-' :: letter :: rest => reader.cluster (letter :: rest)
  | _ => reader.plain argument

/-- Reads arguments. Behind two dashes there are no options, and nothing else is taken either. -/
def Reader.read (reader : Reader) : List String → Except Rejection Reader
  | [] => reader.settle
  | argument :: rest =>
    if argument = "--" then if rest.isEmpty then reader.settle else .error .unknownArgument
    else
      match reader.step argument with
      | .ok reader => reader.read rest
      | .error rejection => .error rejection

/-- Reads a command line, without the name of the program. -/
def Arguments.ofList (arguments : List String) : Except Rejection Arguments :=
  match (Reader.mk {} none).read arguments with
  | .ok reader => .ok reader.settled
  | .error rejection => .error rejection

/-! ## What the arguments ask for -/

/-- The settings with the overrides of the command line. -/
def Arguments.override (arguments : Arguments) (settings : Settings) : Settings :=
  { settings with
    controlIp := arguments.controlIp.getD settings.controlIp
    controlPort := arguments.controlPort.getD settings.controlPort
    mediaIp := arguments.mediaIp.getD settings.mediaIp
    interface := arguments.interface.or settings.interface
    maxSessions := arguments.maxSessions.getD settings.maxSessions }

/-- The settings before overrides: those of the document that the command line names, which have
to be valid, or else the defaults. -/
def Arguments.baseSettings (arguments : Arguments) (reader : String → Except Failure Settings)
    (document : String → Except FileFault String) : Except Fault Settings :=
  match arguments.config with
  | none => .ok {}
  | some path => Settings.loadValid reader path (document path)

/-- The settings that the command line asks for (`gateway_config`), given how the text of a document
is read and what the paths of documents yield. -/
def Arguments.settings (arguments : Arguments) (reader : String → Except Failure Settings)
    (document : String → Except FileFault String) : Except Fault Settings :=
  match arguments.baseSettings reader document with
  | .error fault => .error fault
  | .ok base =>
    match (arguments.override base).validate with
    | .error fault => .error fault
    | .ok () => .ok (arguments.override base)

/-- The name under which the program logs. -/
def appName : String := "faxgw"

/-- The level of the log when the command line names none. -/
def defaultLogLevel : String := "info"

/-- The log settings that the command line asks for. -/
def Arguments.logSettings (arguments : Arguments) : Except Failure LogSettings :=
  match LogLevel.ofText (arguments.logLevel.getD defaultLogLevel) with
  | .error failure => .error failure
  | .ok level => .ok { LogSettings.plain level appName with json := arguments.jsonLogs }

end FaxRelay.CommandLine
