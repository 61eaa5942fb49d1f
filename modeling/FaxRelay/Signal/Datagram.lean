import FaxRelay.Signal.Message
import FaxRelay.Net.Fabric

/-!
# Messages in datagrams

A message travels as its line, ended by a carriage return and a line feed, in
at most 256 bytes.

Reading is more lenient than writing: words may be separated by any blanks, the
line may end in blanks, a bare line feed or nothing at all, and ports may carry
leading zeros. It goes in two steps. The type and the call identifier are read
first; what follows is read as the payload of that type. From then on a fault
names the call, so a reply to a malformed request can still be told to whom it
belongs.

One message has no written form: a setup whose mode is unknown, or whose
destination does not fit its mode.
-/

set_option autoImplicit false

namespace FaxRelay.Signal

open FaxRelay.Net

/-- The greatest length of a signaling datagram in bytes, line end included. -/
def maxMessageLength : Nat := 256

/-! ## Faults -/

/-- Why a datagram is no message. -/
inductive ReadFault where
  | empty
  | tooLong (size : Nat)
  | notText
  | noHeader
  | unknownKind (word : String)
  | badCallId (fault : CallId.Fault)
  | badPayload (kind : Kind) (callId : CallId)
  deriving DecidableEq

/-- Why a message has no datagram. -/
inductive WriteFault where
  | unknownMode
  | missingDestination
  | needlessDestination
  | tooLong (kind : Kind) (size : Nat)
  deriving DecidableEq

/-- The call that a malformed datagram was about, as far as it could be read. -/
def ReadFault.callId? : ReadFault → Option CallId
  | .badPayload _ callId => some callId
  | _ => none

/-- The reason for which a datagram is no message, in words. -/
def ReadFault.reason : ReadFault → String
  | .empty => "empty message"
  | .tooLong size => s!"message of {size} bytes exceeds the {maxMessageLength} byte limit"
  | .notText => "message is not valid ASCII"
  | .noHeader => "expected <type> <call-id>"
  | .unknownKind word => s!"unknown message type {Text.quote word}"
  | .badCallId fault => fault.message
  | .badPayload kind _ => s!"malformed {kind.word} payload"

/-- The message about a malformed datagram. -/
def ReadFault.message (fault : ReadFault) : String := s!"Parse error: {fault.reason}"

/-- The reason for which a message has no datagram, in words. -/
def WriteFault.reason : WriteFault → String
  | .unknownMode => "SETUP with unknown fax mode has no wire form"
  | .missingDestination => "gateway-to-gateway SETUP needs a destination"
  | .needlessDestination => "gateway-to-terminal SETUP takes no destination"
  | .tooLong kind size =>
    s!"{kind.word} message is {size} bytes, limit is {maxMessageLength}"

/-- The message about a message without a datagram. -/
def WriteFault.message (fault : WriteFault) : String := s!"Encoding error: {fault.reason}"

/-! ## Writing -/

/-- Why a message has no written form, whatever its length. -/
def Message.writeFault? : Message → Option WriteFault
  | .setup request =>
    match request.mode, request.destination with
    | .unknown, _ => some .unknownMode
    | .gatewayToGateway, none => some .missingDestination
    | .gatewayToTerminal, some _ => some .needlessDestination
    | _, _ => none
  | _ => none

/-- The bytes of a text. -/
def textBytes (text : List Char) : Payload := (String.ofList text).toUTF8.data.toList

/-- The datagram of a message (`serialize_message`). -/
def Message.toDatagram (message : Message) : Except WriteFault Payload :=
  match message.writeFault? with
  | some fault => .error fault
  | none =>
    let bytes := textBytes (message.chars ++ ['\r', '\n'])
    if maxMessageLength < bytes.length then .error (.tooLong message.kind bytes.length)
    else .ok bytes

/-! ## Reading the parts of a line -/

/-- The characters that separate words. -/
def isBlank (character : Char) : Bool := character = ' ' || character = '\t'

/-- Takes a word from the front of a text: the longest run of visible characters. -/
def takeWord? (text : List Char) : Option (List Char × List Char) :=
  let word := text.takeWhile isGraphic
  if word.isEmpty then none else some (word, text.dropWhile isGraphic)

/-- The text behind its leading blanks, of which there is at least one. -/
def dropBlanks? : List Char → Option (List Char)
  | first :: rest => if isBlank first then some (rest.dropWhile isBlank) else none
  | [] => none

/-- Takes a word that follows blanks. -/
def takeSpacedWord? (text : List Char) : Option (List Char × List Char) :=
  (dropBlanks? text).bind takeWord?

/-- Takes an endpoint that follows blanks. -/
def takeSpacedEndpoint? (text : List Char) : Option (Endpoint × List Char) :=
  (dropBlanks? text).bind Endpoint.take?

/-- The ends of a line. -/
def isLineEnd : List Char → Bool
  | [] => true
  | ['\n'] => true
  | ['\r', '\n'] => true
  | _ => false

/-- Whether nothing but blanks and the end of the line is left. -/
def atLineEnd (text : List Char) : Bool := isLineEnd (text.dropWhile isBlank)

/-! ## Reading payloads -/

/-- The destination of a setup and what follows it: absent when no endpoint can be read. -/
def takeDestination (text : List Char) : Option Endpoint × List Char :=
  match takeSpacedEndpoint? text with
  | some (destination, rest) => (some destination, rest)
  | none => (none, text)

/-- Whether a mode goes with the presence of a destination. -/
def FaxMode.allows (mode : FaxMode) (destination : Option Endpoint) : Bool :=
  match mode, destination with
  | .gatewayToGateway, none => false
  | .gatewayToTerminal, some _ => false
  | _, _ => true

/-- Reads the payload of a setup: a mode, a source and perhaps a destination. -/
def setupPayload? (callId : CallId) (text : List Char) : Option Message := do
  let (word, text) ← takeSpacedWord? text
  let (source, text) ← takeSpacedEndpoint? text
  let mode := FaxMode.ofWord (String.ofList word)
  let (destination, text) := takeDestination text
  if atLineEnd text && mode.allows destination then
    some (.setup ⟨callId, mode, source, destination⟩)
  else none

/-- Reads the payload of an acceptance: an endpoint. -/
def okPayload? (callId : CallId) (text : List Char) : Option Message := do
  let (address, text) ← takeSpacedEndpoint? text
  if atLineEnd text then some (.ok callId address) else none

/-- Reads the payload of an error: a word for the complaint. -/
def errorPayload? (callId : CallId) (text : List Char) : Option Message := do
  let (word, text) ← takeSpacedWord? text
  if atLineEnd text then some (.error callId (Complaint.ofWord (String.ofList word))) else none

/-- Reads the payload of a release, which has none. -/
def releasePayload? (callId : CallId) (text : List Char) : Option Message :=
  if atLineEnd text then some (.release callId) else none

/-- Reads what follows the call identifier of a message of the given type. -/
def payload? (kind : Kind) (callId : CallId) (text : List Char) : Option Message :=
  match kind with
  | .setup => setupPayload? callId text
  | .ok => okPayload? callId text
  | .error => errorPayload? callId text
  | .release => releasePayload? callId text

/-! ## Reading a datagram -/

/-- The characters of a datagram, when its bytes are the encoding of a text. -/
def datagramText? (datagram : Payload) : Option (List Char) :=
  (String.fromUTF8? ⟨datagram.toArray⟩).map String.toList

/-- Takes the type and the call identifier, as words, from the front of a line. -/
def takeHeader? (line : List Char) : Option ((List Char × List Char) × List Char) := do
  let (kind, rest) ← takeWord? line
  let (callId, rest) ← takeSpacedWord? rest
  return ((kind, callId), rest)

/-- Reads a line as a message. -/
def Message.ofLine (line : List Char) : Except ReadFault Message :=
  match takeHeader? line with
  | none => .error .noHeader
  | some ((kindWord, callIdWord), rest) =>
    match Kind.ofWord? (String.ofList kindWord) with
    | none => .error (.unknownKind (String.ofList kindWord))
    | some kind =>
      match CallId.ofText (String.ofList callIdWord) with
      | .error fault => .error (.badCallId fault)
      | .ok callId =>
        match payload? kind callId rest with
        | none => .error (.badPayload kind callId)
        | some message => .ok message

/-- Reads a datagram as a message (`parse_message`). -/
def Message.ofDatagram (datagram : Payload) : Except ReadFault Message :=
  if datagram.isEmpty then .error .empty
  else if maxMessageLength < datagram.length then .error (.tooLong datagram.length)
  else
    match datagramText? datagram with
    | none => .error .notText
    | some line => Message.ofLine line

end FaxRelay.Signal
