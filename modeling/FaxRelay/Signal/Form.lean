import FaxRelay.Data.Value
import FaxRelay.Signal.Datagram

/-!
# Messages as plain data

A message as plain data is a record with one field, named for the type of the
message, that holds the record of its parts. Addresses and call identifiers are
texts; the mode and the complaint are names.
-/

set_option autoImplicit false

namespace FaxRelay.Signal

open FaxRelay.Data FaxRelay.Net

/-! ## Names -/

/-- The name of a fax mode in plain data. -/
def FaxMode.name : FaxMode → String
  | .gatewayToGateway => "GatewayToGateway"
  | .gatewayToTerminal => "GatewayToTerminal"
  | .unknown => "Unknown"

/-- The fax mode of a name. -/
def FaxMode.ofName? : String → Option FaxMode
  | "GatewayToGateway" => some .gatewayToGateway
  | "GatewayToTerminal" => some .gatewayToTerminal
  | "Unknown" => some .unknown
  | _ => none

/-- The name of a complaint in plain data. -/
def Complaint.name : Complaint → String
  | .internal => "Internal"
  | .unknown => "Unknown"
  | .invalidMessage => "InvalidMessage"

/-- The complaint of a name. -/
def Complaint.ofName? : String → Option Complaint
  | "Internal" => some .internal
  | "Unknown" => some .unknown
  | "InvalidMessage" => some .invalidMessage
  | _ => none

/-! ## Writing -/

/-- A request for a call as plain data. -/
def Setup.toValue (request : Setup) : Value :=
  .record [
    ("call_id", .text request.callId.text),
    ("mode", .text request.mode.name),
    ("src", .text request.source.text),
    ("dst", (request.destination.map fun address => Value.text address.text).getD .nothing)]

/-- A message as plain data. -/
def Message.toValue : Message → Value
  | .setup request => .record [("Setup", request.toValue)]
  | .ok callId address =>
    .record [("Ok", .record [("call_id", .text callId.text), ("addr", .text address.text)])]
  | .error callId complaint =>
    .record [("Error", .record [("call_id", .text callId.text), ("kind", .text complaint.name)])]
  | .release callId => .record [("Release", .record [("call_id", .text callId.text)])]

/-! ## Reading -/

/-- Reads a call identifier from plain data. -/
def CallId.ofValue? (value : Value) : Option CallId :=
  value.text?.bind fun text => (CallId.ofText text).toOption

/-- Reads an endpoint from plain data. -/
def endpointOfValue? (value : Value) : Option Endpoint := value.text?.bind Endpoint.ofText?

/-- Reads a request for a call from plain data. -/
def Setup.ofValue? (value : Value) : Option Setup := do
  let parts ← value.parts? .strict ["call_id", "mode", "src", "dst"]
  let callId ← parts.required "call_id" CallId.ofValue?
  let mode ← parts.required "mode" (Value.choice? FaxMode.ofName?)
  let source ← parts.required "src" endpointOfValue?
  let destination ← parts.optional "dst" endpointOfValue?
  return ⟨callId, mode, source, destination⟩

/-- Reads the parts of an acceptance from plain data. -/
def okOfValue? (value : Value) : Option Message := do
  let parts ← value.parts? .strict ["call_id", "addr"]
  let callId ← parts.required "call_id" CallId.ofValue?
  let address ← parts.required "addr" endpointOfValue?
  return .ok callId address

/-- Reads the parts of an error from plain data. -/
def errorOfValue? (value : Value) : Option Message := do
  let parts ← value.parts? .strict ["call_id", "kind"]
  let callId ← parts.required "call_id" CallId.ofValue?
  let complaint ← parts.required "kind" (Value.choice? Complaint.ofName?)
  return .error callId complaint

/-- Reads the parts of a release from plain data. -/
def releaseOfValue? (value : Value) : Option Message := do
  let parts ← value.parts? .strict ["call_id"]
  let callId ← parts.required "call_id" CallId.ofValue?
  return .release callId

/-- Reads a message from plain data. -/
def Message.ofValue? : Value → Option Message
  | .record [("Setup", parts)] => (Setup.ofValue? parts).map .setup
  | .record [("Ok", parts)] => okOfValue? parts
  | .record [("Error", parts)] => errorOfValue? parts
  | .record [("Release", parts)] => releaseOfValue? parts
  | _ => none

end FaxRelay.Signal
