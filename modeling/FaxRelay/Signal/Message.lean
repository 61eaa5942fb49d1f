import FaxRelay.Net.Address
import FaxRelay.Signal.CallId

/-!
# Signaling messages

Everything that arrives at the control socket or leaves it. A peer asks for a
call with a setup and ends it with a release; the relay answers a setup with
the endpoint of the inbound leg or with an error. A message is a plain value:
it can be built, compared and printed without any call in existence.

The line of a message is its type, its call identifier and the words of its
payload, separated by single spaces.
-/

set_option autoImplicit false

namespace FaxRelay.Signal

open FaxRelay.Net

/-- Between whom a call is relayed. -/
inductive FaxMode where
  | gatewayToGateway
  | gatewayToTerminal
  | unknown
  deriving DecidableEq, Repr

/-- What an error reply complains about. -/
inductive Complaint where
  | internal
  | unknown
  | invalidMessage
  deriving DecidableEq, Repr

/-- The four types of message. -/
inductive Kind where
  | setup
  | ok
  | error
  | release
  deriving DecidableEq, Repr

/-- A request for a call: who it is for, where the media of the asking side is, and where that
of the far side is if the far side is a gateway. -/
structure Setup where
  callId : CallId
  mode : FaxMode
  source : Endpoint
  destination : Option Endpoint
  deriving DecidableEq

/-- A signaling message. -/
inductive Message where
  | setup (request : Setup)
  | ok (callId : CallId) (address : Endpoint)
  | error (callId : CallId) (complaint : Complaint)
  | release (callId : CallId)
  deriving DecidableEq

/-! ## Words -/

/-- The word for a type of message. -/
def Kind.word : Kind → String
  | .setup => "SETUP"
  | .ok => "OK"
  | .error => "ERROR"
  | .release => "RELEASE"

/-- The type that a word names. -/
def Kind.ofWord? : String → Option Kind
  | "SETUP" => some .setup
  | "OK" => some .ok
  | "ERROR" => some .error
  | "RELEASE" => some .release
  | _ => none

/-- The word for a fax mode. -/
def FaxMode.word : FaxMode → String
  | .gatewayToGateway => "GG"
  | .gatewayToTerminal => "GT"
  | .unknown => "UN"

/-- The fax mode that a word names; every other word names the unknown one. -/
def FaxMode.ofWord : String → FaxMode
  | "GG" => .gatewayToGateway
  | "GT" => .gatewayToTerminal
  | _ => .unknown

/-- The word for a complaint. -/
def Complaint.word : Complaint → String
  | .internal => "INTERNAL_ERR"
  | .unknown => "UNKNOWN_ERR"
  | .invalidMessage => "INVALID_MESSAGE"

/-- The complaint that a word names; every other word names the unknown one. -/
def Complaint.ofWord : String → Complaint
  | "INTERNAL_ERR" => .internal
  | "INVALID_MESSAGE" => .invalidMessage
  | _ => .unknown

@[simp] theorem Kind.ofWord?_word (kind : Kind) : Kind.ofWord? kind.word = some kind := by
  cases kind <;> rfl

@[simp] theorem FaxMode.ofWord_word (mode : FaxMode) : FaxMode.ofWord mode.word = mode := by
  cases mode <;> rfl

@[simp] theorem Complaint.ofWord_word (complaint : Complaint) :
    Complaint.ofWord complaint.word = complaint := by
  cases complaint <;> rfl

/-! ## Parts of a message -/

/-- A request that relays a call to another gateway. -/
def Setup.toGateway (callId : CallId) (source destination : Endpoint) : Setup :=
  ⟨callId, .gatewayToGateway, source, some destination⟩

/-- A request that relays a call to a terminal, whose endpoint is not known yet. -/
def Setup.toTerminal (callId : CallId) (source : Endpoint) : Setup :=
  ⟨callId, .gatewayToTerminal, source, none⟩

/-- The type of a message. -/
def Message.kind : Message → Kind
  | .setup _ => .setup
  | .ok _ _ => .ok
  | .error _ _ => .error
  | .release _ => .release

/-- The call that a message is about. -/
def Message.callId : Message → CallId
  | .setup request => request.callId
  | .ok callId _ => callId
  | .error callId _ => callId
  | .release callId => callId

/-- The words that follow the call identifier in the line of a message. -/
def Message.payloadWords : Message → List (List Char)
  | .setup request =>
    [request.mode.word.toList, request.source.chars] ++
      (request.destination.map Endpoint.chars).toList
  | .ok _ address => [address.chars]
  | .error _ complaint => [complaint.word.toList]
  | .release _ => []

/-- The line of a message: its words with a space before each but the first. -/
def Message.chars (message : Message) : List Char :=
  message.kind.word.toList ++ ' ' :: message.callId.text.toList ++
    message.payloadWords.flatMap fun word => ' ' :: word

/-- The line of a message as a text. -/
def Message.line (message : Message) : String := String.ofList message.chars

end FaxRelay.Signal
