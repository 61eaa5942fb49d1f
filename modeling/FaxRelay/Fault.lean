import FaxRelay.Net.Address
import FaxRelay.OsFault
import FaxRelay.Signal.Message

/-!
# Faults of the relay

What can go wrong between accepting settings and closing the last call. A fault
is its cause; the words for it are in `Fault.message`. Only two causes show that
the relay broke a rule of its own (`Fault.isInternal`): giving back something
that it does not hold, and giving back something that no pool ever issued.

One cause is no answer that anybody receives: at a product of words that is no
word (`Fault.overflow`) the relay goes down.
-/

set_option autoImplicit false

namespace FaxRelay

open FaxRelay.Net FaxRelay.Signal

/-! ## The nouns that faults speak of -/

/-- What a session is for: signaling, a leg to another gateway, or a leg to a terminal. -/
inductive Role where
  | control
  | gateway
  | terminal
  deriving DecidableEq, Repr

/-- Which side of a call a session is on. -/
inductive Direction where
  | inbound
  | outbound
  deriving DecidableEq, Repr

/-- How far a session has come. -/
inductive Stage where
  | null
  | setup
  | progress
  | complete
  deriving DecidableEq, Repr

/-- The word for a role. -/
def Role.word : Role → String
  | .control => "control"
  | .gateway => "gateway"
  | .terminal => "terminal"

/-- The word for a direction. -/
def Direction.word : Direction → String
  | .inbound => "in"
  | .outbound => "out"

/-- The name of a direction. -/
def Direction.name : Direction → String
  | .inbound => "Inbound"
  | .outbound => "Outbound"

/-- The other side of the call. -/
def Direction.opposite : Direction → Direction
  | .inbound => .outbound
  | .outbound => .inbound

/-- The name of a role. -/
def Role.name : Role → String
  | .control => "Control"
  | .gateway => "Gateway"
  | .terminal => "Terminal"

/-- The name of a stage. -/
def Stage.name : Stage → String
  | .null => "Null"
  | .setup => "Setup"
  | .progress => "Progress"
  | .complete => "Complete"

/-- The number of a session. -/
structure SessionId where
  value : UInt32
  deriving DecidableEq, Repr, Inhabited

/-- The written form of a session's number: hexadecimal, at least four digits. -/
def SessionId.text (id : SessionId) : String := String.ofList (Text.hexFour id.value.toNat)

/-! ## Causes -/

/-- The two kinds of thing that pools issue. -/
inductive PoolKind where
  | sessionId
  | mediaPort
  deriving DecidableEq, Repr

/-- What was attempted with sockets, or to learn where they can be. -/
inductive SocketAction where
  | listInterfaces
  | bind (address : Endpoint)
  | send (destination : Endpoint)
  | receive (session : SessionId)
  deriving DecidableEq, Repr

/-- What a fax engine complains about. -/
inductive EngineFault where
  | unattached
  | refused (reason : String)
  deriving DecidableEq, Repr

/-- How sessions were used against their rules. -/
inductive Misuse where
  | outboundControl
  | inboundTerminal
  | controlOpened (role : Role) (stage : Stage)
  | mediaOpened (role : Role) (stage : Stage)
  | remoteMissing
  | receiveUnbound
  | sendUnbound
  | sendWithoutRemote (session : SessionId)
  | bridgeWithoutPair
  | bridgeRunning
  | bridgeWithoutEngines
  | controlPaired
  | misplaced (role : Role) (slot : Nat)
  | noSlot (slot : Nat)
  | controlReleased
  | noControl
  | noLocalAddress
  deriving DecidableEq, Repr

/-- What settings violate. -/
inductive SettingsFault where
  | tooFewSessions (given : Nat)
  | noSessionIds
  | tooManySessionIds
  | noPorts
  | portsBeyondRange (base count : Nat)
  | portZero
  | smallBuffer (least : Nat)
  | frameSize (given : Nat)
  | noQueue
  | interface (name : String)
  | report (text : String)
  deriving DecidableEq, Repr

/-- What can go wrong in the relay. -/
inductive Fault where
  | exhausted (pool : PoolKind)
  | notOwned (pool : PoolKind) (value : UInt32)
  | outOfRange (pool : PoolKind) (value : UInt32)
  | socket (action : SocketAction) (cause : OsFault)
  | capacity (active limit : Nat)
  | misuse (cause : Misuse)
  | unsupportedMode (mode : FaxMode)
  | duplicateCall (callId : CallId)
  | engine (cause : EngineFault)
  | settings (cause : SettingsFault)
  | overflow
  deriving DecidableEq

/-! ## Words -/

/-- The words for a pool. -/
def PoolKind.text : PoolKind → String
  | .sessionId => "session id"
  | .mediaPort => "media port"

/-- The words for a use of a socket. -/
def SocketAction.text : SocketAction → String
  | .listInterfaces => "list interfaces"
  | .bind address => s!"bind {address.text}"
  | .send destination => s!"send to {destination.text}"
  | .receive session => s!"receive on session {session.text}"

/-- The words for a complaint of an engine. -/
def EngineFault.text : EngineFault → String
  | .unattached => "passthrough engine used before init"
  | .refused reason => reason

/-- The words for a misuse. -/
def Misuse.text : Misuse → String
  | .outboundControl => "control session must be inbound"
  | .inboundTerminal => "terminal leg must be outbound"
  | .controlOpened role stage => s!"init_control on {role.word} session in state {stage.name}"
  | .mediaOpened role stage => s!"init_media_leg on {role.word} session in state {stage.name}"
  | .remoteMissing => "gateway leg needs a remote address"
  | .receiveUnbound => "receive on a session without socket"
  | .sendUnbound => "send on a session without socket"
  | .sendWithoutRemote session => s!"session {session.text} has no remote address"
  | .bridgeWithoutPair => "bridge must start on the inbound leg of a linked pair"
  | .bridgeRunning => "bridge already running"
  | .bridgeWithoutEngines => "bridge needs both legs initialized"
  | .controlPaired => "the control session never pairs"
  | .misplaced role slot => s!"{role.word} session cannot occupy slot {slot}"
  | .noSlot slot => s!"no session at slot {slot}"
  | .controlReleased => "the control session is not part of a call"
  | .noControl => "no control session"
  | .noLocalAddress => "inbound leg has no local address"

/-- The words for a violation of the settings' rules. -/
def SettingsFault.text : SettingsFault → String
  | .tooFewSessions given =>
    s!"max_sessions must hold the control session and one call, got {given}"
  | .noSessionIds => "id_pool_size must be non-zero"
  | .tooManySessionIds => "id_pool_size is too large"
  | .noPorts => "port_count must be non-zero"
  | .portsBeyondRange base count => s!"port range {base}+{count} exceeds 65535"
  | .portZero => "port_base must be non-zero"
  | .smallBuffer least => s!"buffer_size must be at least {least} bytes"
  | .frameSize given => s!"engine frame_samples out of range: {given}"
  | .noQueue => "engine max_queued_frames must be non-zero"
  | .interface name => s!"interface {name} has no IPv4 address"
  | .report text => text

/-- The message about a fault. -/
def Fault.message : Fault → String
  | .exhausted pool => s!"{pool.text} pool exhausted"
  | .notOwned pool value => s!"{pool.text} {value.toNat} released while not allocated"
  | .outOfRange pool value => s!"{pool.text} {value.toNat} is outside the pool range"
  | .socket action cause => s!"Socket error during {action.text}: {cause.text}"
  | .capacity active limit => s!"Session table full: {active} of {limit} slots in use"
  | .misuse cause => s!"Invalid session: {cause.text}"
  | .unsupportedMode mode => s!"Unsupported fax mode: {mode.word}"
  | .duplicateCall callId => s!"Call already active: {callId.text}"
  | .engine cause => s!"Fax engine error: {cause.text}"
  | .settings cause => s!"Configuration error: {cause.text}"
  | .overflow => "attempt to multiply with overflow"

/-- Whether a fault shows that the relay itself broke a rule of its pools. -/
def Fault.isInternal : Fault → Bool
  | .notOwned _ _ => true
  | .outOfRange _ _ => true
  | _ => false

/-- Whether a fault comes from using a socket. -/
def Fault.isSocket : Fault → Bool
  | .socket _ _ => true
  | _ => false

end FaxRelay
