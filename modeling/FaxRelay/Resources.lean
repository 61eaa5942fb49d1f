import FaxRelay.Media.Bridge
import FaxRelay.Media.Engine
import FaxRelay.Pool.MediaPorts
import FaxRelay.Pool.SessionIds

/-!
# Resources

What sessions draw on: the supplies of numbers and ports, the network, and the
engines. An engine is known by its place in the sequence of engines made; it
may be used by a session and by a bridge at the same time.

Making an engine and attaching it to a leg can be refused. Which attempts are
refused is a parameter, counted from the start. An engine whose queue would have
a bound that is no word is not made either: there the relay is down
(`Resources.isDown`), and what follows in the model counts for nothing.

The journal keeps what happened to engines, what was sent, what signaling was
taken in and which releases a pool refused, the latest first. Nothing depends
on it.
-/

set_option autoImplicit false

namespace FaxRelay

open FaxRelay.Media FaxRelay.Net FaxRelay.Pool FaxRelay.Signal

/-- Which attempts to make and to attach an engine are refused, and why (`FaxEngineFactory`). -/
structure EngineSupply where
  makeFault : Nat → Option String
  attachFault : Nat → Option String

/-- A supply that refuses nothing. -/
def EngineSupply.unfailing : EngineSupply := ⟨fun _ => none, fun _ => none⟩

/-- Something that happened. -/
inductive Event where
  | made (engine : Nat)
  | attached (engine : Nat) (leg : Leg) (accepted : Bool)
  | heard (engine : Nat) (payload : Payload)
  | produced (engine : Nat) (frame : Frame)
  | took (engine : Nat) (frame : Frame) (fault : Option Fault)
  | retired (engine : Nat)
  | sent (transmission : Transmission) (fault : Option OsFault)
  | signaled (sender : Endpoint) (payload : Payload)
  | releaseRefused (fault : Fault)
  deriving DecidableEq

/-- What sessions draw on (`GatewayResources`). -/
structure Resources where
  ids : SessionIds
  ports : MediaPorts
  fabric : Fabric
  engines : List Engine
  supply : EngineSupply
  makeAttempts : Nat
  attachAttempts : Nat
  engineSettings : EngineSettings
  mediaIp : Ipv4
  bridgeIntervalMs : UInt64
  journal : List Event

namespace Resources

/-- The resources of a relay with the given settings, nothing taken of them. -/
def ofSettings (settings : Settings) (supply : EngineSupply) (fabric : Fabric) (mediaIp : Ipv4) :
    Resources where
  ids := SessionIds.ofSize settings.idPoolSize
  ports := MediaPorts.ofRange settings.portBase settings.portCount
  fabric := fabric
  engines := []
  supply := supply
  makeAttempts := 0
  attachAttempts := 0
  engineSettings := settings.engine
  mediaIp := mediaIp
  bridgeIntervalMs := settings.bridgeIntervalMs
  journal := []

/-- Notes an event. -/
def note (resources : Resources) (event : Event) : Resources :=
  { resources with journal := event :: resources.journal }

/-! ## Supplies -/

/-- Gives a port back; a refusal is noted and has no other consequence. -/
def releasePort (resources : Resources) (port : UInt16) : Resources :=
  match resources.ports.release port with
  | .ok ports => { resources with ports := ports }
  | .error fault => resources.note (.releaseRefused fault)

/-- Gives a session's number back; a refusal is noted and has no other consequence. -/
def releaseId (resources : Resources) (id : SessionId) : Resources :=
  match resources.ids.release id with
  | .ok ids => { resources with ids := ids }
  | .error fault => resources.note (.releaseRefused fault)

/-! ## Sockets -/

/-- Opens a socket of the relay. -/
def openSocket (resources : Resources) (address : Endpoint) : Except Fault Resources :=
  match resources.fabric.bind .relay address with
  | .ok fabric => .ok { resources with fabric := fabric }
  | .error cause => .error (.socket (.bind address) cause)

/-- Closes a socket. -/
def closeSocket (resources : Resources) (address : Endpoint) : Resources :=
  { resources with fabric := resources.fabric.close address }

/-- Sends a datagram. -/
def transmit (resources : Resources) (transmission : Transmission) :
    Except Fault Unit × Resources :=
  match resources.fabric.send transmission.source transmission.destination
      transmission.payload with
  | .ok fabric => (.ok (), { resources with fabric := fabric }.note (.sent transmission none))
  | .error cause =>
    (.error (.socket (.send transmission.destination) cause),
      resources.note (.sent transmission (some cause)))

/-! ## Engines -/

/-- Makes an engine (`create`). -/
def makeEngine (resources : Resources) : Except Fault Nat × Resources :=
  let attempted := { resources with makeAttempts := resources.makeAttempts + 1 }
  match resources.supply.makeFault resources.makeAttempts with
  | some reason => (.error (.engine (.refused reason)), attempted)
  | none =>
    match Engine.ofSettings resources.engineSettings with
    | .error fault => (.error fault, attempted)
    | .ok state =>
      let engine := resources.engines.length
      (.ok engine,
        { attempted with engines := resources.engines ++ [state] }.note (.made engine))

/-- Whether an engine was to be made whose queue would have a bound that is no word. -/
def isDown (resources : Resources) : Bool :=
  resources.engineSettings.queueOverflows &&
    (List.range resources.makeAttempts).any fun attempt =>
      (resources.supply.makeFault attempt).isNone

/-- Changes an engine. -/
def changeEngine (resources : Resources) (engine : Nat) (change : Engine → Engine) : Resources :=
  { resources with engines := resources.engines.modify engine change }

/-- Attaches an engine to its leg (`init`). -/
def attachEngine (resources : Resources) (engine : Nat) (leg : Leg) :
    Except Fault Unit × Resources :=
  let attempted := { resources with attachAttempts := resources.attachAttempts + 1 }
  match resources.supply.attachFault resources.attachAttempts with
  | some reason =>
    (.error (.engine (.refused reason)), attempted.note (.attached engine leg false))
  | none =>
    (.ok (),
      (attempted.changeEngine engine fun engine => engine.attach leg).note
        (.attached engine leg true))

/-- Retires an engine (`destroy`). -/
def retireEngine (resources : Resources) (engine : Nat) : Resources :=
  (resources.changeEngine engine Engine.retire).note (.retired engine)

/-- Tells an engine the remote endpoint of its leg. -/
def aimEngine (resources : Resources) (engine : Nat) (remote : Option Endpoint) : Resources :=
  resources.changeEngine engine fun engine => engine.aim remote

/-- How many samples wait in an engine (`queued_samples`). -/
def queued (resources : Resources) (engine : Nat) : Nat :=
  ((resources.engines[engine]?).map fun engine => engine.queue.length).getD 0

/-- Gives a datagram to an engine (`receive_network_bytes`). -/
def hear (resources : Resources) (engine : Nat) (payload : Payload) : Resources :=
  (resources.changeEngine engine fun engine => engine.hear payload).note (.heard engine payload)

/-- Asks an engine for a frame (`produce_audio_frame`). -/
def produce (resources : Resources) (engine : Nat) : Frame × Resources :=
  let frame := ((resources.engines[engine]?).map fun engine => engine.produce.1).getD []
  (frame,
    (resources.changeEngine engine fun engine => engine.produce.2).note (.produced engine frame))

/-- The answer of an engine whose datagram was sent or refused: a frame for a socket that is busy is
lost, and that is no fault. -/
def answerSent : Except Fault Unit → Except Fault Unit
  | .error (.socket _ .wouldBlock) => .ok ()
  | answer => answer

/-- Sends on a frame from the far leg, as its engine would have it sent. -/
def relay (resources : Resources) (engine : Nat) (frame : Frame) :
    Except Fault Unit × Resources :=
  match resources.engines[engine]? with
  | none => (.error (.engine .unattached), resources)
  | some state =>
    match state.transmission frame with
    | .error fault => (.error fault, resources)
    | .ok none => (.ok (), resources)
    | .ok (some transmission) =>
      let (answer, resources) := resources.transmit transmission
      (answerSent answer, resources)

/-- Gives a frame from the far leg to an engine, which sends it on (`receive_audio_frame`). -/
def take (resources : Resources) (engine : Nat) (frame : Frame) : Except Fault Unit × Resources :=
  match resources.relay engine frame with
  | (.ok (), relayed) => (.ok (), relayed.note (.took engine frame none))
  | (.error fault, relayed) => (.error fault, relayed.note (.took engine frame (some fault)))

/-- The engines of a call as the sides of its bridge. -/
def sides (inbound outbound : Nat) : Sides Resources where
  produce
    | .inbound, resources => resources.produce inbound
    | .outbound, resources => resources.produce outbound
  take
    | .inbound, frame, resources => resources.take inbound frame
    | .outbound, frame, resources => resources.take outbound frame

end Resources

end FaxRelay
