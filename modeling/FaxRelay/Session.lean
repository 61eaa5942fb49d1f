import FaxRelay.Resources

/-!
# Sessions

A session is one socket with a purpose: the control session carries signaling,
and each call has two media legs that name each other by number.

A session begins with a number and nothing else. Opened, it has its socket, and
a media leg has a port and an engine as well; bridged, the audio of the call
flows; destroyed, it has given back whatever it had acquired, at whatever point
it stood. Being destroyed again changes nothing.

The remote endpoint of a gateway leg is given when it is opened. A terminal leg
learns it from the first datagram that arrives; the control session takes the
sender of the latest datagram, to whom it replies.
-/

set_option autoImplicit false

namespace FaxRelay

open FaxRelay.Media FaxRelay.Net FaxRelay.Pool FaxRelay.Signal

/-- A running bridge, kept by the inbound leg: the two engines and how far it has come. -/
structure Bridge where
  inbound : Nat
  outbound : Nat
  progress : Progress
  deriving DecidableEq, Repr

/-- One control or media endpoint. -/
structure Session where
  id : SessionId
  ownsId : Bool
  callId : Option CallId
  index : Nat
  role : Role
  direction : Direction
  stage : Stage
  localAddress : Option Endpoint
  remote : Option Endpoint
  port : Option UInt16
  socket : Option Endpoint
  peer : Option SessionId
  engine : Option Nat
  bridge : Option Bridge
  bridgeActive : Bool
  deriving DecidableEq

namespace Session

/-- Whether a session is for signaling. -/
def isControl (session : Session) : Bool := session.role = .control

/-- The number under which the network reports that a session's socket can be read; none when
there is no socket. -/
def token? (session : Session) : Option SessionId := session.socket.map fun _ => session.id

/-- Whether a session's bridge stopped because a socket failed. -/
def bridgeFailed (session : Session) : Bool :=
  (session.bridge.map fun bridge => bridge.progress.failed).getD false

/-! ## Creating and opening -/

/-- The session with a number, before it has anything else. -/
def fresh (id : SessionId) (role : Role) (direction : Direction) (index : Nat) : Session where
  id := id
  ownsId := true
  callId := none
  index := index
  role := role
  direction := direction
  stage := .null
  localAddress := none
  remote := none
  port := none
  socket := none
  peer := none
  engine := none
  bridge := none
  bridgeActive := false

/-- The objection to a role on a side: signaling comes in, and terminals are called. -/
def misfit? : Role → Direction → Option Misuse
  | .control, .outbound => some .outboundControl
  | .terminal, .inbound => some .inboundTerminal
  | _, _ => none

/-- Creates a session and reserves its number. -/
def create (role : Role) (index : Nat) (direction : Direction) (resources : Resources) :
    Except Fault (Session × Resources) :=
  match misfit? role direction with
  | some misuse => .error (.misuse misuse)
  | none =>
    match resources.ids.allocate direction with
    | .error fault => .error fault
    | .ok (id, ids) => .ok (fresh id role direction index, { resources with ids := ids })

/-- Opens a socket for a session (`attach_socket`); a socket that it had before is closed. -/
def bindSocket (session : Session) (address : Endpoint) (resources : Resources) :
    Except Fault (Session × Resources) :=
  match resources.openSocket address with
  | .error fault => .error fault
  | .ok opened =>
    .ok ({ session with socket := some address, localAddress := some address },
      session.socket.elim opened opened.closeSocket)

/-- Opens the control session (`init_control`). Where the port is left to the host, the session has
the one that was chosen. -/
def openControl (session : Session) (address : Endpoint) (resources : Resources) :
    Except Fault Unit × Session × Resources :=
  if session.role ≠ .control ∨ session.stage ≠ .null then
    (.error (.misuse (.controlOpened session.role session.stage)), session, resources)
  else
    match resources.fabric.place address with
    | .error cause => (.error (.socket (.bind address) cause), session, resources)
    | .ok placed =>
      match session.bindSocket placed resources with
      | .error fault => (.error fault, session, resources)
      | .ok (session, resources) => (.ok (), { session with stage := .setup }, resources)

/-- What the engine of a session learns about it (`leg_info`). -/
def leg (session : Session) (callId : CallId) (localAddress : Endpoint) : Leg :=
  ⟨session.id, callId, session.role, session.direction, localAddress, session.remote⟩

/-- Gives a session with a socket its engine, the last part of `init_media_leg`. -/
def equip (session : Session) (callId : CallId) (localAddress : Endpoint)
    (resources : Resources) : Except Fault Unit × Session × Resources :=
  match resources.makeEngine with
  | (.error fault, resources) => (.error fault, session, resources)
  | (.ok engine, resources) =>
    match resources.attachEngine engine (session.leg callId localAddress) with
    | (.error fault, resources) => (.error fault, session, resources)
    | (.ok (), resources) =>
      (.ok (), { session with engine := some engine, stage := .setup }, resources)

/-- Opens a media leg (`init_media_leg`): takes a port, binds the socket and attaches an engine.
Where it fails, the leg keeps what it got so far, for `destroy` to give back. -/
def openMedia (session : Session) (callId : CallId) (remote : Option Endpoint)
    (resources : Resources) : Except Fault Unit × Session × Resources :=
  if session.role = .control ∨ session.stage ≠ .null then
    (.error (.misuse (.mediaOpened session.role session.stage)), session, resources)
  else if session.role = .gateway ∧ remote = none then
    (.error (.misuse .remoteMissing), session, resources)
  else
    let session := { session with callId := some callId, remote := remote }
    match resources.ports.allocate with
    | .error fault => (.error fault, session, resources)
    | .ok (port, ports) =>
      let session := { session with port := some port }
      let resources := { resources with ports := ports }
      match session.bindSocket ⟨resources.mediaIp, port⟩ resources with
      | .error fault => (.error fault, session, resources)
      | .ok (session, resources) => session.equip callId ⟨resources.mediaIp, port⟩ resources

/-! ## Pairing and bridging -/

/-- Makes two media legs name each other. -/
def link (first second : Session) : Except Fault (Session × Session) :=
  if first.isControl || second.isControl then .error (.misuse .controlPaired)
  else .ok ({ first with peer := some second.id }, { second with peer := some first.id })

/-- Starts the bridge between an inbound leg and its peer. -/
def startBridge (session peer : Session) : Except Fault (Session × Session) :=
  if session.direction ≠ .inbound ∨ session.peer ≠ some peer.id then
    .error (.misuse .bridgeWithoutPair)
  else if session.bridge.isSome then .error (.misuse .bridgeRunning)
  else
    match session.engine, peer.engine with
    | some inbound, some outbound =>
      .ok
        ({ session with
            bridge := some ⟨inbound, outbound, Progress.fresh⟩
            bridgeActive := true
            stage := .progress },
          { peer with bridgeActive := true, stage := .progress })
    | _, _ => .error (.misuse .bridgeWithoutEngines)

/-- Stops the bridge that a session keeps and clears its mark. -/
def stopBridge (session : Session) : Session :=
  { session with bridge := none, bridgeActive := false }

/-- Lets the bridge that a session keeps make a number of passes. -/
def runBridge (session : Session) (count : Nat) (resources : Resources) : Session × Resources :=
  match session.bridge with
  | none => (session, resources)
  | some bridge =>
    let (progress, resources) :=
      passes (Resources.sides bridge.inbound bridge.outbound) count bridge.progress resources
    ({ session with bridge := some { bridge with progress := progress } }, resources)

/-- The passes after which no audio waits that a bridge could move. -/
def passesLeft (bridge : Bridge) (resources : Resources) : Nat :=
  max (resources.queued bridge.inbound) (resources.queued bridge.outbound)

/-- Lets the bridge that a session keeps run until no audio waits that it could move. -/
def exhaustBridge (session : Session) (resources : Resources) : Session × Resources :=
  match session.bridge with
  | none => (session, resources)
  | some bridge => session.runBridge (passesLeft bridge resources) resources

/-! ## Destroying -/

/-- Destroys a session: stops its bridge, retires its engine, closes its socket and gives back
its port and its number. -/
def destroy (session : Session) (resources : Resources) : Session × Resources :=
  if session.stage = .complete then (session, resources)
  else
    let resources := session.engine.elim resources resources.retireEngine
    let resources := session.socket.elim resources resources.closeSocket
    let resources := session.port.elim resources resources.releasePort
    let resources := if session.ownsId then resources.releaseId session.id else resources
    ({ session.stopBridge with
        engine := none
        socket := none
        port := none
        ownsId := false
        peer := none
        stage := .complete },
      resources)

/-- Forgets a session without destroying it: its socket goes, and everything else that it took
stays taken. -/
def abandon (session : Session) (resources : Resources) : Resources :=
  session.socket.elim resources resources.closeSocket

/-! ## Traffic -/

/-- The session after a datagram came from `sender` (`latch_remote`): the control session will reply
to it, and a terminal leg without a remote endpoint has found one. -/
def heardFrom (session : Session) (sender : Endpoint) : Session :=
  match session.role with
  | .control => { session with remote := some sender }
  | .terminal => { session with remote := some (session.remote.getD sender) }
  | .gateway => session

/-- Reads one datagram, of which no more than `size` bytes are kept. Only the control session
takes note of the sender. -/
def receive (session : Session) (size : Nat) (resources : Resources) :
    Except Fault (Option (Payload × Endpoint)) × Session × Resources :=
  match session.socket with
  | none => (.error (.misuse .receiveUnbound), session, resources)
  | some address =>
    let (arrival, fabric) := resources.fabric.receive address
    let resources := { resources with fabric := fabric }
    match arrival with
    | none => (.ok none, session, resources)
    | some (.fault cause) =>
      ((Fabric.readFault? cause).elim (.ok none) fun cause =>
          .error (.socket (.receive session.id) cause),
        session, resources)
    | some (.datagram sender payload) =>
      (.ok (some (payload.take size, sender)),
        if session.isControl then session.heardFrom sender else session, resources)

/-- Sends a datagram to the remote endpoint of a session; the number of bytes sent. -/
def send (session : Session) (payload : Payload) (resources : Resources) :
    Except Fault Nat × Resources :=
  match session.socket, session.remote with
  | none, _ => (.error (.misuse .sendUnbound), resources)
  | some _, none => (.error (.misuse (.sendWithoutRemote session.id)), resources)
  | some address, some remote =>
    match resources.transmit ⟨address, remote, payload⟩ with
    | (.ok (), resources) => (.ok payload.length, resources)
    | (.error fault, resources) => (.error fault, resources)

/-- Hands one datagram to the engine of a session, which learns the remote endpoint first. -/
def hear (session : Session) (size : Nat) (sender : Endpoint) (payload : Payload)
    (resources : Resources) : Session × Resources :=
  let session := session.heardFrom sender
  (session,
    session.engine.elim resources fun engine =>
      (resources.aimEngine engine session.remote).hear engine (payload.take size))

/-- Hands datagrams to the engine of a session, the first one first. -/
def hearAll (session : Session) (size : Nat) (datagrams : List (Endpoint × Payload))
    (resources : Resources) : Session × Resources :=
  datagrams.foldl (fun state datagram => state.1.hear size datagram.1 datagram.2 state.2)
    (session, resources)

/-- Reads a session's socket until it is empty, and hands everything to the engine; the number
of datagrams, or the fault that ended the reading. -/
def onReadable (session : Session) (size : Nat) (resources : Resources) :
    Except Fault Nat × Session × Resources :=
  match session.socket with
  | none => (.error (.misuse .receiveUnbound), session, resources)
  | some address =>
    let (drained, fabric) := resources.fabric.drain address
    let (session, resources) :=
      session.hearAll size drained.datagrams { resources with fabric := fabric }
    match drained.fault with
    | none => (.ok drained.datagrams.length, session, resources)
    | some cause => (.error (.socket (.receive session.id) cause), session, resources)

/-! ## Printed form -/

/-- A value that may be absent, as a program shows it. -/
def optionText {α : Type} (text : α → String) : Option α → String
  | none => "None"
  | some value => s!"Some({text value})"

/-- The written form of a number that programs show. -/
def idText (id : SessionId) : String := s!"SessionId({id.value.toNat})"

/-- The fields of a session, for a reader who looks for a fault in the relay. -/
def debugText (session : Session) : String :=
  let callId := optionText (fun callId : CallId => s!"CallId({Text.quote callId.text})")
    session.callId
  let localAddress := optionText Endpoint.text session.localAddress
  let remote := optionText Endpoint.text session.remote
  let peer := optionText idText session.peer
  "Session \x7b " ++
    s!"id: {idText session.id}, call_id: {callId}, table_index: {session.index}, " ++
    s!"mode: {session.role.name}, direction: {session.direction.name}, " ++
    s!"state: {session.stage.name}, local: {localAddress}, remote: {remote}, peer: {peer}, " ++
    s!"bridge_active: {session.bridgeActive}" ++ " \x7d"

end Session

end FaxRelay
