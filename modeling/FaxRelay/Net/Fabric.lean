import FaxRelay.Net.Address
import FaxRelay.OsFault

/-!
# The datagram fabric

The network as the relay meets it: sockets bound to endpoints, each with a
queue of what has arrived and not been read. A datagram for a bound endpoint is
appended to the queue of its socket; one for an endpoint that nobody has bound
is lost without notice. What is sent reaches the socket on the very endpoint that
it names. What reaches a socket on the unspecified address under another address
of the host is an arrival from outside, like any other.

No two sockets are bound to one endpoint, and none is bound to a port on some
address while another has that port on every address (`Endpoint.conflicts`).
What the host refuses beyond that, which port it gives to a socket that leaves
the choice to it, and which interfaces it has are parameters. `Policy.loopback`
is a host talking to itself. A queue may also hold a fault, which the reader of
the socket meets in its turn.

A socket is fresh from the moment something arrives for it until the next wait.
-/

set_option autoImplicit false

namespace FaxRelay.Net

/-- The bytes of a datagram. -/
abbrev Payload := List UInt8

/-- What a socket has to hand to its reader. -/
inductive Arrival where
  | datagram (sender : Endpoint) (payload : Payload)
  | fault (cause : OsFault)
  deriving DecidableEq, Repr

/-- Who opened a socket: the relay, or somebody outside it. -/
inductive Holder where
  | relay
  | outside
  deriving DecidableEq, Repr

/-- An open socket: who holds it, what waits in it, and whether anything came since the last
wait. -/
structure Socket where
  holder : Holder
  queue : List Arrival
  fresh : Bool
  deriving DecidableEq, Repr

/-- An entry in the list of network interfaces: a name, and the internet address that the entry
gives, if it is one of four octets. -/
structure Interface where
  name : String
  ip : Option Ipv4
  deriving DecidableEq, Repr

/-- What the host decides: which endpoints it lets nobody bind and which datagrams it does not send,
which port it chooses on an address, given the endpoints that are taken, and what it answers when
asked for its interfaces. -/
structure Policy where
  bindFault : Endpoint → Option OsFault
  sendFault : Endpoint → Endpoint → Nat → Option OsFault
  freePort : (Endpoint → Bool) → Ipv4 → Option {port : UInt16 // port ≠ 0}
  interfaces : Except OsFault (List Interface)

/-- The bound sockets and the policy of the network. -/
structure Fabric where
  sockets : List (Endpoint × Socket)
  policy : Policy

/-- Two endpoints of which at most one can be bound: the same port on the same address, or on an
address and on all of them. -/
def Endpoint.conflicts (first second : Endpoint) : Bool :=
  first.port = second.port &&
    (first.ip = second.ip || first.ip = Ipv4.unspecified || second.ip = Ipv4.unspecified)

/-! ## The policy of a loopback network -/

/-- The greatest length that the address family can express for a datagram. -/
def lengthLimit : Nat := 65535

/-- The greatest payload that fits a datagram behind its headers. -/
def payloadLimit : Nat := 65507

/-- The addresses that a host gives to itself. -/
def Ipv4.isOwn (ip : Ipv4) : Bool := ip.first = 127 || ip = Ipv4.unspecified

/-- The addresses that reach every host of a network at once. -/
def Ipv4.isBroadcast (ip : Ipv4) : Bool := ip = ⟨127, 255, 255, 255⟩ || ip = ⟨255, 255, 255, 255⟩

/-- The ports from which a host chooses when a socket leaves the choice to it. -/
def choicePorts : List {port : UInt16 // port ≠ 0} :=
  (List.range' 32768 28232).filterMap fun port =>
    if nonzero : UInt16.ofNat port ≠ 0 then some ⟨UInt16.ofNat port, nonzero⟩ else none

/-- Only own addresses can be bound, and the first port is chosen that is not taken. A datagram is
refused when it is too long, when it names port zero, and when it is for everybody. There are no
interfaces. -/
def Policy.loopback : Policy where
  bindFault address := if address.ip.isOwn then none else some .addressUnavailable
  sendFault _ destination size :=
    if lengthLimit < size then some .messageTooLong
    else if destination.port = 0 then some .invalidArgument
    else if destination.ip.isBroadcast then some .permissionDenied
    else if payloadLimit < size then some .messageTooLong
    else none
  freePort taken ip := choicePorts.find? fun port => !taken ⟨ip, port.val⟩
  interfaces := .ok []

namespace Fabric

/-- The loopback network before anybody has opened a socket. -/
def loopback : Fabric := ⟨[], Policy.loopback⟩

/-! ## Sockets -/

/-- The socket bound to an endpoint. -/
def socket? (fabric : Fabric) (address : Endpoint) : Option Socket :=
  fabric.sockets.lookup address

/-- Whether a socket is bound that leaves no room for one on an endpoint. -/
def isTaken (fabric : Fabric) (address : Endpoint) : Bool :=
  fabric.sockets.any fun entry => entry.1.conflicts address

/-- Opens a socket on an endpoint (`bind_udp`). -/
def bind (fabric : Fabric) (holder : Holder) (address : Endpoint) : Except OsFault Fabric :=
  match fabric.policy.bindFault address with
  | some cause => .error cause
  | none =>
    if fabric.isTaken address then .error .addressInUse
    else .ok { fabric with sockets := (address, ⟨holder, [], false⟩) :: fabric.sockets }

/-- The endpoint that a socket for an endpoint gets: for port zero, the host chooses the port. -/
def place (fabric : Fabric) (address : Endpoint) : Except OsFault Endpoint :=
  if address.port ≠ 0 then .ok address
  else
    match fabric.policy.bindFault address with
    | some cause => .error cause
    | none =>
      match fabric.policy.freePort fabric.isTaken address.ip with
      | some port => .ok ⟨address.ip, port.val⟩
      | none => .error .addressInUse

/-- Closes the socket on an endpoint; what waited in it is lost. -/
def close (fabric : Fabric) (address : Endpoint) : Fabric :=
  { fabric with sockets := fabric.sockets.filter fun entry => entry.1 ≠ address }

/-- Changes the socket on an endpoint, if there is one. -/
def update (fabric : Fabric) (address : Endpoint) (change : Socket → Socket) : Fabric :=
  { fabric with
    sockets := fabric.sockets.map fun entry =>
      if entry.1 = address then (entry.1, change entry.2) else entry }

/-! ## Traffic -/

/-- Appends an arrival to the queue of the socket on an endpoint, or loses it. -/
def deliver (fabric : Fabric) (address : Endpoint) (arrival : Arrival) : Fabric :=
  fabric.update address fun socket =>
    { socket with queue := socket.queue ++ [arrival], fresh := true }

/-- Sends a datagram: refused by the policy, or delivered. -/
def send (fabric : Fabric) (sender destination : Endpoint) (payload : Payload) :
    Except OsFault Fabric :=
  match fabric.policy.sendFault sender destination payload.length with
  | some cause => .error cause
  | none => .ok (fabric.deliver destination (.datagram sender payload))

/-- What waits in the socket on an endpoint; nothing when there is no such socket. -/
def queue (fabric : Fabric) (address : Endpoint) : List Arrival :=
  ((fabric.socket? address).map Socket.queue).getD []

/-- Takes the oldest arrival from the socket on an endpoint. -/
def receive (fabric : Fabric) (address : Endpoint) : Option Arrival × Fabric :=
  ((fabric.queue address).head?,
    fabric.update address fun socket => { socket with queue := socket.queue.drop 1 })

/-- The datagrams at the front of a queue, up to the first fault. -/
def leadingDatagrams : List Arrival → List (Endpoint × Payload)
  | .datagram sender payload :: rest => (sender, payload) :: leadingDatagrams rest
  | _ => []

/-- The fault with which reading a socket fails, if it does: a socket that would have to wait has
nothing to read. -/
def readFault? (cause : OsFault) : Option OsFault :=
  if cause = .wouldBlock then none else some cause

/-- The first fault of a queue, as reading meets it, and what waits behind it. -/
def firstFault : List Arrival → Option OsFault × List Arrival
  | .datagram _ _ :: rest => firstFault rest
  | .fault cause :: rest => (readFault? cause, rest)
  | [] => (none, [])

/-- What reading a socket until it is empty or faulty yields. -/
structure Drained where
  datagrams : List (Endpoint × Payload)
  fault : Option OsFault
  deriving DecidableEq, Repr

/-- Reads the socket on an endpoint until it is empty or reports a fault. -/
def drain (fabric : Fabric) (address : Endpoint) : Drained × Fabric :=
  let waiting := fabric.queue address
  (⟨leadingDatagrams waiting, (firstFault waiting).1⟩,
    fabric.update address fun socket => { socket with queue := (firstFault waiting).2 })

/-! ## Waiting -/

/-- Whether a wait reports the socket on an endpoint: something came since the last wait, and
something is there to read. -/
def isReady (fabric : Fabric) (address : Endpoint) : Bool :=
  match fabric.socket? address with
  | some socket => socket.fresh && !socket.queue.isEmpty
  | none => false

/-- Ends a wait on an endpoint: its socket is fresh again only when something else arrives. -/
def settle (fabric : Fabric) (address : Endpoint) : Fabric :=
  fabric.update address fun socket => { socket with fresh := false }

end Fabric

end FaxRelay.Net
