import FaxRelay.Gateway

/-!
# The bench

A bench holds an exchange together with what surrounds it, so that each of its
parts can be tried by itself: sessions that are in no table, kept under names,
and outside sockets that send to the relay and keep what it sends to them.
-/

set_option autoImplicit false

namespace FaxRelay

open FaxRelay.Net FaxRelay.Signal

/-- An exchange, loose sessions by name, and the outside sockets that are read, in the order in
which they were opened. -/
structure Bench where
  exchange : Exchange
  loose : List (String × Session)
  peers : List Endpoint

/-- Where a session is: loose under a name, or in a slot. -/
inductive Place where
  | loose (name : String)
  | slot (index : Nat)
  deriving DecidableEq, Repr

namespace Bench

/-- The bench with other resources for its exchange. -/
def setResources (bench : Bench) (resources : Resources) : Bench :=
  { bench with exchange := { bench.exchange with resources := resources } }

/-- The bench with another table for its exchange. -/
def setTable (bench : Bench) (table : Table) : Bench :=
  { bench with exchange := { bench.exchange with table := table } }

/-- The network of a bench. -/
def fabric (bench : Bench) : Fabric := bench.exchange.resources.fabric

/-- The bench with another network. -/
def setFabric (bench : Bench) (fabric : Fabric) : Bench :=
  bench.setResources { bench.exchange.resources with fabric := fabric }

/-- The endpoint of the control session. -/
def controlAddress? (bench : Bench) : Option Endpoint :=
  bench.exchange.table.control?.bind Session.localAddress

/-! ## Outside sockets -/

/-- Opens a socket outside the relay; one that cannot be opened is left out. -/
def bindOutside (fabric : Fabric) (address : Endpoint) : Fabric :=
  match fabric.bind .outside address with
  | .ok bound => bound
  | .error _ => fabric

/-- Opens an outside socket that is not read. -/
def occupy (bench : Bench) (address : Endpoint) : Bench :=
  bench.setFabric (bindOutside bench.fabric address)

/-- Closes an outside socket. -/
def vacate (bench : Bench) (address : Endpoint) : Bench :=
  bench.setFabric (bench.fabric.close address)

/-- Opens an outside socket that is read, unless it is open. -/
def addPeer (bench : Bench) (address : Endpoint) : Bench :=
  if bench.peers.contains address then bench
  else { bench.occupy address with peers := bench.peers ++ [address] }

/-- Sends a datagram from outside; it does not matter whether the network refuses it. -/
def send (bench : Bench) (sender destination : Endpoint) (payload : Payload) : Bench :=
  let bench := bench.addPeer sender
  match bench.fabric.send sender destination payload with
  | .ok fabric => bench.setFabric fabric
  | .error _ => bench

/-- The datagram of an arrival, if its sender is wanted. -/
def wantedDatagram? (wanted : Endpoint → Bool) : Arrival → Option (Endpoint × Payload)
  | .datagram sender payload => if wanted sender then some (sender, payload) else none
  | .fault _ => none

/-- Takes from an outside socket what wanted senders sent. -/
def collectFrom (wanted : Endpoint → Bool) (fabric : Fabric) (peer : Endpoint) :
    List (Endpoint × Payload) × Fabric :=
  ((fabric.queue peer).filterMap (wantedDatagram? wanted),
    fabric.update peer fun socket =>
      { socket with
        queue := socket.queue.filter fun arrival => (wantedDatagram? wanted arrival).isNone })

/-- Takes from all peers what wanted senders sent; peers that have nothing are left out. -/
def collect (bench : Bench) (wanted : Endpoint → Bool) :
    List (Endpoint × List (Endpoint × Payload)) × Bench :=
  let (taken, fabric) := bench.peers.foldl
    (fun state peer =>
      let (datagrams, fabric) := collectFrom wanted state.2 peer
      (if datagrams.isEmpty then state.1 else state.1 ++ [(peer, datagrams)], fabric))
    ([], bench.fabric)
  (taken, bench.setFabric fabric)

/-! ## Loose sessions -/

/-- The loose session of a name. -/
def loose? (bench : Bench) (name : String) : Option Session := bench.loose.lookup name

/-- Keeps a session loose under a name. -/
def setLoose (bench : Bench) (name : String) (session : Session) : Bench :=
  { bench with
    loose := (bench.loose.filter fun entry => entry.1 ≠ name) ++ [(name, session)] }

/-- Forgets the loose session of a name. -/
def removeLoose (bench : Bench) (name : String) : Bench :=
  { bench with loose := bench.loose.filter fun entry => entry.1 ≠ name }

/-- The place that a name means: a slot when it is a number behind a hash sign. -/
def place (name : String) : Option Place :=
  match name.toList with
  | '#' :: digits => (Text.natBelow? UInt64.size digits).map Place.slot
  | _ => some (.loose name)

/-- The session at a place. -/
def session? (bench : Bench) : Place → Option Session
  | .loose name => bench.loose? name
  | .slot index => bench.exchange.table.session? index

/-- Puts a session to a place where there is one. -/
def setSession (bench : Bench) (place : Place) (session : Session) : Bench :=
  match place with
  | .loose name => bench.setLoose name session
  | .slot index => bench.setTable (bench.exchange.table.setSession index session)

/-- Creates a loose session; one that had its name is abandoned. -/
def create (bench : Bench) (name : String) (role : Role) (index : Nat) (direction : Direction) :
    Except Fault (SessionId × Bench) :=
  match Session.create role index direction bench.exchange.resources with
  | .error fault => .error fault
  | .ok (session, resources) =>
    let resources := (bench.loose? name).elim resources fun old => old.abandon resources
    .ok (session.id, (bench.setResources resources).setLoose name session)

/-- Pushes a loose session to the table; it is loose no longer, and abandoned when the table
does not accept it. -/
def push (bench : Bench) (name : String) (session : Session) : Except Fault Nat × Bench :=
  let bench := bench.removeLoose name
  match bench.exchange.table.push session with
  | .ok table => (.ok bench.exchange.table.size, bench.setTable table)
  | .error fault =>
    (.error fault, bench.setResources (session.abandon bench.exchange.resources))

/-! ## Bridges -/

/-- The slot of the live inbound leg of a call that keeps a bridge. -/
def bridgeSlot? (bench : Bench) (call : String) : Option Nat :=
  bench.exchange.table.findSlot? fun _ slot =>
    slot.isLive && slot.session.direction = .inbound && slot.session.bridge.isSome &&
      (slot.session.callId.map CallId.text) = some call

/-- Lets the bridge of a loose session run until no audio waits that it could move. -/
def exhaustLoose (bench : Bench) (entry : String × Session) : Bench :=
  let (session, resources) := entry.2.exhaustBridge bench.exchange.resources
  { bench.setResources resources with
    loose := bench.loose.map fun other =>
      if other.1 = entry.1 then (entry.1, session) else other }

/-- Lets all bridges run until no audio waits that they could move. -/
def exhaustBridges (bench : Bench) : Bench :=
  bench.loose.foldl exhaustLoose { bench with exchange := bench.exchange.exhaustBridges }

end Bench

end FaxRelay
