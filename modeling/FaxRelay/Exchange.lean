import FaxRelay.Table

/-!
# The exchange

Signaling turned into calls. A setup makes the inbound leg against the source,
then the outbound leg, links the two and starts their bridge; whatever fails,
everything made so far is given back and the table is as it was. A release
destroys both legs. A call whose media socket fails, or whose bridge has failed,
is destroyed as well.

Every datagram that is no message, and every setup, is answered; nothing else
is.
-/

set_option autoImplicit false

namespace FaxRelay

open FaxRelay.Net FaxRelay.Signal

/-- What the exchange counts. The counts stand for 64-bit counters, which no run fills. -/
structure Counters where
  established : Nat
  rejected : Nat
  released : Nat
  parseFailures : Nat
  mediaErrors : Nat
  deriving DecidableEq, Repr

/-- The counters at the start. -/
def Counters.zero : Counters := ⟨0, 0, 0, 0, 0⟩

/-- The counters together with what the table holds (`GatewayStats`). -/
structure Statistics where
  activeSessions : Nat
  activeCalls : Nat
  counters : Counters
  deriving DecidableEq, Repr

/-- The sessions, what they draw on, and the counters (`CallOrchestrator`). -/
structure Exchange where
  table : Table
  resources : Resources
  counters : Counters

namespace Exchange

/-- An exchange without sessions. -/
def ofResources (capacity : Nat) (resources : Resources) : Exchange :=
  ⟨Table.empty capacity, resources, Counters.zero⟩

/-- The statistics of an exchange. -/
def statistics (exchange : Exchange) : Statistics :=
  ⟨exchange.table.liveSessions.length, exchange.table.mediaCount / 2, exchange.counters⟩

/-! ## Setting up a call -/

/-- The role of the outbound leg of a call. -/
def outboundRole? : FaxMode → Option Role
  | .gatewayToGateway => some .gateway
  | .gatewayToTerminal => some .terminal
  | .unknown => none

/-- The objection to another call with an identifier: no control session, no room for two legs,
or a call of that name. -/
def objection? (table : Table) (callId : CallId) : Option Fault :=
  if table.control?.isNone then some (.misuse .noControl)
  else if table.remaining < 2 then some (.capacity table.size table.capacity)
  else if (table.findCall? callId).isSome then some (.duplicateCall callId)
  else none

/-- A media leg that is created and opened; when it cannot be opened, it is destroyed. -/
def openLeg (role : Role) (index : Nat) (direction : Direction) (callId : CallId)
    (remote : Option Endpoint) (resources : Resources) : Except Fault Session × Resources :=
  match Session.create role index direction resources with
  | .error fault => (.error fault, resources)
  | .ok (session, resources) =>
    match session.openMedia callId remote resources with
    | (.ok (), session, resources) => (.ok session, resources)
    | (.error fault, session, resources) => (.error fault, (session.destroy resources).2)

/-- Links two legs and starts their bridge (`bridge_legs`). -/
def join (inbound outbound : Session) : Except Fault (Session × Session) :=
  match Session.link inbound outbound with
  | .error fault => .error fault
  | .ok (inbound, outbound) => inbound.startBridge outbound

/-- The two legs of a call, linked and bridged; when one cannot be had, neither remains. -/
def openLegs (outboundRole : Role) (base : Nat) (setup : Setup) (resources : Resources) :
    Except Fault (Session × Session) × Resources :=
  match openLeg .gateway base .inbound setup.callId (some setup.source) resources with
  | (.error fault, resources) => (.error fault, resources)
  | (.ok inbound, resources) =>
    match openLeg outboundRole (base + 1) .outbound setup.callId setup.destination resources with
    | (.error fault, resources) => (.error fault, (inbound.destroy resources).2)
    | (.ok outbound, resources) =>
      match join inbound outbound with
      | .ok legs => (.ok legs, resources)
      | .error fault => (.error fault, (inbound.destroy (outbound.destroy resources).2).2)

/-- Enters the two legs of a call into the table. Refused by the table, they are destroyed. -/
def enter (inbound outbound : Session) (table : Table) (resources : Resources) :
    Except Fault Unit × Table × Resources :=
  match table.objection? inbound with
  | some fault => (.error fault, table, (outbound.destroy (inbound.destroy resources).2).2)
  | none =>
    let entered := table.append inbound
    match entered.objection? outbound with
    | some fault =>
      match Table.destroyCall table.size entered resources with
      | .ok (closed, resources) => (.error fault, closed, (outbound.destroy resources).2)
      | .error _ => (.error fault, entered, (outbound.destroy resources).2)
    | none => (.ok (), entered.append outbound, resources)

/-- Makes the call that a setup asks for (`setup_call`); the endpoint of its inbound leg. -/
def setUp (setup : Setup) (exchange : Exchange) : Except Fault Endpoint × Exchange :=
  match outboundRole? setup.mode with
  | none => (.error (.unsupportedMode setup.mode), exchange)
  | some outboundRole =>
    match objection? exchange.table setup.callId with
    | some fault => (.error fault, exchange)
    | none =>
      match openLegs outboundRole exchange.table.size setup exchange.resources with
      | (.error fault, resources) => (.error fault, { exchange with resources := resources })
      | (.ok (inbound, outbound), resources) =>
        match inbound.localAddress with
        | none =>
          (.error (.misuse .noLocalAddress),
            { exchange with
              resources := (outbound.destroy (inbound.destroy resources).2).2 })
        | some address =>
          match enter inbound outbound exchange.table resources with
          | (.error fault, table, resources) =>
            (.error fault, { exchange with table := table, resources := resources })
          | (.ok (), table, resources) =>
            (.ok address,
              { table := table
                resources := resources
                counters :=
                  { exchange.counters with established := exchange.counters.established + 1 } })

/-! ## Ending a call -/

/-- Destroys the call of the media leg in a slot. -/
def destroyCall (index : Nat) (exchange : Exchange) : Except Fault Unit × Exchange :=
  match Table.destroyCall index exchange.table exchange.resources with
  | .error fault => (.error fault, exchange)
  | .ok (table, resources) =>
    (.ok (), { exchange with table := table, resources := resources })

/-- Destroys the call with an identifier (`release_call`); false when there is none. -/
def release (callId : CallId) (exchange : Exchange) : Bool × Exchange :=
  match exchange.table.findCall? callId with
  | none => (false, exchange)
  | some index =>
    match exchange.destroyCall index with
    | (.error _, exchange) => (false, exchange)
    | (.ok (), exchange) =>
      (true,
        { exchange with
          counters := { exchange.counters with released := exchange.counters.released + 1 } })

/-- Counts a call lost to a media socket. -/
def countMediaError (exchange : Exchange) : Exchange :=
  { exchange with
    counters := { exchange.counters with mediaErrors := exchange.counters.mediaErrors + 1 } }

/-- Destroys the call in a slot whose bridge has failed, and counts it. -/
def reapSlot (state : Nat × Exchange) (index : Nat) : Nat × Exchange :=
  let (reaped, exchange) := state
  if (exchange.table.session? index).isNone then state
  else
    match exchange.countMediaError.destroyCall index with
    | (.ok (), exchange) => (reaped + 1, exchange)
    | (.error _, exchange) => (reaped, exchange)

/-- Destroys every call whose bridge has failed (`reap_failed_bridges`); the number of calls. -/
def reap (exchange : Exchange) : Nat × Exchange :=
  exchange.table.failedBridges.foldl reapSlot (0, exchange)

/-! ## Signaling -/

/-- Answers a setup. -/
def answerSetup (setup : Setup) (exchange : Exchange) : Message × Exchange :=
  match exchange.setUp setup with
  | (.ok address, exchange) => (.ok setup.callId address, exchange)
  | (.error _, exchange) =>
    (.error setup.callId .internal,
      { exchange with
        counters := { exchange.counters with rejected := exchange.counters.rejected + 1 } })

/-- Handles one signaling datagram; the reply to it, if there is one. -/
def handleDatagram (datagram : Payload) (exchange : Exchange) : Option Message × Exchange :=
  match Message.ofDatagram datagram with
  | .error fault =>
    (some (.error (fault.callId?.getD CallId.placeholder) .invalidMessage),
      { exchange with
        counters :=
          { exchange.counters with parseFailures := exchange.counters.parseFailures + 1 } })
  | .ok (.setup setup) =>
    let (reply, exchange) := exchange.answerSetup setup
    (some reply, exchange)
  | .ok (.release callId) => (none, (exchange.release callId).2)
  | .ok (.ok _ _) => (none, exchange)
  | .ok (.error _ _) => (none, exchange)

/-- Sends a reply from the control session to the peer heard last (`send_reply`). A reply that
cannot be sent is given up. -/
def reply (message : Message) (exchange : Exchange) : Exchange :=
  match message.toDatagram, exchange.table.control? with
  | .ok payload, some control =>
    { exchange with resources := (control.send payload exchange.resources).2 }
  | _, _ => exchange

/-- Takes in one signaling datagram, of which no more than `size` bytes are kept, and answers
its sender. -/
def signal (size : Nat) (exchange : Exchange) (datagram : Endpoint × Payload) : Exchange :=
  let payload := datagram.2.take size
  let heard : Exchange :=
    { exchange with
      table := exchange.table.changeSession 0 fun session => session.heardFrom datagram.1
      resources := exchange.resources.note (.signaled datagram.1 payload) }
  match heard.handleDatagram payload with
  | (some message, exchange) => exchange.reply message
  | (none, exchange) => exchange

/-- Reads the control socket until it is empty and handles every datagram. -/
def handleControl (size : Nat) (exchange : Exchange) : Exchange :=
  match exchange.table.control?.bind Session.socket with
  | none => exchange
  | some address =>
    let (drained, fabric) := exchange.resources.fabric.drain address
    let resources := { exchange.resources with fabric := fabric }
    drained.datagrams.foldl (signal size) { exchange with resources := resources }

/-! ## Media -/

/-- Hands what waits for the session in a slot to its engine. When the socket fails, its call is
destroyed and counted. -/
def handleMedia (size : Nat) (index : Nat) (exchange : Exchange) : Exchange :=
  match exchange.table.session? index with
  | none => exchange
  | some session =>
    let (outcome, session, resources) := session.onReadable size exchange.resources
    let heard : Exchange :=
      { exchange with table := exchange.table.setSession index session, resources := resources }
    match outcome with
    | .ok _ => heard
    | .error _ => (heard.countMediaError.destroyCall index).2

/-- Lets the bridge kept in a slot make a number of passes. -/
def runBridge (index count : Nat) (exchange : Exchange) : Exchange :=
  match exchange.table.session? index with
  | none => exchange
  | some session =>
    let (session, resources) := session.runBridge count exchange.resources
    { exchange with table := exchange.table.setSession index session, resources := resources }

/-- Lets the bridge kept in a slot run until no audio waits that it could move. -/
def exhaustBridge (exchange : Exchange) (index : Nat) : Exchange :=
  match exchange.table.session? index with
  | none => exchange
  | some session =>
    let (session, resources) := session.exhaustBridge exchange.resources
    { exchange with table := exchange.table.setSession index session, resources := resources }

/-- Lets every bridge in the table run until no audio waits that it could move. -/
def exhaustBridges (exchange : Exchange) : Exchange :=
  (List.range exchange.table.size).foldl exhaustBridge exchange

/-- Compacts the table and handles the media that was reported; the number of slots dropped. -/
def compact (size : Nat) (exchange : Exchange) : Nat × Exchange :=
  let dispatch (index : Nat) (state : Table × Resources × Counters) :
      Table × Resources × Counters :=
    let handled := handleMedia size index ⟨state.1, state.2.1, state.2.2⟩
    (handled.table, handled.resources, handled.counters)
  let (removed, table, resources, counters) :=
    exchange.table.compact dispatch (exchange.resources, exchange.counters)
  (removed, ⟨table, resources, counters⟩)

/-- Destroys every session; the number of calls destroyed. -/
def destroyAll (exchange : Exchange) : Nat × Exchange :=
  let (calls, table, resources) := exchange.table.destroyAll exchange.resources
  (calls, { exchange with table := table, resources := resources })

end Exchange

end FaxRelay
