import FaxRelay.Exchange

/-!
# The gateway

A gateway is an exchange with a control session that goes through rounds. In
each round it waits for its sockets, takes in all signaling, destroys the calls
whose bridge has failed, and compacts the table, handling the media of every
slot that was reported.

It goes on until it is asked to stop, which it notices between two rounds, and
then destroys every session. Destroying them twice changes nothing.

Here and below, a definition whose name differs from that of the operation of the
program for which it stands gives the latter in its docstring. Left out are the
log, clocks and timeouts, the threads that bridges run in (their passes may come
at any time), and addresses of more than four octets.
-/

set_option autoImplicit false

namespace FaxRelay

open FaxRelay.Net FaxRelay.Signal

/-- A gateway: its settings, and the exchange that carries its calls. -/
structure Gateway where
  settings : Settings
  exchange : Exchange

/-- The address of a network interface (`discover_interface_ip`), given what the host answers when
asked for its interfaces: the first one under the name. -/
def interfaceAddress (interfaces : Except OsFault (List Interface)) (name : String) :
    Except Fault Ipv4 :=
  match interfaces with
  | .error cause => .error (.socket .listInterfaces cause)
  | .ok entries =>
    match (entries.filter fun entry => entry.name = name).findSome? Interface.ip with
    | some ip => .ok ip
    | none => .error (.settings (.interface name))

/-- The address for media sockets (`resolve_media_ip`): that of the interface named in the settings,
or else the one given there. -/
def Settings.effectiveMediaIp (settings : Settings)
    (interfaces : Except OsFault (List Interface)) : Ipv4 :=
  match settings.interface with
  | none => settings.mediaIp
  | some name =>
    match interfaceAddress interfaces name with
    | .ok ip => ip
    | .error _ => settings.mediaIp

namespace Gateway

/-! ## Starting -/

/-- Starts a gateway (`new`): the settings have to be valid and the control socket has to open. The
host, whose interfaces give the address for media, is that of the network. -/
def start (settings : Settings) (supply : EngineSupply) (fabric : Fabric) :
    Except Fault Gateway :=
  match settings.validate with
  | .error fault => .error fault
  | .ok () =>
    let mediaIp := settings.effectiveMediaIp fabric.policy.interfaces
    let resources := Resources.ofSettings settings supply fabric mediaIp
    match Session.create .control 0 .inbound resources with
    | .error fault => .error fault
    | .ok (control, resources) =>
      match control.openControl settings.controlAddress resources with
      | (.error fault, _, _) => .error fault
      | (.ok (), control, resources) =>
        match (Table.empty settings.maxSessions.toNat).push control with
        | .error fault => .error fault
        | .ok table => .ok ⟨settings, ⟨table, resources, Counters.zero⟩⟩

/-- The endpoint at which the gateway takes signaling (`control_addr`). -/
def controlAddress? (gateway : Gateway) : Option Endpoint :=
  gateway.exchange.table.control?.bind Session.localAddress

/-! ## Rounds -/

/-- The sockets of an exchange with the tokens under which they are reported. -/
def watched (exchange : Exchange) : List (Endpoint × SessionId) :=
  exchange.table.slots.filterMap fun slot =>
    slot.session.socket.map fun address => (address, slot.session.id)

/-- The tokens that a wait reports. -/
def reported (exchange : Exchange) : List SessionId :=
  ((watched exchange).filter fun entry => exchange.resources.fabric.isReady entry.1).map Prod.snd

/-- Waits: marks every slot whose socket is reported. The number of reports. -/
def wait (exchange : Exchange) : Nat × Exchange :=
  let tokens := reported exchange
  let fabric := (watched exchange).foldl (fun fabric entry => fabric.settle entry.1)
    exchange.resources.fabric
  (tokens.length,
    { exchange with
      table := tokens.foldl (fun table token => (table.markReadable token).2) exchange.table
      resources := { exchange.resources with fabric := fabric } })

/-- What a round does after the wait. -/
def dispatch (size ready : Nat) (exchange : Exchange) : Exchange :=
  let signaled :=
    if 0 < ready then
      Exchange.handleControl size { exchange with table := exchange.table.clearReadable 0 }
    else exchange
  ((signaled.reap).2.compact size).2

/-- One round (`poll_once`); the number of sockets that were reported. -/
def poll (gateway : Gateway) : Nat × Gateway :=
  let (ready, waited) := wait gateway.exchange
  (ready,
    { gateway with exchange := dispatch gateway.settings.bufferSize.toNat ready waited })

/-- Destroys every call and the control session (`shutdown_sessions`). -/
def shutDown (gateway : Gateway) : Gateway :=
  { gateway with exchange := (gateway.exchange.destroyAll).2 }

/-- Goes through rounds until `stop` holds, but at most `limit` of them, and then shuts down. -/
def run (stop : Gateway → Bool) : Nat → Gateway → Gateway
  | 0, gateway => gateway.shutDown
  | limit + 1, gateway =>
    if stop gateway then gateway.shutDown else run stop limit gateway.poll.2

/-- The statistics of a gateway. -/
def statistics (gateway : Gateway) : Statistics := gateway.exchange.statistics

end Gateway

end FaxRelay
