import FaxRelay.Proofs.Admission
import FaxRelay.Proofs.Answers

/-!
# The first call

Settings can be valid and yet leave no room for a call. One number of the
inbound range goes to the control session, one call needs two ports, and the
control socket may stand in the way of the first two of them: on the same
address, or because one of the two addresses stands for all. The host may also
refuse a socket on one of the two. Under settings where none of this is so
(`Settings.CarriesCall`), the first request for a call is answered with an
endpoint; under all others it is answered with an error.

This supposes engines that can be had and a media address on which nobody else
has bound a socket.
-/

set_option autoImplicit false

namespace FaxRelay

open FaxRelay.Media FaxRelay.Net FaxRelay.Pool FaxRelay.Signal

/-- The endpoint for media on a port, on a host with the given policy. -/
def Settings.mediaEndpoint (settings : Settings) (policy : Policy) (port : UInt16) : Endpoint :=
  ⟨settings.effectiveMediaIp policy.interfaces, port⟩

/-- Settings under which a call can be carried: there are numbers for the control session and an
inbound leg, there are ports for two legs, and on neither of the first two the control socket stands
in the way of a media socket, or the host refuses one. -/
structure Settings.CarriesCall (settings : Settings) (policy : Policy) (control : Endpoint) :
    Prop where
  numbers : 2 ≤ settings.idPoolSize.toNat
  ports : 2 ≤ settings.portCount.toNat
  apart : ∀ port ∈ [settings.portBase, settings.portBase + 1],
    control.conflicts (settings.mediaEndpoint policy port) = false
  allowed : ∀ port ∈ [settings.portBase, settings.portBase + 1],
    policy.bindFault (settings.mediaEndpoint policy port) = none

/-- A request that was read and whose mode is known goes to a gateway and says where it is, or goes
to a terminal. -/
theorem Signal.served_of_ofDatagram {payload : Payload} {setup : Setup}
    (reads : Message.ofDatagram payload = .ok (.setup setup)) (known : setup.mode ≠ .unknown) :
    setup.mode = .gatewayToGateway ∧ setup.destination.isSome = true ∨
      setup.mode = .gatewayToTerminal := by
  obtain ⟨_, line, _, denotes⟩ := Message.line_of_ofDatagram reads
  obtain ⟨_, _, carries, _⟩ := denotes
  cases carries with
  | setup _ names _ _ _ =>
    cases names with
    | gatewayToGateway destination => exact .inl ⟨rfl, rfl⟩
    | gatewayToTerminal => exact .inr rfl
    | other => exact absurd rfl known

/-- Whether a socket can be opened does not depend on what waits in the others. -/
theorem Net.Fabric.canBind_update {fabric : Fabric} {address other : Endpoint}
    {change : Socket → Socket} :
    (fabric.update address change).CanBind other ↔ fabric.CanBind other := by
  have taken : (fabric.update address change).isTaken other = fabric.isTaken other := by
    rw [isTaken, update, List.any_map]
    refine congrArg fabric.sockets.any (funext fun entry => ?_)
    rw [Function.comp_apply]
    split <;> rfl
  rw [CanBind, CanBind, taken]
  rfl

namespace Exchange

/-! ## Before the first call -/

/-- What an exchange has before its first call: the control session alone in its table, a number
less than it was given, all the ports, and room for the sockets for which there was room, apart from
those in whose way the control socket stands. -/
structure Untouched (settings : Settings) (control : Endpoint) (fabric : Fabric)
    (exchange : Exchange) : Prop where
  roomy : 3 ≤ exchange.table.capacity
  alone : exchange.table.slots.length = 1
  inbound : (exchange.resources.ids.free .inbound).length + 1 = settings.idPoolSize.toNat
  outbound : (exchange.resources.ids.free .outbound).length = settings.idPoolSize.toNat
  ports_eq : exchange.resources.ports =
    MediaPorts.ofRange settings.portBase settings.portCount
  media_ip : exchange.resources.mediaIp =
    settings.effectiveMediaIp fabric.policy.interfaces
  sockets : ∀ address, exchange.resources.fabric.CanBind address ↔
    control.conflicts address = false ∧ fabric.CanBind address
  settings_eq : exchange.resources.engineSettings = settings.engine
  supply_eq : exchange.resources.supply = .unfailing
  counters_eq : exchange.counters = Counters.zero

/-- An exchange after a datagram has arrived at an endpoint. -/
def receiving (address sender : Endpoint) (payload : Payload) (exchange : Exchange) : Exchange :=
  { exchange with
    resources :=
      { exchange.resources with
        fabric := exchange.resources.fabric.deliver address (.datagram sender payload) } }

namespace Untouched

variable {settings : Settings} {control : Endpoint} {fabric : Fabric} {exchange : Exchange}
  (untouched : exchange.Untouched settings control fabric)
include untouched

theorem receiving (address sender : Endpoint) (payload : Payload) :
    (exchange.receiving address sender payload).Untouched settings control fabric :=
  { untouched with sockets := fun other => Fabric.canBind_update.trans (untouched.sockets other) }

theorem drained (address : Endpoint) :
    (exchange.drained address).Untouched settings control fabric :=
  { untouched with sockets := fun other => Fabric.canBind_update.trans (untouched.sockets other) }

/-- Taking note of a datagram touches nothing. -/
theorem noting (sender : Endpoint) (payload : Payload) :
    (exchange.noting sender payload).Untouched settings control fabric :=
  { untouched with alone := (List.length_modify ..).trans untouched.alone }

/-- The ports that come next are the first two of the range. -/
theorem next_ports (ports : 2 ≤ settings.portCount.toNat) :
    exchange.resources.ports.free.take 2 = [settings.portBase, settings.portBase + 1] := by
  obtain ⟨count, split⟩ := Nat.exists_eq_add_of_le' ports
  rw [untouched.ports_eq, MediaPorts.free_ofRange, split, List.range_succ_eq_map,
    List.range_succ_eq_map]
  simp

/-- **The first call is admitted exactly when the settings carry a call.** -/
theorem admits_iff (sound : exchange.Sound)
    (makes : ∃ engine, Engine.ofSettings settings.engine = .ok engine)
    (vacant : ∀ port, fabric.isTaken (settings.mediaEndpoint fabric.policy port) = false)
    {setup : Setup}
    (served : setup.mode = .gatewayToGateway ∧ setup.destination.isSome = true ∨
      setup.mode = .gatewayToTerminal) :
    exchange.Admits setup ↔ settings.CarriesCall fabric.policy control := by
  have ids := sound.ledger.sound.ids
  have ports : exchange.resources.ports.available = settings.portCount.toNat := by
    rw [MediaPorts.available_eq sound.ledger.sound.ports, untouched.ports_eq,
      MediaPorts.free_ofRange, List.length_map, List.length_range]
  have opens : ∀ port, exchange.resources.fabric.CanBind ⟨exchange.resources.mediaIp, port⟩ ↔
      control.conflicts (settings.mediaEndpoint fabric.policy port) = false ∧
        fabric.policy.bindFault (settings.mediaEndpoint fabric.policy port) = none := by
    intro port
    rw [untouched.media_ip, untouched.sockets]
    exact and_congr_right fun _ => and_iff_left (vacant port)
  have inbound := untouched.inbound
  have sized : settings.engine.queueOverflows = false := by
    obtain ⟨engine, made⟩ := makes
    exact overflows_eq_false_iff.mpr (Engine.ofSettings_eq_ok_iff.mp made).1
  constructor
  · intro admits
    have numbers := admits.numbers .inbound
    rw [SessionIds.available_eq ids] at numbers
    have two : 2 ≤ settings.portCount.toNat := ports ▸ admits.ports
    have sockets := admits.sockets
    rw [untouched.next_ports two] at sockets
    exact ⟨by omega, two, fun port member => ((opens port).mp (sockets port member)).1,
      fun port member => ((opens port).mp (sockets port member)).2⟩
  · rintro ⟨numbers, two, apart, allowed⟩
    refine ⟨served, ?_, ?_, fun direction => ?_, ports ▸ two, fun port member => ?_, ?_, ?_, ?_⟩
    · have roomy := untouched.roomy
      have alone := untouched.alone
      omega
    · intro leg member
      obtain ⟨control, slots⟩ := List.length_eq_one_iff.mp untouched.alone
      rw [Table.liveLegs, slots] at member
      cases member
    · rw [SessionIds.available_eq ids]
      cases direction with
      | inbound => omega
      | outbound =>
        rw [untouched.outbound]
        omega
    · rw [untouched.next_ports two] at member
      exact (opens port).mpr ⟨apart port member, allowed port member⟩
    · rw [untouched.supply_eq]
      exact ⟨rfl, rfl⟩
    · rw [untouched.settings_eq]
      exact sized
    · rw [untouched.supply_eq]
      exact ⟨rfl, rfl⟩

/-- What is answered to the first request for a call, and what is counted. -/
theorem answerSetup_outcome (sound : exchange.Sound)
    (makes : ∃ engine, Engine.ofSettings settings.engine = .ok engine)
    (vacant : ∀ port, fabric.isTaken (settings.mediaEndpoint fabric.policy port) = false)
    {setup : Setup}
    (served : setup.mode = .gatewayToGateway ∧ setup.destination.isSome = true ∨
      setup.mode = .gatewayToTerminal) :
    (settings.CarriesCall fabric.policy control ∧
      (exchange.answerSetup setup).1 =
        .ok setup.callId (settings.mediaEndpoint fabric.policy settings.portBase) ∧
      (exchange.answerSetup setup).2.counters = { Counters.zero with established := 1 }) ∨
    (¬ settings.CarriesCall fabric.policy control ∧
      (exchange.answerSetup setup).1 = .error setup.callId .internal ∧
      (exchange.answerSetup setup).2.counters = { Counters.zero with rejected := 1 }) := by
  have criterion := untouched.admits_iff sound makes vacant served
  rw [answerSetup]
  rcases sound.setUp_outcome setup with
    ⟨admits, after, first, second, inbound, outbound, made, enters⟩ |
    ⟨refuses, fault, after, failed⟩
  · have carries := criterion.mp admits
    obtain ⟨rest, free⟩ := enters.next_ports
    have next := untouched.next_ports carries.ports
    rw [free] at next
    obtain ⟨rfl, _⟩ := List.cons.inj next
    obtain ⟨_, _, _, _, _, _, _, _, rfl⟩ := setUp_ok sound.ledger.sound made
    rw [made]
    refine .inl ⟨carries, ?_, ?_⟩
    · rw [untouched.media_ip]
      rfl
    · simp only [untouched.counters_eq, Counters.zero]
  · obtain ⟨_, counters, _⟩ := setUp_error sound.ledger.sound failed
    rw [failed]
    refine .inr ⟨fun carries => refuses (criterion.mpr carries), rfl, ?_⟩
    simp only [counters, untouched.counters_eq, Counters.zero]

end Untouched

end Exchange

namespace Gateway

/-! ## The gateway at its start -/

section Started

variable {settings : Settings} {fabric : Fabric} {gateway : Gateway}

/-- Of a gateway that has just started nothing was touched. -/
theorem untouched_start (started : start settings .unfailing fabric = .ok gateway) :
    gateway.exchange.Untouched settings gateway.signalingAddress fabric := by
  obtain ⟨valid, _, _, _, _, _, _, _, zero⟩ := start_eq_ok started
  obtain ⟨roomy, _, idsFit, _, _, _⟩ := Settings.bounds_of_validate valid
  obtain ⟨placed, id, ids, opened, found, issued, bound, resources, table⟩ :=
    start_resources started
  obtain rfl := Except.ok.inj (found.symm.trans (placed_start started))
  have fresh := SessionIds.length_free_ofSize settings.idPoolSize
  obtain ⟨_, _, refused⟩ | ⟨_, _, issued', number, others⟩ :=
    (SessionIds.sound_ofSize idsFit).allocate_cases .inbound
  · rw [refused] at issued
    cases issued
  obtain ⟨rfl, rfl⟩ := Prod.mk.inj (Except.ok.inj (issued'.symm.trans issued))
  refine ⟨table ▸ roomy, table ▸ rfl, ?_, ?_, ?_, ?_, fun address => ?_, ?_, ?_, zero⟩
  · rw [resources, ← fresh .inbound, number, List.length_cons]
  · rw [resources, ← fresh .outbound]
    exact congrArg List.length others
  · rw [resources]
    rfl
  · rw [resources]
    rfl
  · rw [resources]
    rcases fabric.bind_outcome .relay gateway.signalingAddress with
      ⟨_, withSocket⟩ | ⟨_, cause, refused⟩
    · cases withSocket.symm.trans bound
      exact Fabric.canBind_withSocket_iff
    · rw [refused] at bound
      cases bound
  · rw [resources]
    rfl
  · rw [resources]
    rfl

/-- What arrives first at the control socket waits alone in it. -/
theorem queue_receiving_start (started : start settings .unfailing fabric = .ok gateway)
    (sender : Endpoint) (payload : Payload) :
    (gateway.exchange.receiving gateway.signalingAddress sender payload).resources.fabric.queue
      gateway.signalingAddress = [.datagram sender payload] := by
  obtain ⟨placed, _, _, opened, found, _, bound, resources, _⟩ := start_resources started
  obtain rfl := Except.ok.inj (found.symm.trans (placed_start started))
  have open' : opened.holder? gateway.signalingAddress = some .relay := by
    rw [Fabric.holder?_bind bound, if_pos rfl]
  have empty : opened.queue gateway.signalingAddress = [] := by
    rw [Fabric.queue_bind bound, Fabric.queue, (Fabric.bind_eq_ok bound).1]
    rfl
  rw [Exchange.receiving, resources]
  refine (Fabric.queue_deliver _ (Option.isSome_of_eq_some open')).trans ?_
  rw [empty, if_pos rfl, List.nil_append]

/-- **The first request for a call is answered with an endpoint exactly when the settings carry a
call**, and with an error otherwise. It is read from the control socket, where the network has
placed it, the answer goes from there to the sender, and the request is counted accordingly. -/
theorem first_call_answered (started : start settings .unfailing fabric = .ok gateway)
    (makes : ∃ engine, Engine.ofSettings settings.engine = .ok engine)
    (vacant : ∀ port, fabric.isTaken (settings.mediaEndpoint fabric.policy port) = false)
    (sender : Endpoint) {payload : Payload} {setup : Setup}
    (reads : Message.ofDatagram payload = .ok (.setup setup)) (known : setup.mode ≠ .unknown) :
    ∃ (control : Endpoint) (answer : Message) (line : Payload) (answered : Exchange),
      fabric.place settings.controlAddress = .ok control ∧ answer.toDatagram = .ok line ∧
      (gateway.exchange.receiving control sender payload).handleControl
          settings.bufferSize.toNat =
        Exchange.transmitting ⟨control, sender, line⟩ answered ∧
      ((settings.CarriesCall fabric.policy control ∧
          answer = .ok setup.callId (settings.mediaEndpoint fabric.policy settings.portBase) ∧
          answered.counters = { Counters.zero with established := 1 }) ∨
        (¬ settings.CarriesCall fabric.policy control ∧ answer = .error setup.callId .internal ∧
          answered.counters = { Counters.zero with rejected := 1 })) := by
  obtain ⟨valid, _⟩ := start_eq_ok started
  obtain ⟨_, _, _, _, _, buffer⟩ := Settings.bounds_of_validate valid
  have whole : payload.take settings.bufferSize.toNat = payload :=
    List.take_of_length_le ((Message.line_of_ofDatagram reads).1.trans buffer)
  have waits := queue_receiving_start started sender payload
  have listens : (gateway.exchange.receiving gateway.signalingAddress sender
      payload).table.control?.bind Session.socket = some gateway.signalingAddress :=
    listening_start started
  -- The datagram has arrived, and the control socket is read.
  have reached :
      Reachable ⟨_, gateway.exchange.receiving gateway.signalingAddress sender payload⟩ :=
    (Reachable.started started).advanced (.beside (.network (.nothing _) (.arrived _ _ _)))
  have arrived := (untouched_start started).receiving gateway.signalingAddress sender payload
  have placed := placed_start started
  refine ⟨gateway.signalingAddress, ?_⟩
  generalize gateway.signalingAddress = control at *
  generalize gateway.exchange.receiving control sender payload = exchange at *
  have sound := (reached.advanced (.drained _ listens)).sound
  have untouched := arrived.drained control
  obtain ⟨address, line, listens', written, signaled⟩ :=
    sound.signal_setup settings.bufferSize.toNat sender (whole.symm ▸ reads)
  cases listens.symm.trans listens'
  rw [whole] at written signaled
  refine ⟨_, line, _, placed, written, ?_, (untouched.noting sender payload).answerSetup_outcome
    (sound.of_quiet (Exchange.quiet_heard _ sender payload)) makes vacant
    (served_of_ofDatagram reads known)⟩
  rw [Exchange.handleControl_eq listens, waits]
  exact signaled

end Started

/-- A request for a call to a terminal. -/
def request : Payload := "SETUP 0 GT 127.0.0.1:4000".toList.map Char.toUInt8

/-- Under the default settings the first call is answered with the first port. -/
theorem first_call_answered_default :
    ∃ line answered,
      (Message.ok CallId.placeholder ⟨Ipv4.loopback, 37000⟩).toDatagram = .ok line ∧
      (idle.exchange.receiving ⟨Ipv4.unspecified, 23232⟩ ⟨Ipv4.loopback, 5000⟩
          request).handleControl 2048 =
        Exchange.transmitting ⟨⟨Ipv4.unspecified, 23232⟩, ⟨Ipv4.loopback, 5000⟩, line⟩ answered ∧
      answered.counters = { Counters.zero with established := 1 } := by
  have reads : Message.ofDatagram request =
      .ok (.setup (.toTerminal CallId.placeholder ⟨Ipv4.loopback, 4000⟩)) := by decide +kernel
  have carries : Settings.CarriesCall {} Policy.loopback ⟨Ipv4.unspecified, 23232⟩ := by
    refine ⟨by decide, by decide, fun port member => ?_, fun _ _ => rfl⟩
    rcases List.mem_pair.mp member with rfl | rfl <;> decide
  obtain ⟨control, answer, line, answered, placed, written, handled, outcome⟩ :=
    first_call_answered start_idle ⟨_, rfl⟩ (fun _ => rfl) ⟨Ipv4.loopback, 5000⟩ reads
      (by decide)
  cases placed
  rcases outcome with ⟨_, rfl, counters⟩ | ⟨refuses, _⟩
  · exact ⟨line, answered, written, handled, counters⟩
  · exact absurd carries refuses

/-- **A range of one number is valid and carries no call.** The gateway starts, the network is its
own and every engine can be had, and the first request for a call is answered with an error. -/
theorem first_call_refused :
    Settings.validate { idPoolSize := 1 } = .ok () ∧
      (∀ port, Fabric.loopback.CanBind ⟨Ipv4.loopback, port⟩) ∧
      ∃ gateway handled, start { idPoolSize := 1 } .unfailing .loopback = .ok gateway ∧
        (gateway.exchange.receiving ⟨Ipv4.unspecified, 23232⟩ ⟨Ipv4.loopback, 5000⟩
          request).handleControl 2048 = handled ∧
        handled.counters = { Counters.zero with rejected := 1 } ∧
        handled.resources.journal.head? =
          some (.sent ⟨⟨Ipv4.unspecified, 23232⟩, ⟨Ipv4.loopback, 5000⟩,
            "ERROR 0 INTERNAL_ERR\r\n".toList.map Char.toUInt8⟩ none) := by
  have outcome : (start { idPoolSize := 1 } .unfailing .loopback).toOption.map (fun gateway =>
      let handled := (gateway.exchange.receiving ⟨Ipv4.unspecified, 23232⟩
        ⟨Ipv4.loopback, 5000⟩ request).handleControl 2048
      (handled.counters, handled.resources.journal.head?)) =
      some ({ Counters.zero with rejected := 1 },
        some (.sent ⟨⟨Ipv4.unspecified, 23232⟩, ⟨Ipv4.loopback, 5000⟩,
          "ERROR 0 INTERNAL_ERR\r\n".toList.map Char.toUInt8⟩ none)) := by decide +kernel
  cases started : start { idPoolSize := 1 } .unfailing .loopback with
  | error fault =>
    rw [started] at outcome
    cases outcome
  | ok gateway =>
    rw [started] at outcome
    obtain ⟨counters, said⟩ := Prod.mk.inj (Option.some.inj outcome)
    exact ⟨rfl, fun _ => ⟨rfl, rfl⟩, gateway, _, rfl, rfl, counters, said⟩

/-- A control socket on all addresses stands in the way of the first media port when it has that
port. -/
example : ¬ Settings.CarriesCall { controlPort := 37000 } Policy.loopback
    ⟨Ipv4.unspecified, 37000⟩ := fun carries =>
  absurd (carries.apart 37000 List.mem_cons_self) (by decide)

end Gateway

end FaxRelay
