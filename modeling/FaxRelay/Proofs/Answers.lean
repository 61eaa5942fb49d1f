import FaxRelay.Proofs.Delivery
import FaxRelay.Proofs.Signal.RoundTrip

/-!
# Answers to signaling

A datagram of signaling is noted by the control session, handled, and answered
to its sender from the control socket. As far as the answer goes, it does not
matter what the datagram did to the calls.

A datagram that is longer than any message is refused like one that cannot be
read, provided that the buffer has room for more than a message: the buffer cuts
the datagram, and what is left has to be too long as well. A buffer that holds
exactly one message is accepted by the settings, too. It turns the datagram into
its first 256 bytes, and if these are a request, a call is made.
-/

set_option autoImplicit false

namespace FaxRelay

open FaxRelay.Media FaxRelay.Net FaxRelay.Pool FaxRelay.Signal

/-- What is longer than any message is no message. -/
theorem Signal.Message.ofDatagram_of_long {payload : Payload}
    (long : maxMessageLength < payload.length) :
    Message.ofDatagram payload = .error (.tooLong payload.length) := by
  have nonempty : ¬ payload.isEmpty = true := by
    rw [List.isEmpty_iff_length_eq_zero]
    omega
  rw [Message.ofDatagram, if_neg nonempty, if_pos long]

namespace Exchange

/-- An exchange after what waits on an endpoint was read. -/
def drained (address : Endpoint) (exchange : Exchange) : Exchange :=
  { exchange with
    resources :=
      { exchange.resources with fabric := (exchange.resources.fabric.drain address).2 } }

/-- The exchange after its control session took note of a datagram. -/
def noting (sender : Endpoint) (payload : Payload) (exchange : Exchange) : Exchange :=
  { exchange with
    table := exchange.table.changeSession 0 fun session => session.heardFrom sender
    resources := exchange.resources.note (.signaled sender payload) }

/-- The exchange after a datagram was sent. -/
def transmitting (transmission : Transmission) (exchange : Exchange) : Exchange :=
  { exchange with resources := (exchange.resources.transmit transmission).2 }

/-- The exchange after a datagram was noted that is no message: the failure is counted and answered
without naming a call. -/
def refusing (address sender : Endpoint) (payload : Payload) (exchange : Exchange) : Exchange :=
  transmitting ⟨address, sender, "ERROR 0 INVALID_MESSAGE\r\n".toList.map Char.toUInt8⟩
    { exchange.noting sender payload with
      counters :=
        { exchange.counters with parseFailures := exchange.counters.parseFailures + 1 } }

variable {exchange : Exchange}

theorem Sound.drained (sound : exchange.Sound) (address : Endpoint) :
    (exchange.drained address).Sound :=
  sound.of_quiet (exchange.quiet_fabric (Fabric.keeps_drain _ _))

/-- A reply goes from the control socket to whom the control session has heard last. -/
theorem reply_eq {message : Message} {line : Payload} {control : Session}
    {address sender : Endpoint} (written : message.toDatagram = .ok line)
    (present : exchange.table.control? = some control) (bound : control.socket = some address)
    (heard : control.remote = some sender) :
    exchange.reply message = exchange.transmitting ⟨address, sender, line⟩ := by
  rw [reply, written, present]
  simp only [Session.send, bound, heard, transmitting]
  cases exchange.resources.transmit ⟨address, sender, line⟩ with
  | mk answer resources => cases answer <;> rfl

/-- Once a datagram is noted, the control session has heard its sender, and listens where it did. -/
theorem Sound.control_noting (sound : exchange.Sound) (sender : Endpoint) (payload : Payload) :
    ∃ control address, exchange.table.control?.bind Session.socket = some address ∧
      (exchange.noting sender payload).table.control? = some control ∧
      control.socket = some address ∧ control.remote = some sender := by
  obtain ⟨slot, rest, slots, live, signaling⟩ := sound.table.control
  obtain ⟨address, bound⟩ := Option.isSome_iff_exists.mp signaling.has_socket
  have role : slot.session.role = .control := of_decide_eq_true signaling.control
  have present : exchange.table.session? 0 = some slot.session := by
    rw [Table.session?, slots]
    rfl
  have same : slot.session.heardFrom sender = { slot.session with remote := some sender } := by
    simp only [Session.heardFrom, role]
  refine ⟨{ slot.session with remote := some sender }, address, ?_, ?_, bound, rfl⟩
  · rw [Table.control?, present]
    exact (congrArg (·.bind Session.socket) (Option.filter_some_pos signaling.control)).trans bound
  · rw [Table.control?, noting, Table.session?_changeSession, if_pos rfl, present, Option.map_some,
      same]
    exact Option.filter_some_pos signaling.control

/-! ## Requests for a call -/

/-- A request for a call leaves the control session as it is. -/
theorem Sound.control?_answerSetup (sound : exchange.Sound) (setup : Setup) :
    (exchange.answerSetup setup).2.table.control? = exchange.table.control? := by
  have kept : (exchange.setUp setup).2.table.control? = exchange.table.control? := by
    cases result : exchange.setUp setup with
    | mk outcome after =>
      cases outcome with
      | error fault => rw [(setUp_error sound.ledger.sound result).1]
      | ok address =>
        obtain ⟨role, inbound, outbound, resources, _, _, _, _, rfl⟩ :=
          setUp_ok sound.ledger.sound result
        obtain ⟨control, rest, slots, _⟩ := sound.table.control
        simp only [Table.control?, Table.session?, Table.append, slots, List.cons_append,
          List.getElem?_cons_zero]
  rw [answerSetup]
  split
  · next same => rwa [same] at kept
  · next same => rwa [same] at kept

/-- **A request for a call is answered to its sender**, from the endpoint at which the gateway takes
signaling. -/
theorem Sound.signal_setup (sound : exchange.Sound) (size : Nat) (sender : Endpoint)
    {payload : Payload} {setup : Setup}
    (reads : Message.ofDatagram (payload.take size) = .ok (.setup setup)) :
    ∃ address line, exchange.table.control?.bind Session.socket = some address ∧
      ((exchange.noting sender (payload.take size)).answerSetup setup).1.toDatagram = .ok line ∧
      exchange.signal size (sender, payload) =
        transmitting ⟨address, sender, line⟩
          ((exchange.noting sender (payload.take size)).answerSetup setup).2 := by
  obtain ⟨control, address, listens, present, bound, heard⟩ :=
    sound.control_noting sender (payload.take size)
  have noted := sound.of_quiet (quiet_heard exchange sender (payload.take size))
  have kept := noted.control?_answerSetup setup
  have sendable : ((exchange.noting sender (payload.take size)).answerSetup setup).1.Sendable := by
    rw [answerSetup]
    split <;> trivial
  refine ⟨address, _, listens, Message.toDatagram_of_sendable sendable, ?_⟩
  have handled : (exchange.noting sender (payload.take size)).handleDatagram (payload.take size) =
      (some ((exchange.noting sender (payload.take size)).answerSetup setup).1,
        ((exchange.noting sender (payload.take size)).answerSetup setup).2) := by
    rw [Exchange.handleDatagram, reads]
  rw [noting] at handled
  rw [Exchange.signal]
  simp only [handled]
  exact reply_eq (Message.toDatagram_of_sendable sendable) (kept.trans present) bound heard

/-! ## Oversized datagrams -/

/-- An oversized datagram is refused when the buffer leaves it oversized. -/
theorem Sound.signal_oversized (sound : exchange.Sound) {size : Nat}
    (roomy : maxMessageLength < size) (sender : Endpoint) {payload : Payload}
    (long : maxMessageLength < payload.length) :
    ∃ address, exchange.table.control?.bind Session.socket = some address ∧
      exchange.signal size (sender, payload) =
        exchange.refusing address sender (payload.take size) := by
  have cut : maxMessageLength < (payload.take size).length := by
    rw [List.length_take]
    omega
  obtain ⟨control, address, listens, present, bound, heard⟩ :=
    sound.control_noting sender (payload.take size)
  have sendable : (Message.error .placeholder .invalidMessage).Sendable := trivial
  have written : (Message.error .placeholder .invalidMessage).toDatagram =
      .ok ("ERROR 0 INVALID_MESSAGE\r\n".toList.map Char.toUInt8) := by
    rw [Message.toDatagram_of_sendable sendable]
    exact congrArg Except.ok (by decide)
  refine ⟨address, listens, ?_⟩
  have handled : (exchange.noting sender (payload.take size)).handleDatagram (payload.take size) =
      (some (.error .placeholder .invalidMessage),
        { exchange.noting sender (payload.take size) with
          counters :=
            { exchange.counters with parseFailures := exchange.counters.parseFailures + 1 } }) := by
    rw [Exchange.handleDatagram, Message.ofDatagram_of_long cut]
    rfl
  rw [noting] at handled present
  rw [Exchange.signal]
  simp only [handled]
  exact reply_eq written present bound heard

/-- Handling the control socket handles what waits there up to the first fault. -/
theorem handleControl_eq {size : Nat} {address : Endpoint}
    (listens : exchange.table.control?.bind Session.socket = some address) :
    exchange.handleControl size =
      (Fabric.leadingDatagrams (exchange.resources.fabric.queue address)).foldl
        (Exchange.signal size)
        { exchange with
          resources :=
            { exchange.resources with
              fabric := (exchange.resources.fabric.drain address).2 } } := by
  rw [Exchange.handleControl, listens]
  rfl

end Exchange

namespace Gateway

/-- **Oversized signaling is refused** in every state that a gateway can reach, when its buffer
holds more than the longest message. The failure is counted and answered, and the calls are as they
were; this is all that handling the control socket does when nothing else waits there. -/
theorem Reachable.oversized_refused {gateway : Gateway} (reached : gateway.Reachable)
    (roomy : 256 < gateway.settings.bufferSize.toNat) (sender : Endpoint) {payload : Payload}
    (long : 256 < payload.length) :
    ∃ address, gateway.exchange.table.control?.bind Session.socket = some address ∧
      gateway.exchange.signal gateway.settings.bufferSize.toNat (sender, payload) =
        gateway.exchange.refusing address sender
          (payload.take gateway.settings.bufferSize.toNat) ∧
      (gateway.exchange.resources.fabric.queue address = [.datagram sender payload] →
        gateway.exchange.handleControl gateway.settings.bufferSize.toNat =
          Exchange.refusing address sender (payload.take gateway.settings.bufferSize.toNat)
            { gateway.exchange with
              resources :=
                { gateway.exchange.resources with
                  fabric := (gateway.exchange.resources.fabric.drain address).2 } }) ∧
      (gateway.exchange.signal gateway.settings.bufferSize.toNat
        (sender, payload)).table.slots.tail = gateway.exchange.table.slots.tail := by
  obtain ⟨address, listens, refused⟩ := reached.sound.signal_oversized roomy sender long
  refine ⟨address, listens, refused, fun waits => ?_, ?_⟩
  · rw [Exchange.handleControl_eq listens, waits]
    have drained := reached.advanced (.drained gateway.exchange listens)
    obtain ⟨address', listens', refused'⟩ := drained.sound.signal_oversized roomy sender long
    cases listens.symm.trans listens'
    exact refused'
  · rw [refused]
    show (gateway.exchange.table.slots.modify 0 _).tail = _
    cases gateway.exchange.table.slots <;> rfl

/-- A request for a call, filled up with blanks to one byte more than a message may have. -/
def padded : Payload :=
  ("SETUP 1 GT 127.0.0.1:4000".toList ++ List.replicate 232 ' ').map Char.toUInt8

theorem oversized_refused_padded :
    idle.Reachable ∧ 256 < idle.settings.bufferSize.toNat ∧ 256 < padded.length ∧
      (∃ address, idle.exchange.signal 2048 (⟨Ipv4.loopback, 5000⟩, padded) =
        idle.exchange.refusing address ⟨Ipv4.loopback, 5000⟩ (padded.take 2048)) ∧
      (idle.exchange.signal 2048 (⟨Ipv4.loopback, 5000⟩, padded)).counters =
        { Counters.zero with parseFailures := 1 } := by
  have roomy : 256 < idle.settings.bufferSize.toNat := by decide
  have long : 256 < padded.length := by decide +kernel
  obtain ⟨address, _, refused, _⟩ :=
    Reachable.oversized_refused reachable_idle roomy ⟨Ipv4.loopback, 5000⟩ long
  exact ⟨reachable_idle, roomy, long, ⟨address, refused⟩, by decide +kernel⟩

/-- **A buffer for exactly one message lets an oversized request through.** The settings are valid,
a gateway starts under them, and the request makes a call without being counted as a failure. -/
theorem oversized_carried_out :
    Settings.validate { bufferSize := 256 } = .ok () ∧ 256 < padded.length ∧
      ∃ gateway, start { bufferSize := 256 } .unfailing .loopback = .ok gateway ∧
        gateway.Reachable ∧
        (gateway.exchange.signal 256 (⟨Ipv4.loopback, 5000⟩, padded)).counters =
          { Counters.zero with established := 1 } ∧
        (gateway.exchange.signal 256 (⟨Ipv4.loopback, 5000⟩, padded)).table.size = 3 := by
  have outcome : (start { bufferSize := 256 } .unfailing .loopback).toOption.map (fun gateway =>
      ((gateway.exchange.signal 256 (⟨Ipv4.loopback, 5000⟩, padded)).counters,
        (gateway.exchange.signal 256 (⟨Ipv4.loopback, 5000⟩, padded)).table.size)) =
      some ({ Counters.zero with established := 1 }, 3) := by decide +kernel
  cases started : start { bufferSize := 256 } .unfailing .loopback with
  | error fault =>
    rw [started] at outcome
    cases outcome
  | ok gateway =>
    rw [started] at outcome
    obtain ⟨counters, size⟩ := Prod.mk.inj (Option.some.inj outcome)
    exact ⟨rfl, by decide +kernel, gateway, rfl, .started started, counters, size⟩

end Gateway

end FaxRelay
