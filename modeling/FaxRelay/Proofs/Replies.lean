import FaxRelay.Proofs.Answers
import FaxRelay.Proofs.Statistics

/-!
# Replies

Whatever a datagram of signaling asks for, handling it sends nothing by itself.
The reply, if there is one, is sent afterwards, from the control socket to the
sender of this datagram (`Exchange.Sound.signal_cases`): the control session has
noted the sender, and nothing that is done to the calls makes it forget.

So one datagram adds at most one entry to what was sent from the control socket.
And a reply is never answered: what is written is read back as the reply that it
is, and a relay does nothing about a reply (`Exchange.replies_unanswered`). Two
relays that hear each other do not answer each other for ever.
-/

set_option autoImplicit false

namespace FaxRelay

open FaxRelay.Media FaxRelay.Net FaxRelay.Pool FaxRelay.Signal

namespace Signal

/-- A reply: it accepts a request or complains. -/
def Message.IsReply : Message → Prop
  | .ok _ _ => True
  | .error _ _ => True
  | _ => False

namespace Message.IsReply

variable {message : Message} (reply : message.IsReply)
include reply

theorem sendable : message.Sendable := by
  cases message with
  | setup => cases reply
  | release => cases reply
  | ok => trivial
  | error => trivial

/-- A reply that was written is read as it was meant. -/
theorem reads {line : Payload} (written : message.toDatagram = .ok line) :
    line.length ≤ maxMessageLength ∧ Message.ofDatagram line = .ok message := by
  rw [Message.toDatagram_of_sendable reply.sendable] at written
  cases written
  have short := Grammar.length_line message
  exact ⟨by rwa [List.length_map],
    Message.ofDatagram_of_line (Grammar.line_chars reply.sendable) short⟩

end Message.IsReply

end Signal

/-! ## Handling without sending -/

namespace Exchange

/-- Handling a datagram is silent: the reply to it is not sent yet. -/
theorem silent_handleDatagram (exchange : Exchange) (datagram : Payload) :
    exchange.resources.Silent (exchange.handleDatagram datagram).2.resources := by
  rw [Exchange.handleDatagram]
  split
  · exact .refl _
  · next setup _ =>
    have silent := exchange.silent_setUp setup
    dsimp only [answerSetup]
    split
    · next same => rwa [same] at silent
    · next same => rwa [same] at silent
  · next callId _ => exact exchange.silent_release callId
  · exact .refl _
  · exact .refl _

variable {exchange : Exchange} {datagram : Payload} {message : Message}

/-- What a datagram is answered with is a reply, never a request. -/
theorem isReply_handleDatagram (given : (exchange.handleDatagram datagram).1 = some message) :
    message.IsReply := by
  rw [Exchange.handleDatagram] at given
  split at given
  · cases given
    trivial
  · next setup _ =>
    cases given
    show (exchange.answerSetup setup).1.IsReply
    rw [answerSetup]
    split <;> trivial
  · cases given
  · cases given
  · cases given

/-- A datagram that is read as a reply is not answered, and nothing is done about it. -/
theorem handleDatagram_of_isReply (reads : Message.ofDatagram datagram = .ok message)
    (reply : message.IsReply) : exchange.handleDatagram datagram = (none, exchange) := by
  rw [Exchange.handleDatagram, reads]
  cases message with
  | setup => cases reply
  | release => cases reply
  | ok => rfl
  | error => rfl

/-- **No reply is answered.** Whatever a datagram is answered with can be written, and whoever is
handed what was written, in whatever state, answers nothing and stays exactly as it is. -/
theorem replies_unanswered (given : (exchange.handleDatagram datagram).1 = some message) :
    ∃ line, message.toDatagram = .ok line ∧
      ∀ other : Exchange, other.handleDatagram line = (none, other) := by
  have reply := isReply_handleDatagram given
  have written := Message.toDatagram_of_sendable reply.sendable
  obtain ⟨_, reads⟩ := reply.reads written
  exact ⟨_, written, fun _ => handleDatagram_of_isReply reads reply⟩

/-- The idle relay complains about what is no message, and whoever gets the complaint is silent. -/
theorem replies_unanswered_greeting :
    (Gateway.idle.exchange.handleDatagram ("HELLO".toList.map Char.toUInt8)).1 =
        some (.error CallId.placeholder .invalidMessage) ∧
      ∃ line, (Message.error CallId.placeholder .invalidMessage).toDatagram = .ok line ∧
        ∀ other : Exchange, other.handleDatagram line = (none, other) := by
  have answered : (Gateway.idle.exchange.handleDatagram ("HELLO".toList.map Char.toUInt8)).1 =
      some (.error CallId.placeholder .invalidMessage) := by decide +kernel
  exact ⟨answered, replies_unanswered answered⟩

end Exchange

/-! ### What the network refuses -/

theorem Session.policy_destroy (session : Session) (resources : Resources) :
    (session.destroy resources).2.fabric.policy = resources.fabric.policy := by
  rcases session.fabric_destroy resources with same | ⟨_, _, closed⟩
  · rw [same]
  · rw [closed]
    rfl

namespace Exchange

variable {exchange : Exchange}

theorem Sound.policy_setUp (sound : exchange.Sound) (setup : Setup) :
    (exchange.setUp setup).2.resources.fabric.policy = exchange.resources.fabric.policy := by
  cases result : exchange.setUp setup with
  | mk outcome after =>
    cases outcome with
    | error fault =>
      obtain ⟨_, _, unwound, _⟩ := setUp_error sound.ledger.sound result
      exact congrArg Fabric.policy unwound.fabric_eq
    | ok address =>
      obtain ⟨_, _, _, resources, _, _, opened, _, rfl⟩ := setUp_ok sound.ledger.sound result
      obtain ⟨_, _, middle, _, _, bound, bound'⟩ := openLegs_sockets opened
      obtain ⟨_, rfl⟩ := Fabric.bind_eq_ok bound
      obtain ⟨_, same⟩ := Fabric.bind_eq_ok bound'
      show resources.fabric.policy = _
      rw [same]

theorem Sound.policy_release (sound : exchange.Sound) (callId : CallId) :
    (exchange.release callId).2.resources.fabric.policy = exchange.resources.fabric.policy := by
  rw [Exchange.release]
  split
  · rfl
  next index present =>
  obtain ⟨slot, found, behind, isOf⟩ := Table.findCall?_eq_some present
  obtain ⟨_, _, _, _, _, _, _, _, destroyed⟩ := sound.table.destroyCall_leg
    sound.ledger.ids_nodup found behind (Slot.isOf_iff.mp isOf).1
  rw [Exchange.destroyCall, destroyed]
  exact (Session.policy_destroy _ _).trans (Session.policy_destroy _ _)

theorem Sound.policy_handleDatagram (sound : exchange.Sound) (datagram : Payload) :
    (exchange.handleDatagram datagram).2.resources.fabric.policy =
      exchange.resources.fabric.policy := by
  rw [Exchange.handleDatagram]
  split
  · rfl
  · next setup _ =>
    have kept := sound.policy_setUp setup
    dsimp only [answerSetup]
    split
    · next same => rwa [same] at kept
    · next same => rwa [same] at kept
  · next callId _ => exact sound.policy_release callId
  · rfl
  · rfl

/-! ## Sending the reply -/

/-- What is done with a datagram of signaling before it is answered, with the reply to it. -/
def handling (size : Nat) (datagram : Endpoint × Payload) (exchange : Exchange) :
    Option Message × Exchange :=
  (exchange.noting datagram.1 (datagram.2.take size)).handleDatagram (datagram.2.take size)

section Signaled

variable {size : Nat} {datagram : Endpoint × Payload}

theorem signal_of_none (silent : (exchange.handling size datagram).1 = none) :
    exchange.signal size datagram = (exchange.handling size datagram).2 := by
  rw [Exchange.signal]
  split
  · next message _ same =>
    change exchange.handling size datagram = _ at same
    rw [same] at silent
    cases silent
  · next same =>
    change exchange.handling size datagram = _ at same
    rw [same]

theorem signal_of_some {message : Message}
    (given : (exchange.handling size datagram).1 = some message) :
    exchange.signal size datagram = (exchange.handling size datagram).2.reply message := by
  rw [Exchange.signal]
  split
  · next message _ same =>
    change exchange.handling size datagram = _ at same
    rw [same] at given ⊢
    cases given
    rfl
  · next same =>
    change exchange.handling size datagram = _ at same
    rw [same] at given
    cases given

end Signaled

theorem Sound.noting (sound : exchange.Sound) (sender : Endpoint) (payload : Payload) :
    (exchange.noting sender payload).Sound := sound.of_quiet (quiet_heard exchange sender payload)

/-- **A datagram of signaling is handled, and what is sent is at most one reply,** from the control
socket to its sender. -/
theorem Sound.signal_cases (sound : exchange.Sound) {address : Endpoint}
    (listens : exchange.table.control?.bind Session.socket = some address) (size : Nat)
    (datagram : Endpoint × Payload) :
    ((exchange.handling size datagram).1 = none ∧
      exchange.signal size datagram = (exchange.handling size datagram).2) ∨
    ∃ message line, (exchange.handling size datagram).1 = some message ∧
      message.IsReply ∧ message.toDatagram = .ok line ∧
      exchange.signal size datagram =
        (exchange.handling size datagram).2.transmitting ⟨address, datagram.1, line⟩ := by
  obtain ⟨control, other, listens', present, bound, heard⟩ :=
    sound.control_noting datagram.1 (datagram.2.take size)
  cases listens.symm.trans listens'
  have noted := sound.noting datagram.1 (datagram.2.take size)
  -- As far as there is a reply, the control session is still as it was when it noted the sender.
  have kept : (exchange.handling size datagram).1 = none ∨
      ∃ message, (exchange.handling size datagram).1 = some message ∧ message.IsReply ∧
        (exchange.handling size datagram).2.table.control? = some control := by
    rw [handling, Exchange.handleDatagram]
    split
    · exact .inr ⟨_, rfl, trivial, present⟩
    · next setup _ =>
      refine .inr ⟨_, rfl, ?_, (noted.control?_answerSetup setup).trans present⟩
      rw [answerSetup]
      split <;> trivial
    · exact .inl rfl
    · exact .inl rfl
    · exact .inl rfl
  rcases kept with silent | ⟨message, given, isReply, present'⟩
  · exact .inl ⟨silent, signal_of_none silent⟩
  · have written := Message.toDatagram_of_sendable isReply.sendable
    exact .inr ⟨message, _, given, isReply, written,
      (signal_of_some given).trans (reply_eq written present' bound heard)⟩

theorem policy_transmitting (transmission : Transmission) :
    (exchange.transmitting transmission).resources.fabric.policy =
      exchange.resources.fabric.policy := by
  rw [transmitting, Resources.transmit, Fabric.send]
  cases exchange.resources.fabric.policy.sendFault transmission.source
    transmission.destination transmission.payload.length <;> rfl

theorem Sound.policy_signal (sound : exchange.Sound) (size : Nat)
    (datagram : Endpoint × Payload) :
    (exchange.signal size datagram).resources.fabric.policy = exchange.resources.fabric.policy := by
  obtain ⟨_, address, listens, _⟩ := sound.control_noting datagram.1 (datagram.2.take size)
  have handled : (exchange.handling size datagram).2.resources.fabric.policy =
      exchange.resources.fabric.policy :=
    (sound.noting ..).policy_handleDatagram (datagram.2.take size)
  rcases sound.signal_cases listens size datagram with
    ⟨_, signaled⟩ | ⟨_, _, _, _, _, signaled⟩
  · rw [signaled, handled]
  · rw [signaled, policy_transmitting, handled]

end Exchange

/-! ## What was sent -/

/-- A datagram that the relay tries to send, with the fault if the network refuses it. -/
def Net.Policy.attempt (policy : Policy) (transmission : Transmission) :
    Transmission × Option OsFault :=
  (transmission, policy.sendFault transmission.source transmission.destination
    transmission.payload.length)

/-- What the relay tries to send in reply to a datagram: nothing, or the datagram of the reply. -/
inductive Replied (address sender : Endpoint) : Option Message → List Transmission → Prop where
  | nothing : Replied address sender none []
  | written {message : Message} {line : Payload} (written : message.toDatagram = .ok line) :
      Replied address sender (some message) [⟨address, sender, line⟩]

theorem Replied.unique {address sender : Endpoint} {reply : Option Message}
    {first second : List Transmission} (left : Replied address sender reply first)
    (right : Replied address sender reply second) : first = second := by
  cases left with
  | nothing =>
    cases right
    rfl
  | written written =>
    cases right with
    | written written' =>
      cases written.symm.trans written'
      rfl

namespace Exchange

variable {exchange : Exchange}

/-- What is transmitted was tried, and is refused exactly as the network says. -/
theorem dispatches_transmitting (transmission : Transmission) :
    dispatches transmission.source (exchange.transmitting transmission).resources.journal =
      dispatches transmission.source exchange.resources.journal ++
        [exchange.resources.fabric.policy.attempt transmission] := by
  have sent : (exchange.transmitting transmission).resources.journal =
      [.sent transmission (exchange.resources.fabric.policy.sendFault transmission.source
        transmission.destination transmission.payload.length)] ++ exchange.resources.journal := by
    rw [transmitting, Resources.transmit, Fabric.send]
    cases exchange.resources.fabric.policy.sendFault transmission.source
      transmission.destination transmission.payload.length <;> rfl
  rw [sent, dispatches_append]
  simp [dispatches, Event.sentFrom?, Net.Policy.attempt]

/-- **A datagram of signaling adds its reply to what was sent from the control socket,** and nothing
else. -/
theorem Sound.dispatches_signal (sound : exchange.Sound) {address : Endpoint}
    (listens : exchange.table.control?.bind Session.socket = some address) (size : Nat)
    (datagram : Endpoint × Payload) :
    ∃ replies, Replied address datagram.1 (exchange.handling size datagram).1 replies ∧
      dispatches address (exchange.signal size datagram).resources.journal =
        dispatches address exchange.resources.journal ++
          replies.map exchange.resources.fabric.policy.attempt := by
  have noted := sound.noting datagram.1 (datagram.2.take size)
  have silent := silent_handleDatagram (exchange.noting datagram.1 (datagram.2.take size))
    (datagram.2.take size)
  have policy : (exchange.handling size datagram).2.resources.fabric.policy =
      exchange.resources.fabric.policy := noted.policy_handleDatagram (datagram.2.take size)
  have before : dispatches address (exchange.handling size datagram).2.resources.journal =
      dispatches address exchange.resources.journal := by
    rw [handling, silent.dispatches_eq]
    exact (dispatches_append [_] _ address).trans (List.append_nil _)
  rcases sound.signal_cases listens size datagram with
    ⟨none, signaled⟩ | ⟨message, line, some, _, written, signaled⟩
  · rw [signaled, none, before]
    exact ⟨[], .nothing, (List.append_nil _).symm⟩
  · rw [signaled, some]
    refine ⟨_, .written written, ?_⟩
    rw [dispatches_transmitting ⟨address, datagram.1, line⟩, policy]
    exact congrArg (· ++ _) before

end Exchange

end FaxRelay
