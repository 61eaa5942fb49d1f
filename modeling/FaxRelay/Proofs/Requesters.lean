import FaxRelay.Proofs.Agreement
import FaxRelay.Proofs.Signal.Recovery

/-!
# Replies go to their requesters

Whoever sends the relay something that is no message, or a request for a call,
gets one reply, and nobody else gets any (`Exchange.Answered`). This holds for a
whole queue of signaling, however its senders are mixed: the reply is sent
before the next datagram is looked at, to the sender that was noted last.

A reply that the network refuses is given up. Exchanges that differ in what was
sent only, because the network refused now this and now that, go on alike
(`Exchange.Twins`); so nothing but the reply itself is lost.
-/

set_option autoImplicit false

namespace FaxRelay

open FaxRelay.Media FaxRelay.Net FaxRelay.Pool FaxRelay.Signal

namespace Signal

/-- Whether the sender of a datagram is waiting for an answer: it is no message, or it asks for a
call. -/
def awaitsAnswer (datagram : Payload) : Bool := isMalformed datagram || asksForCall datagram

end Signal

namespace Exchange

variable {exchange left right : Exchange}

/-! ## Who is answered -/

/-- Who waits for an answer gets one about the call that was read, and who does not gets none. -/
theorem reply_cases (exchange : Exchange) (datagram : Payload) :
    (awaitsAnswer datagram = false ∧ (exchange.handleDatagram datagram).1 = none) ∨
      ∃ message, awaitsAnswer datagram = true ∧
        (exchange.handleDatagram datagram).1 = some message ∧
        message.callId = (callIdOf? datagram).getD CallId.placeholder := by
  rw [Exchange.handleDatagram, awaitsAnswer, isMalformed, asksForCall, callIdOf?_eq]
  cases Message.ofDatagram datagram with
  | error fault => exact .inr ⟨_, rfl, rfl, rfl⟩
  | ok message =>
    cases message with
    | setup setup =>
      refine .inr ⟨_, rfl, rfl, ?_⟩
      dsimp only [answerSetup]
      split <;> rfl
    | release callId => exact .inl ⟨rfl, rfl⟩
    | ok callId address => exact .inl ⟨rfl, rfl⟩
    | error callId complaint => exact .inl ⟨rfl, rfl⟩

/-- What is sent in answer to a datagram: to a sender that waits for it the encoded reply to this
datagram, about the call that was read from it, and to any other nothing. -/
inductive AnswersTo (size : Nat) (address : Endpoint) (exchange : Exchange)
    (datagram : Endpoint × Payload) : List Transmission → Prop where
  | answered {message : Message} {line : Payload}
      (awaits : awaitsAnswer (datagram.2.take size) = true)
      (reply : (exchange.handling size datagram).1 = some message)
      (names : message.callId = (callIdOf? (datagram.2.take size)).getD CallId.placeholder)
      (written : message.toDatagram = .ok line) :
      AnswersTo size address exchange datagram [⟨address, datagram.1, line⟩]
  | passed (awaits : awaitsAnswer (datagram.2.take size) = false)
      (reply : (exchange.handling size datagram).1 = none) :
      AnswersTo size address exchange datagram []

/-- What is sent while a queue of signaling is handled: the answer to each datagram, in the state in
which the datagrams before it have left the exchange. -/
inductive Answered (size : Nat) (address : Endpoint) :
    Exchange → List (Endpoint × Payload) → List Transmission → Prop where
  | nothing (exchange : Exchange) : Answered size address exchange [] []
  | next {exchange : Exchange} {datagram : Endpoint × Payload} {sent replies : List Transmission}
      {rest : List (Endpoint × Payload)} (answer : AnswersTo size address exchange datagram sent)
      (further : Answered size address (exchange.signal size datagram) rest replies) :
      Answered size address exchange (datagram :: rest) (sent ++ replies)

section Answers

variable {size : Nat} {address : Endpoint} {datagram : Endpoint × Payload}
  {datagrams : List (Endpoint × Payload)} {sent : List Transmission}

theorem AnswersTo.replied (answer : AnswersTo size address exchange datagram sent) :
    Replied address datagram.1 (exchange.handling size datagram).1 sent := by
  cases answer with
  | answered _ reply _ written =>
    rw [reply]
    exact .written written
  | passed _ reply =>
    rw [reply]
    exact .nothing

/-- A reply that is given is the answer. -/
theorem AnswersTo.of_replied
    (replied : Replied address datagram.1 (exchange.handling size datagram).1 sent) :
    AnswersTo size address exchange datagram sent := by
  rcases (exchange.noting datagram.1 (datagram.2.take size)).reply_cases
    (datagram.2.take size) with ⟨awaits, reply⟩ | ⟨message, awaits, reply, names⟩
  · change (exchange.handling size datagram).1 = none at reply
    rw [reply] at replied
    cases replied
    exact .passed awaits reply
  · change (exchange.handling size datagram).1 = some message at reply
    rw [reply] at replied
    obtain _ | written := replied
    exact .answered awaits reply names written

end Answers

/-! ## A whole queue -/

/-- **A queue of signaling is answered datagram by datagram,** and the replies are all that is sent
from the control socket. -/
theorem Sound.answered (sound : exchange.Sound) {address : Endpoint}
    (listens : exchange.table.control?.bind Session.socket = some address) (size : Nat)
    (datagrams : List (Endpoint × Payload)) :
    ∃ replies, exchange.Answered size address datagrams replies ∧
      dispatches address (datagrams.foldl (Exchange.signal size) exchange).resources.journal =
        dispatches address exchange.resources.journal ++
          replies.map exchange.resources.fabric.policy.attempt := by
  induction datagrams generalizing exchange with
  | nil => exact ⟨[], .nothing exchange, (List.append_nil _).symm⟩
  | cons datagram rest ih =>
    obtain ⟨sent, replied, added⟩ := sound.dispatches_signal listens size datagram
    obtain ⟨replies, further, others⟩ :=
      ih (sound.signal size datagram) (sound.listens_signal listens size datagram)
    rw [sound.policy_signal size datagram, added] at others
    exact ⟨sent ++ replies, .next (.of_replied replied) further,
      by rw [List.foldl_cons, others, List.map_append, List.append_assoc]⟩

/-! ## Refusals -/

/-- Two exchanges that may differ in what was sent, but not in their sessions, in what these can
draw on, or in what was counted. -/
structure Twins (left right : Exchange) : Prop where
  table_eq : right.table = left.table
  alike : left.resources.Alike right.resources
  counters_eq : right.counters = left.counters

theorem Twins.agrees (twins : left.Twins right) : left.Agrees right :=
  ⟨congrArg Table.gists twins.table_eq, twins.alike, twins.counters_eq⟩

/-- The exchange after the network changed what it refuses. -/
def under (policy : Policy) (exchange : Exchange) : Exchange :=
  { exchange with
    resources :=
      { exchange.resources with fabric := { exchange.resources.fabric with policy := policy } } }

/-- Takes in one datagram after the network changed what it refuses. -/
def signalUnder (size : Nat) (exchange : Exchange) (entry : (Endpoint × Payload) × Policy) :
    Exchange := (exchange.under entry.2).signal size entry.1

theorem Twins.under (twins : left.Twins right) {policy : Policy}
    (binds : policy.bindFault = left.resources.fabric.policy.bindFault) :
    left.Twins (right.under policy) :=
  ⟨twins.table_eq, { twins.alike with bindFault_eq := binds }, twins.counters_eq⟩

theorem Sound.under (sound : exchange.Sound) (policy : Policy) : (exchange.under policy).Sound :=
  sound.of_quiet (exchange.quiet_fabric (Fabric.Outside.policy ..).keeps)

/-- Twins take in a datagram and try the same reply to it, whatever the network has come to refuse
for one of them; and they remain twins. -/
theorem Twins.signalUnder (twins : left.Twins right) (sound : left.Sound) (sound' : right.Sound)
    {address : Endpoint} (listens : left.table.control?.bind Session.socket = some address)
    (size : Nat) (datagram : Endpoint × Payload) {policy : Policy}
    (binds : policy.bindFault = left.resources.fabric.policy.bindFault) :
    (left.signal size datagram).Twins (right.signalUnder size (datagram, policy)) ∧
      ∃ sent, Replied address datagram.1 (left.handling size datagram).1 sent ∧
        (dispatches address (right.signalUnder size (datagram, policy)).resources.journal).map
            Prod.fst =
          (dispatches address right.resources.journal).map Prod.fst ++ sent := by
  have twinsUnder := twins.under binds
  have soundUnder := sound'.under policy
  have room : left.table.remaining < 2 ↔ (right.under policy).table.remaining < 2 := by
    rw [twinsUnder.table_eq]
  obtain ⟨reply, agrees, edit, _, table, table'⟩ :=
    twinsUnder.agrees.signal sound soundUnder size datagram fun _ => room
  have listensUnder : (right.under policy).table.control?.bind Session.socket = some address := by
    rw [twinsUnder.table_eq, listens]
  obtain ⟨sent, replied, added⟩ := soundUnder.dispatches_signal listensUnder size datagram
  refine ⟨⟨?_, agrees.alike, agrees.counters_eq⟩, sent, reply ▸ replied, ?_⟩
  · rw [Exchange.signalUnder, table, table', Exchange.noting, Exchange.noting, twinsUnder.table_eq]
  · -- An attempt is known by its datagram, whether it was refused or not.
    have tried : (sent.map (right.under policy).resources.fabric.policy.attempt).map Prod.fst =
        sent := by rw [List.map_map]; exact List.map_id _
    rw [Exchange.signalUnder, added, List.map_append, tried]
    rfl

/-- **Nothing depends on whether a reply could be sent.** Whatever the network refuses to send from
one datagram to the next, the same replies are tried, and the sessions are the same. -/
theorem Answered.under {size : Nat} {address : Endpoint} {datagrams : List (Endpoint × Payload)}
    {replies : List Transmission} (answered : left.Answered size address datagrams replies)
    (twins : left.Twins right) (sound : left.Sound) (sound' : right.Sound)
    (listens : left.table.control?.bind Session.socket = some address) {policies : List Policy}
    (each : policies.length = datagrams.length)
    (binds : ∀ policy ∈ policies, policy.bindFault = left.resources.fabric.policy.bindFault) :
    (datagrams.foldl (Exchange.signal size) left).Twins
        ((datagrams.zip policies).foldl (signalUnder size) right) ∧
      (dispatches address ((datagrams.zip policies).foldl (signalUnder size)
          right).resources.journal).map Prod.fst =
        (dispatches address right.resources.journal).map Prod.fst ++ replies := by
  induction answered generalizing right policies with
  | nothing => exact ⟨twins, (List.append_nil _).symm⟩
  | @next left datagram sent replies rest answer _ ih =>
    obtain _ | ⟨policy, policies⟩ := policies
    · cases each
    obtain ⟨twinsAfter, sent', replied, tried⟩ :=
      twins.signalUnder sound sound' listens size datagram (binds policy List.mem_cons_self)
    obtain ⟨twinsLast, others⟩ := ih twinsAfter (sound.signal size datagram)
      ((sound'.under policy).signal size datagram) (sound.listens_signal listens size datagram)
      (Nat.succ.inj each) fun other member =>
        (binds other (List.mem_cons_of_mem _ member)).trans
          (congrArg Policy.bindFault (sound.policy_signal size datagram)).symm
    refine ⟨twinsLast, ?_⟩
    rw [List.zip_cons_cons, List.foldl_cons, others, tried, replied.unique answer.replied,
      List.append_assoc]

/-! ## The control socket -/

/-- Handles the signaling that waits in a socket, while the network changes what it refuses before
each datagram. -/
def handleUnder (size : Nat) (address : Endpoint) (policies : List Policy)
    (exchange : Exchange) : Exchange :=
  ((exchange.resources.fabric.waiting address).zip policies).foldl (signalUnder size)
    (exchange.drained address)

/-- When the network does not change, this is how the control socket is handled. -/
theorem Sound.handleUnder_eq (sound : exchange.Sound) {address : Endpoint}
    (listens : exchange.table.control?.bind Session.socket = some address) (size : Nat) :
    exchange.handleUnder size address ((exchange.resources.fabric.waiting address).map
      fun _ => exchange.resources.fabric.policy) = exchange.handleControl size := by
  have steady : ∀ (datagrams : List (Endpoint × Payload)) {exchange : Exchange} {policy : Policy},
      exchange.Sound → exchange.resources.fabric.policy = policy →
      (datagrams.zip (datagrams.map fun _ => policy)).foldl (Exchange.signalUnder size) exchange =
        datagrams.foldl (Exchange.signal size) exchange := by
    intro datagrams
    induction datagrams with
    | nil => exact fun _ _ => rfl
    | cons datagram rest ih =>
      rintro exchange policy sound rfl
      exact ih (sound.signal size datagram) (sound.policy_signal size datagram)
  rw [handleControl_eq listens]
  exact steady _ (sound.drained address) rfl

end Exchange

namespace Gateway

end Gateway

end FaxRelay
