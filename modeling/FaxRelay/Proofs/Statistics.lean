import FaxRelay.Proofs.Delivery
import FaxRelay.Proofs.Invariants
import FaxRelay.Proofs.Registry

/-!
# What the counters say

A call that was established is still active, or was released, or was lost with a
media socket or a bridge, and it is counted under one of these only
(`Exchange.AddsUp`). This holds however a release, a failed bridge and a failed
socket coincide: the first of them to come takes both legs of the call away, so
that none of the others finds a live slot of the call any more.

Likewise each datagram of signaling that was taken in is counted once: a request
for a call as established or rejected, and what is no message as a failure.
-/

set_option autoImplicit false

namespace FaxRelay

open FaxRelay.Media FaxRelay.Net FaxRelay.Pool FaxRelay.Signal

namespace Signal

/-- Whether a datagram asks for a call. -/
def asksForCall (datagram : Payload) : Bool :=
  match Message.ofDatagram datagram with
  | .ok (.setup _) => true
  | _ => false

/-- Whether a datagram is no message. -/
def isMalformed (datagram : Payload) : Bool :=
  match Message.ofDatagram datagram with
  | .error _ => true
  | .ok _ => false

end Signal

/-- The statistics of an exchange add up: the calls with what became of them, the sessions with the
calls, and the counters of signaling with the datagrams that were taken in. -/
structure Exchange.AddsUp (exchange : Exchange) : Prop where
  calls : exchange.statistics.counters.established =
    exchange.statistics.activeCalls + exchange.statistics.counters.released +
      exchange.statistics.counters.mediaErrors
  sessions : exchange.statistics.activeSessions = 1 + 2 * exchange.statistics.activeCalls
  requests : exchange.statistics.counters.established + exchange.statistics.counters.rejected =
    (signalings exchange.resources.journal).countP fun datagram => asksForCall datagram.2
  failures : exchange.statistics.counters.parseFailures =
    (signalings exchange.resources.journal).countP fun datagram => isMalformed datagram.2

/-! ## The sessions of a table -/

namespace Table

/-- Hanging up a call takes two sessions away. -/
theorem Sound.length_hangUp {table : Table} (sound : table.Sound) {index : Nat} {slot : Slot}
    {callId : CallId} (found : table.slots[index]? = some slot) (live : slot.isLive = true)
    (names : slot.session.callId = some callId) :
    (table.hangUp callId).gists.length + 2 = table.gists.length := by
  obtain ⟨same, partner, before, after, established, established', others, legs⟩ :=
    sound.paired.partner (gist_mem_legs found (sound.behind_of_call found names) live)
  cases (show some callId = some same from names.symm.trans established.names_call)
  obtain ⟨control, signaling, gists⟩ := sound.gists_eq
  have remain : table.legs.filter (fun leg => leg.callId ≠ some callId) = before ++ after := by
    rcases legs with legs | legs
    · rw [legs, filter_pair established.names_call established'.names_call others]
    · rw [legs, filter_pair established'.names_call established.names_call others]
  have length : table.legs.length = (before ++ after).length + 2 := by
    rcases legs with legs | legs <;> rw [legs] <;> simp <;> omega
  rw [gists_hangUp, gists, List.filter_cons_of_pos (by simp [signaling.no_call]), remain,
    List.length_cons, List.length_cons, length]

/-- In a sound table the live sessions are the control session and the legs of the active calls. -/
theorem Sound.length_gists {table : Table} (sound : table.Sound) :
    table.liveSessions.length = table.gists.length ∧
      table.gists.length = 1 + 2 * (table.mediaCount / 2) := by
  have sessions := table.gists_eq_liveSessions
  have media : table.mediaCount = table.legs.length := by
    have same : table.liveSessions.filter (fun session => !session.isControl) =
        table.liveSessions.filter ((fun session => !session.isControl) ∘ Session.gist) := rfl
    obtain ⟨control, signaling, gists⟩ := sound.gists_eq
    have kept : table.legs.filter (fun session => !session.isControl) = table.legs := by
      refine List.filter_eq_self.mpr fun leg member => ?_
      obtain ⟨_, _, established⟩ := sound.paired.established member
      rw [established.media]
      rfl
    rw [mediaCount, same, ← List.length_map Session.gist, ← List.filter_map, ← sessions, gists,
      List.filter_cons_of_neg (by simp [signaling.control]), kept]
  obtain ⟨control, _, gists⟩ := sound.gists_eq
  have pairs := sound.paired.length_callsOf
  rw [sessions, List.length_map, ← List.length_map Session.gist, ← sessions, media, gists,
    List.length_cons]
  omega

end Table

namespace Exchange

/-! ## Counting -/

/-- The counters fit the sessions of the table and the datagrams that were taken in. -/
structure Counted (taken : List Payload) (exchange : Exchange) : Prop where
  calls : exchange.table.gists.length +
      2 * (exchange.counters.released + exchange.counters.mediaErrors) =
    1 + 2 * exchange.counters.established
  requests : exchange.counters.established + exchange.counters.rejected = taken.countP asksForCall
  failures : exchange.counters.parseFailures = taken.countP isMalformed

/-- The payloads of the signaling that was taken in. -/
def taken (exchange : Exchange) : List Payload :=
  (signalings exchange.resources.journal).map Prod.snd

variable {exchange after : Exchange} {payloads : List Payload}

namespace Counted

theorem of_same (counted : exchange.Counted payloads)
    (gists : after.table.gists = exchange.table.gists)
    (counters : after.counters = exchange.counters) : after.Counted payloads :=
  ⟨by rw [gists, counters]; exact counted.calls, by rw [counters]; exact counted.requests,
    by rw [counters]; exact counted.failures⟩

/-- A call that ends is counted once, as released or as lost. -/
theorem ended (counted : exchange.Counted payloads)
    (length : after.table.gists.length + 2 = exchange.table.gists.length)
    (once : after.counters.released + after.counters.mediaErrors =
      exchange.counters.released + exchange.counters.mediaErrors + 1)
    (established : after.counters.established = exchange.counters.established)
    (rejected : after.counters.rejected = exchange.counters.rejected)
    (failures : after.counters.parseFailures = exchange.counters.parseFailures) :
    after.Counted payloads := by
  have calls := counted.calls
  refine ⟨?_, ?_, ?_⟩
  · rw [established]
    omega
  · rw [established, rejected]
    exact counted.requests
  · rw [failures]
    exact counted.failures

/-- A release that finds its call counts it as released, and any other counts nothing. -/
theorem release (counted : exchange.Counted payloads) (sound : exchange.Sound)
    (callId : CallId) : (exchange.release callId).2.Counted payloads := by
  rw [Exchange.release]
  split
  · exact counted
  next index present =>
  obtain ⟨slot, found, behind, isOf⟩ := Table.findCall?_eq_some present
  obtain ⟨live, names⟩ := Slot.isOf_iff.mp isOf
  obtain ⟨_, after, names', destroyed, table, counters, _⟩ :=
    sound.destroyCall_leg found behind live
  cases names.symm.trans names'
  rw [destroyed]
  refine counted.ended ?_ ?_ ?_ ?_ ?_
  · rw [← sound.table.length_hangUp found live names, ← table]
  · simp only [counters]
    omega
  all_goals simp only [counters]

/-- A request is counted as established or as rejected. -/
theorem setUp (counted : exchange.Counted payloads) (sound : exchange.Sound) {setup : Setup}
    {datagram : Payload} (reads : Message.ofDatagram datagram = .ok (.setup setup)) :
    (exchange.answerSetup setup).2.Counted (payloads ++ [datagram]) := by
  have calls := counted.calls
  have requests := counted.requests
  have failures := counted.failures
  have asks : asksForCall datagram = true := by rw [asksForCall, reads]
  have reads : isMalformed datagram = false := by rw [isMalformed, reads]
  rw [answerSetup]
  cases result : exchange.setUp setup with
  | mk outcome after =>
    cases outcome with
    | error fault =>
      obtain ⟨table, counters, _⟩ := setUp_error sound.ledger.sound result
      refine ⟨?_, ?_, ?_⟩
      · show after.table.gists.length + 2 * (after.counters.released + after.counters.mediaErrors) =
          1 + 2 * after.counters.established
        rw [table, counters]
        exact calls
      · show after.counters.established + (after.counters.rejected + 1) = _
        rw [counters, List.countP_append, List.countP_singleton, if_pos asks]
        omega
      · show after.counters.parseFailures = _
        simp [counters, List.countP_append, reads, failures]
    | ok address =>
      obtain ⟨_, inbound, outbound, _, _, _, _, _, rfl⟩ := setUp_ok sound.ledger.sound result
      refine ⟨?_, ?_, ?_⟩
      · show ((exchange.table.append inbound).append outbound).gists.length +
            2 * (exchange.counters.released + exchange.counters.mediaErrors) =
          1 + 2 * (exchange.counters.established + 1)
        simp only [Table.gists_append, List.length_append, List.length_singleton]
        omega
      · show exchange.counters.established + 1 + exchange.counters.rejected = _
        rw [List.countP_append, List.countP_singleton, if_pos asks]
        omega
      · show exchange.counters.parseFailures = _
        simp [List.countP_append, reads, failures]

/-- A datagram that asks for no call and is a message leaves the counts of signaling. -/
theorem append_other (counted : exchange.Counted payloads) {datagram : Payload}
    (asks : asksForCall datagram = false) (reads : isMalformed datagram = false) :
    exchange.Counted (payloads ++ [datagram]) :=
  ⟨counted.calls, by simp [List.countP_append, asks, counted.requests],
    by simp [List.countP_append, reads, counted.failures]⟩

/-- **Each datagram is counted for what it is.** -/
theorem handleDatagram (counted : exchange.Counted payloads) (sound : exchange.Sound)
    (datagram : Payload) :
    (exchange.handleDatagram datagram).2.Counted (payloads ++ [datagram]) := by
  rw [Exchange.handleDatagram]
  split
  · next fault reads =>
    have asks : asksForCall datagram = false := by rw [asksForCall, reads]
    have malformed : isMalformed datagram = true := by rw [isMalformed, reads]
    refine ⟨counted.calls, ?_, ?_⟩
    · simp [List.countP_append, asks, counted.requests]
    · simp [List.countP_append, malformed, counted.failures]
  · next reads => exact counted.setUp sound reads
  · next callId reads =>
    exact (counted.release sound callId).append_other (by rw [asksForCall, reads])
      (by rw [isMalformed, reads])
  · next reads =>
    exact counted.append_other (by rw [asksForCall, reads]) (by rw [isMalformed, reads])
  · next reads =>
    exact counted.append_other (by rw [asksForCall, reads]) (by rw [isMalformed, reads])

/-- Taking in a datagram and answering it counts it. -/
theorem signal (counted : exchange.Counted payloads) (sound : exchange.Sound) (size : Nat)
    (datagram : Endpoint × Payload) :
    (exchange.signal size datagram).Counted (payloads ++ [datagram.2.take size]) := by
  have quiet := quiet_heard exchange datagram.1 (datagram.2.take size)
  have heard := counted.of_same quiet.outline.gists_eq rfl
  have handled := heard.handleDatagram (sound.of_quiet quiet) (datagram.2.take size)
  rw [Exchange.signal]
  split
  · next message middle same =>
    rw [same] at handled
    have passing := passing_reply middle message
    exact handled.of_same passing.outline.gists_eq passing.counters_eq
  · next same =>
    rw [same] at handled
    exact handled

end Counted

/-- **The counters fit after every step** when they did before. -/
theorem invariant_counted (size : Nat) :
    Invariant size fun exchange => exchange.Counted exchange.taken where
  rearranged := by
    intro before after rearranged counted
    have same : after.taken = before.taken := by rw [taken, rearranged.resources_eq, taken]
    rw [same]
    exact counted.of_same rearranged.gists_eq rearranged.counters_eq
  passing := by
    intro before after passing counted
    have same : after.taken = before.taken := by rw [taken, passing.steady.signalings_eq, taken]
    rw [same]
    exact counted.of_same passing.outline.gists_eq passing.counters_eq
  network _ counted := counted.of_same rfl rfl
  lost := by
    intro exchange index slot sound behind found live counted
    have same : (exchange.countMediaError.destroyCall index).2.taken = exchange.taken := by
      rw [taken, (exchange.countMediaError.silent_destroyCall index).signalings_eq]
      rfl
    rw [same]
    obtain ⟨callId, after, names, destroyed, table, counters, _⟩ :=
      Sound.destroyCall_leg (show exchange.countMediaError.Sound from sound.counters _)
        found behind live
    rw [destroyed]
    refine counted.ended ?_ ?_ ?_ ?_ ?_
    · rw [← sound.table.length_hangUp found live names, table]
      rfl
    · rw [counters]
      rfl
    all_goals rw [counters]; rfl
  signaled := by
    intro exchange sound datagram counted
    have same : (exchange.signal size datagram).taken =
        exchange.taken ++ [datagram.2.take size] := by
      rw [taken, (sound.carried_signal size datagram).2, List.map_append]
      rfl
    rw [same]
    exact counted.signal sound size datagram

/-- In a sound exchange whose counters fit, the statistics add up. -/
theorem Counted.addsUp (counted : exchange.Counted exchange.taken) (sound : exchange.Sound) :
    exchange.AddsUp := by
  obtain ⟨sessions, halves⟩ := sound.table.length_gists
  have calls := counted.calls
  have requests := counted.requests
  have failures := counted.failures
  rw [taken, List.countP_map] at requests failures
  refine ⟨?_, ?_, requests, failures⟩
  · show exchange.counters.established = exchange.table.mediaCount / 2 +
      exchange.counters.released + exchange.counters.mediaErrors
    omega
  · show exchange.table.liveSessions.length = 1 + 2 * (exchange.table.mediaCount / 2)
    rw [sessions, halves]

end Exchange

namespace Gateway

/-- At the start there is the control session, and nothing was counted. -/
theorem counted_start {settings : Settings} {supply : EngineSupply} {fabric : Fabric}
    {gateway : Gateway} (started : start settings supply fabric = .ok gateway) :
    gateway.exchange.Counted gateway.exchange.taken := by
  obtain ⟨_, _, _, _, _, _, _, _, counters⟩ := start_eq_ok started
  obtain ⟨_, _, _, _, _, _, _, resources, table⟩ := start_resources started
  have nothing : gateway.exchange.taken = [] := by
    rw [Exchange.taken, resources]
    rfl
  rw [nothing]
  refine ⟨?_, ?_, ?_⟩
  · rw [table, counters]
    rfl
  · rw [counters]
    rfl
  · rw [counters]
    rfl

/-- **The statistics always add up:** in every state that a gateway can reach, and in particular
after every round, each call that was established is active, was released, or was lost, the live
sessions are the control session and two for each active call, each request for a call was
established or rejected, and each datagram that is no message was counted as a failure. -/
theorem Reachable.statistics_add_up {gateway : Gateway} (reached : gateway.Reachable) :
    gateway.exchange.AddsUp ∧ gateway.poll.2.exchange.AddsUp :=
  ⟨(reached.invariant Exchange.invariant_counted counted_start).addsUp reached.sound,
    (reached.poll.invariant Exchange.invariant_counted counted_start).addsUp reached.poll.sound⟩

/-- A relay that has taken in four requests for calls, one of them for a call that there was, a
release, and something that is no message. -/
def requested : Exchange :=
  ["SETUP 0 GT 127.0.0.1:4000", "SETUP 0 GT 127.0.0.1:4000", "HELLO", "SETUP 1 GT 127.0.0.1:4000",
    "SETUP 2 GT 127.0.0.1:4000", "RELEASE 0"].foldl
    (fun exchange line => exchange.signal 2048 (⟨Ipv4.loopback, 5000⟩, textBytes line.toList))
    idle.exchange

/-- When the bridge of the second call fails, this call is lost in the next round, and only the
third one remains. -/
theorem statistics_add_up_requested :
    Reachable ⟨{}, requested.failBridge 3⟩ ∧
      (poll ⟨{}, requested.failBridge 3⟩).2.statistics = ⟨3, 1, ⟨3, 1, 1, 1, 1⟩⟩ ∧
      (poll ⟨{}, requested.failBridge 3⟩).2.exchange.AddsUp := by
  have signaled : Reachable ⟨{}, requested⟩ :=
    Reachable.foldl (fun exchange line => .signaled exchange _) _ reachable_idle
  have reached : Reachable ⟨{}, requested.failBridge 3⟩ :=
    signaled.advanced (.beside (.failed (.nothing requested) 3))
  exact ⟨reached, by decide +kernel, (Reachable.statistics_add_up reached).2⟩

end Gateway

end FaxRelay
