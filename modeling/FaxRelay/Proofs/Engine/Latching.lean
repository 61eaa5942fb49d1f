import FaxRelay.Proofs.Engine.Aiming
import FaxRelay.Proofs.Engine.Following
import FaxRelay.Proofs.Invariants
import FaxRelay.Proofs.Registry

/-!
# Remote endpoints are latched

A gateway leg is where its setup said, for as long as it lives. A terminal leg
is nowhere at first, takes the sender of the first datagram that its engine is
handed for its remote endpoint, and never takes another. This is so from the
state in which a leg stands in the table for the first time
(`Gateway.Attained.latched`), by induction over what its engine is handed and
what happens besides.

It remains to say where legs come from. Only a message of signaling adds one:
bridges, sweeps and the end of a call leave the sessions that live among those
that lived before (`Exchange.Step.gists_subset`), and so does a datagram that is
no setup. So every leg of every run stood in the table for the first time when a
setup was taken in, as the setup asked and before its engine was handed anything
(`Gateway.Reachable.exists_latches`).
-/

set_option autoImplicit false

namespace FaxRelay

open FaxRelay.Media FaxRelay.Net FaxRelay.Pool FaxRelay.Signal

/-! ## Latched legs -/

namespace Signal.Setup

/-- The remote endpoint that a setup gives for the leg of its call in a direction. -/
def given (setup : Setup) : Direction → Option Endpoint
  | .inbound => some setup.source
  | .outbound => setup.destination

/-- The remote endpoint of a leg of the call, after its engine was handed certain datagrams: a
gateway is where the setup said, and a terminal is whoever was heard first. -/
def latch (setup : Setup) (leg : Session) (heard : List (Endpoint × Payload)) : Option Endpoint :=
  match leg.role with
  | .gateway => setup.given leg.direction
  | _ => heard.head?.map Prod.fst

end Signal.Setup

/-- A leg of the call that a setup asked for, whose engine was handed certain datagrams. -/
structure Session.Latched (setup : Setup) (heard : List (Endpoint × Payload)) (leg : Session) :
    Prop where
  callId_eq : leg.callId = some setup.callId
  kind : leg.role = .gateway ∧ (setup.given leg.direction).isSome = true ∨
    leg.role = .terminal ∧ setup.mode = .gatewayToTerminal
  remote_eq : leg.remote = setup.latch leg heard

namespace Session.Latched

variable {setup : Setup} {heard : List (Endpoint × Payload)} {leg later : Session}

theorem media (latched : leg.Latched setup heard) : leg.role ≠ .control := by
  rcases latched.kind with ⟨gateway, _⟩ | ⟨terminal, _⟩
  · simp [gateway]
  · simp [terminal]

theorem continues (latched : leg.Latched setup heard) (continues : leg.Continues later)
    (same : later.remote = leg.remote) : later.Latched setup heard where
  callId_eq := continues.callId_eq.trans latched.callId_eq
  kind := by
    rw [continues.role_eq, continues.direction_eq]
    exact latched.kind
  remote_eq := by
    rw [same, latched.remote_eq, Setup.latch, Setup.latch, continues.role_eq,
      continues.direction_eq]

/-- Hearing one more datagram. -/
theorem heardFrom (latched : leg.Latched setup heard) (datagram : Endpoint × Payload) :
    (leg.heardFrom datagram.1).Latched setup (heard ++ [datagram]) := by
  have continues := leg.continues_heardFrom datagram.1
  refine ⟨continues.callId_eq.trans latched.callId_eq, ?_, ?_⟩
  · rw [continues.role_eq, continues.direction_eq]
    exact latched.kind
  have before := latched.remote_eq
  rw [Setup.latch] at before ⊢
  rw [continues.role_eq, continues.direction_eq, Session.heardFrom]
  rcases latched.kind with ⟨gateway, _⟩ | ⟨terminal, _⟩
  · simp only [gateway] at before ⊢
    exact before
  · simp only [terminal] at before ⊢
    rw [before]
    cases heard <;> rfl

end Session.Latched

namespace Gateway

open Exchange

/-- **Once latched, a leg stays so,** whatever happens: it is where the setup said, or where the
first datagram came from. -/
theorem Attained.latched {settings : Settings} {origin later : Exchange}
    (attained : Attained ⟨settings, origin⟩) {engine : Nat}
    (made : engine < origin.resources.engines.length) {setup : Setup} {first : Session}
    (begun : ∀ {place : Nat} {leg : Session}, origin.table.session? place = some leg →
      leg.engine = some engine → first.Continues leg ∧ leg.Latched setup [])
    {heard : List (Endpoint × Payload)}
    (since : Since settings.bufferSize.toNat engine origin heard later) {place : Nat}
    {leg : Session} (found : later.table.session? place = some leg)
    (has : leg.engine = some engine) : first.Continues leg ∧ leg.Latched setup heard := by
  induction since generalizing place leg with
  | nothing => exact begun found has
  | @heard heard exchange index session address datagram rest since here hasToo bound waits ih =>
    obtain ⟨continues, latched⟩ := ih here hasToo
    rw [(hearAt_eq hasToo _ address datagram rest exchange).1] at found
    -- The leg that hears the datagram is this one, since no two legs have the same engine.
    have same : index = place := by
      by_contra differs
      rw [Table.setSession, Table.session?_changeSession, if_neg differs] at found
      exact differs
        ((attained.moments since.moments).enginesFollowLegs.alone here found hasToo has)
    subst same
    rw [Table.session?_setSession here] at found
    obtain rfl := Option.some.inj found
    exact ⟨continues.trans (session.continues_heardFrom _), latched.heardFrom datagram⟩
  | @other heard exchange after since moment unheard ih =>
    obtain ⟨slot, place, rfl⟩ := Table.slot_of_session? found
    -- The engine was made before this moment, so the leg that has it had it before.
    have still := Nat.lt_of_lt_of_le made (Turns.grows (turns_of_moments since.moments)).1
    obtain ⟨session, member, continues, aimed⟩ :=
      moment.turns.continues (Table.mem_roster place) has still
    obtain ⟨old, inTable, rfl⟩ := List.mem_map.mp member
    obtain ⟨index, there⟩ := List.getElem?_of_mem inTable
    obtain ⟨before, latched⟩ :=
      ih (Table.session?_of_slot there) (continues.engine_eq.symm.trans has)
    have same : old.session.Continues slot.session :=
      ⟨continues.engine_eq, continues.callId_eq, continues.role_eq, continues.direction_eq⟩
    exact ⟨before.trans same, latched.continues same (aimed unheard)⟩

end Gateway

/-! ## Where legs come from -/

namespace Exchange

variable {size : Nat} {exchange before after : Exchange}

/-- Whoever has an engine is one of the live sessions. -/
theorem Sound.gist_mem (sound : exchange.Sound) {slot : Slot} (member : slot ∈ exchange.table.slots)
    {engine : Nat} (has : slot.session.engine = some engine) :
    slot.session.gist ∈ exchange.table.gists :=
  List.mem_filterMap.mpr
    ⟨slot, member, Slot.gist?_of_isLive ((sound.table.has_engine_iff member).mp ⟨engine, has⟩).1⟩

/-- Ending a call adds no session. -/
theorem Sound.gists_destroyCall (sound : exchange.Sound) (index : Nat) :
    (exchange.destroyCall index).2.table.gists ⊆ exchange.table.gists := by
  cases found : exchange.table.slots[index]? with
  | none =>
    have missing : exchange.table.session? index = none := by rw [Table.session?, found]; rfl
    simp only [Exchange.destroyCall, Table.destroyCall, missing]
    exact List.Subset.refl _
  | some slot =>
    cases live : slot.isLive with
    | false =>
      obtain ⟨after, destroyed, quiet, _⟩ := sound.destroyCall_closed found live
      rw [destroyed, quiet.outline.gists_eq]
      exact List.Subset.refl _
    | true =>
      by_cases behind : 0 < index
      · obtain ⟨callId, after, _, destroyed, table, _⟩ := sound.destroyCall_leg found behind live
        rw [destroyed, table, Table.gists_hangUp]
        exact List.filter_subset_self _
      · obtain ⟨control, rest, slots, _, signaling⟩ := sound.table.control
        have place : exchange.table.session? index = some control.session := by
          rw [Table.session?, Nat.eq_zero_of_not_pos behind, slots]
          rfl
        simp only [Exchange.destroyCall, Table.destroyCall, place, signaling.control, if_true]
        exact List.Subset.refl _

/-- The two legs that a setup enters are where it says, and a terminal is not known yet. -/
theorem Enters.latched {setup : Setup} {first second : UInt16} {inbound outbound : Session}
    (enters : before.Enters setup after first second inbound outbound)
    (allowed : setup.mode.allows setup.destination = true) {slot : Slot}
    (member : slot ∈ [⟨inbound, Descriptor.opened (some inbound.id)⟩,
      (⟨outbound, Descriptor.opened (some outbound.id)⟩ : Slot)]) :
    slot.session.Latched setup [] := by
  rcases List.mem_pair.mp member with rfl | rfl
  · refine ⟨enters.call.1, .inl ⟨enters.inbound_role, ?_⟩, ?_⟩
    · rw [enters.directions.1]
      rfl
    · rw [enters.inbound_remote, Setup.latch, enters.inbound_role, enters.directions.1]
      rfl
  · have role := enters.outbound_role
    have remote := enters.outbound_remote
    obtain ⟨callId, mode, source, destination⟩ := setup
    cases mode with
    | gatewayToGateway =>
      have gateway : outbound.role = .gateway := (Option.some.inj role).symm
      cases destination with
      | none => cases allowed
      | some address =>
        refine ⟨enters.call.2, .inl ⟨gateway, ?_⟩, ?_⟩
        · rw [enters.directions.2]
          rfl
        · rw [remote, Setup.latch, gateway, enters.directions.2]
          rfl
    | gatewayToTerminal =>
      have terminal : outbound.role = .terminal := (Option.some.inj role).symm
      cases destination with
      | some address => cases allowed
      | none =>
        refine ⟨enters.call.2, .inr ⟨terminal, rfl⟩, ?_⟩
        rw [remote, Setup.latch, terminal]
        rfl
    | unknown => cases role

/-- Whoever has an engine after a datagram was handled was there before, or belongs to the call that
the datagram asked for. -/
theorem Sound.leg_handleDatagram (sound : exchange.Sound) (datagram : Payload) {slot : Slot}
    (member : slot ∈ (exchange.handleDatagram datagram).2.table.slots) {engine : Nat}
    (has : slot.session.engine = some engine) :
    slot.session.gist ∈ exchange.table.gists ∨
      ∃ setup, Message.ofDatagram datagram = .ok (.setup setup) ∧
        slot.session.Latched setup [] := by
  have isLive := (sound.handleDatagram datagram).gist_mem member has
  rw [Exchange.handleDatagram] at member isLive
  cases read : Message.ofDatagram datagram with
  | error fault =>
    rw [read] at isLive
    exact .inl isLive
  | ok message =>
    rw [read] at member isLive
    cases message with
    | ok => exact .inl isLive
    | error => exact .inl isLive
    | release callId =>
      dsimp only at isLive
      rw [(sound.release callId).1, Table.gists_hangUp] at isLive
      exact .inl (List.mem_of_mem_filter isLive)
    | setup setup =>
      dsimp only [answerSetup] at member isLive
      rcases sound.setUp_outcome setup with
        ⟨_, after, first, second, inbound, outbound, made, enters⟩ | ⟨_, fault, after, failed⟩
      · rw [made] at member
        dsimp only at member
        rw [enters.slots] at member
        rcases List.mem_append.mp member with member | member
        · exact .inl (sound.gist_mem member has)
        · exact .inr ⟨setup, rfl, enters.latched (allows_of_ofDatagram read) member⟩
      · rw [failed] at isLive
        dsimp only at isLive
        rw [(setUp_error sound.ledger.sound failed).1] at isLive
        exact .inl isLive

theorem Sound.leg_signal (sound : exchange.Sound) (size : Nat) (datagram : Endpoint × Payload)
    {slot : Slot} (member : slot ∈ (exchange.signal size datagram).table.slots) {engine : Nat}
    (has : slot.session.engine = some engine) :
    slot.session.gist ∈ exchange.table.gists ∨
      ∃ setup, Message.ofDatagram (datagram.2.take size) = .ok (.setup setup) ∧
        slot.session.Latched setup [] := by
  have quiet := quiet_heard exchange datagram.1 (datagram.2.take size)
  rw [← quiet.outline.gists_eq]
  refine (sound.of_quiet quiet).leg_handleDatagram (datagram.2.take size) ?_ has
  rw [Exchange.signal] at member
  split at member
  · next message later same =>
    rw [table_reply] at member
    rw [same]
    exact member
  · next same =>
    rw [same]
    exact member

theorem Sound.gists_reapWith (sound : exchange.Sound) {beside : Nat → Exchange → Exchange}
    (between : ∀ index exchange, Beside exchange (beside index exchange)) :
    (exchange.reapWith beside).table.gists ⊆ exchange.table.gists := by
  rw [Exchange.reapWith]
  generalize exchange.table.failedBridges = indices
  generalize 0 = count
  induction indices generalizing count exchange with
  | nil => exact List.Subset.refl _
  | cons index rest ih =>
    have quiet := (between index (Exchange.reapSlot (count, exchange) index).2).quiet
    have reaped : (Exchange.reapSlot (count, exchange) index).2.table.gists ⊆
        exchange.table.gists := by
      have counted : exchange.countMediaError.Sound := sound.counters _
      have destroyed := counted.gists_destroyCall index
      rw [Exchange.reapSlot]
      split
      · exact List.Subset.refl _
      · split
        · next same => rwa [same] at destroyed
        · next same => rwa [same] at destroyed
    rw [← quiet.outline.gists_eq] at reaped
    exact List.Subset.trans (ih ((sound.reapSlot count index).of_quiet quiet) _) reaped

theorem Sound.gists_handleMedia (sound : exchange.Sound) (size : Nat) {index : Nat} {slot : Slot}
    (found : exchange.table.slots[index]? = some slot) :
    (exchange.handleMedia size index).table.gists ⊆ exchange.table.gists := by
  have present := Table.session?_of_slot found
  have passing := exchange.passing_readAt size present
  rw [← passing.outline.gists_eq]
  rcases exchange.handleMedia_cases size present with handled | handled
  · rw [handled]
    exact List.Subset.refl _
  · rw [handled]
    have quiet : exchange.Quiet (exchange.readAt size index slot.session) :=
      ⟨passing.outline, (slot.session.traffic_onReadable exchange.resources size).2⟩
    have counted : (exchange.readAt size index slot.session).countMediaError.Sound :=
      (sound.of_quiet quiet).counters _
    exact counted.gists_destroyCall index

/-- The other steps add no session. -/
theorem Step.gists_subset (step : Step size before after) (sound : before.Sound) :
    after.table.gists ⊆ before.table.gists ∨
      ∃ datagram, after = before.signal size datagram := by
  have same : ∀ {later : Exchange}, later.table.gists = before.table.gists →
      later.table.gists ⊆ before.table.gists ∨
        ∃ datagram, later = before.signal size datagram :=
    fun gists => .inl (gists ▸ List.Subset.refl _)
  cases step with
  | signaled datagram => exact .inr ⟨datagram, rfl⟩
  | beside beside => exact same beside.quiet.outline.gists_eq
  | settled => exact same rfl
  | drained => exact same rfl
  | reported token => exact same (before.rearranged_markReadable token).gists_eq
  | unmarked => exact same (before.rearranged_clearReadable 0).gists_eq
  | reaped between => exact .inl (sound.gists_reapWith between)
  | @compacted beside between =>
    have survives : Survives (fun index exchange => beside index (exchange.handleMedia size index))
        fun later => later.table.gists ⊆ before.table.gists := by
      refine ⟨fun rearranged start => ?_, fun sound _ found _ start => ?_⟩
      · rw [rearranged.gists_eq]
        exact start
      · rw [(between _ _).quiet.outline.gists_eq]
        exact List.Subset.trans (sound.gists_handleMedia size found) start
    exact .inl (survives.compactWith (keeps_handleMedia between) sound (List.Subset.refl _))

end Exchange

namespace Gateway

open Exchange

/-- How a leg came by its remote endpoint, from the state in which it was made to any later one. The
endpoint is what the setup and the datagrams say that the leg's engine was handed since then; and
the engine has tried to send to no other. -/
structure Latches (size engine : Nat) (setup : Setup) (session : Session) (origin : Exchange) :
    Prop where
  follows : ∀ {later : Exchange}, Moments size origin later →
    ∃ heard, Since size engine origin heard later
  hearings_eq : ∀ {later : Exchange} {heard : List (Endpoint × Payload)},
    Since size engine origin heard later →
    hearings engine later.resources.journal = heard.map fun datagram => datagram.2.take size
  remote : ∀ {later : Exchange} {heard : List (Endpoint × Payload)} {place : Nat}
    {leg : Session}, Since size engine origin heard later →
    later.table.session? place = some leg → leg.engine = some engine →
    session.Continues leg ∧ leg.Latched setup heard
  sends : ∀ {later : Exchange} {heard : List (Endpoint × Payload)} {place : Nat}
    {leg : Session}, Since size engine origin heard later →
    later.table.session? place = some leg → leg.engine = some engine →
    ∀ transmission ∈ attempts engine later.resources.journal,
      leg.socket = some transmission.source ∧ leg.remote = some transmission.destination

theorem Latches.of_continues {size engine : Nat} {setup : Setup} {session later : Session}
    {origin : Exchange} (latches : Latches size engine setup session origin)
    (continues : session.Continues later) : Latches size engine setup later origin :=
  { latches with
    remote := fun since found has => by
      obtain ⟨still, latched⟩ := latches.remote since found has
      exact ⟨continues.symm.trans still, latched⟩ }

variable {settings : Settings} {exchange : Exchange}

/-- An engine that a session has was made. -/
theorem Attained.made (attained : Attained ⟨settings, exchange⟩) {slot : Slot}
    (member : slot ∈ exchange.table.slots) {engine : Nat}
    (has : slot.session.engine = some engine) : engine < exchange.resources.engines.length := by
  by_contra beyond
  have unmade := attained.tracked.unmade engine (Nat.le_of_not_lt beyond)
  have inUse := attained.tracked.inUse (List.mem_map_of_mem member) has
  cases unmade.symm.trans inUse

/-- A leg that stands in the table for the first time. -/
theorem Reachable.latches (reached : Reachable ⟨settings, exchange⟩) {engine : Nat}
    {setup : Setup} {place : Nat} {session : Session}
    (unheard : hearings engine exchange.resources.journal = [])
    (found : exchange.table.session? place = some session) (has : session.engine = some engine)
    (latched : session.Latched setup []) :
    Latches settings.bufferSize.toNat engine setup session exchange := by
  have attained := reached.attained
  obtain ⟨slot, there, rfl⟩ := Table.slot_of_session? found
  have made := attained.made (List.mem_of_getElem? there) has
  have begun : ∀ {other : Nat} {leg : Session}, exchange.table.session? other = some leg →
      leg.engine = some engine → slot.session.Continues leg ∧ leg.Latched setup [] := by
    intro other leg foundToo hasToo
    obtain rfl := attained.enginesFollowLegs.alone found foundToo has hasToo
    obtain rfl := Option.some.inj (found.symm.trans foundToo)
    exact ⟨.refl _, latched⟩
  refine ⟨fun moments => exists_since moments engine, fun since => ?_,
    fun since found has => attained.latched made begun since found has,
    fun since found has transmission tried => ?_⟩
  · rw [since.hearings_eq, unheard, List.nil_append]
  · obtain ⟨_, stays⟩ := attained.latched made begun since found has
    obtain ⟨later, spot, rfl⟩ := Table.slot_of_session? found
    exact (attained.moments since.moments).aimed _ (Table.mem_roster spot) stays.media engine has
      transmission tried

/-- Whatever leg has an engine stood in the table for the first time when a setup was taken in. -/
theorem Reachable.exists_latches {gateway : Gateway} (reached : gateway.Reachable)
    {place engine : Nat} {session : Session}
    (found : gateway.exchange.table.session? place = some session)
    (has : session.engine = some engine) :
    ∃ before request setup, Reachable ⟨gateway.settings, before⟩ ∧
      Message.ofDatagram (request.2.take gateway.settings.bufferSize.toNat) =
        .ok (.setup setup) ∧
      before.resources.engines.length ≤ engine ∧
      Moments gateway.settings.bufferSize.toNat
        (before.signal gateway.settings.bufferSize.toNat request) gateway.exchange ∧
      Latches gateway.settings.bufferSize.toNat engine setup session
        (before.signal gateway.settings.bufferSize.toNat request) := by
  induction reached generalizing place session with
  | started started =>
    obtain ⟨_, _, _, _, control, roster, without, _⟩ := start_bare started
    obtain ⟨slot, there, rfl⟩ := Table.slot_of_session? found
    have member := Table.mem_roster there
    rw [roster, List.mem_singleton] at member
    cases (member ▸ without : slot.session.aspect.engine = none).symm.trans has
  | @advanced gateway exchange reached step ih =>
    obtain ⟨slot, there, rfl⟩ := Table.slot_of_session? found
    have moments := reached.sound.moments_of_step step
    by_cases made : engine < gateway.exchange.resources.engines.length
    -- The engine was made before this step, and its leg is the one that had it then.
    · obtain ⟨_, member, continues, _⟩ :=
        (turns_of_moments moments).continues (Table.mem_roster there) has made
      obtain ⟨old, inTable, rfl⟩ := List.mem_map.mp member
      obtain ⟨index, spot⟩ := List.getElem?_of_mem inTable
      obtain ⟨before, request, setup, first, read, unmade, leads, latches⟩ :=
        ih (Table.session?_of_slot spot) (continues.engine_eq.symm.trans has)
      exact ⟨before, request, setup, first, read, unmade, leads.trans moments,
        latches.of_continues ⟨continues.engine_eq, continues.callId_eq, continues.role_eq,
          continues.direction_eq⟩⟩
    -- Otherwise the leg is new, and a step that adds a leg takes a setup in.
    have fresh : slot.session.gist ∉ gateway.exchange.table.gists := by
      intro member
      obtain ⟨_, old, spot, _, same⟩ := Table.mem_gists_iff.mp member
      have hadToo : old.session.engine = some engine := (congrArg Session.engine same).trans has
      exact made (reached.attained.made (List.mem_of_getElem? spot) hadToo)
    have inTable := List.mem_of_getElem? there
    rcases step.gists_subset reached.sound with fewer | ⟨request, rfl⟩
    · exact absurd (fewer ((reached.advanced step).sound.gist_mem inTable has)) fresh
    rcases reached.sound.leg_signal _ request inTable has with member | ⟨setup, read, latched⟩
    · exact absurd member fresh
    have unheard := (reached.sound.carried_signal gateway.settings.bufferSize.toNat
      request).1.hearings_eq engine
    have unmade := reached.attained.tracked.unmade engine (Nat.le_of_not_lt made)
    rw [reached.attained.tracked.orderly.hearings_eq_nil unmade] at unheard
    exact ⟨gateway.exchange, request, setup, reached, read, Nat.le_of_not_lt made, .refl,
      (reached.advanced step).latches unheard found has latched⟩

/-- **Remote endpoints are latched.** Whatever live leg a gateway has, it was made with its engine
when a setup was taken in, and from then on, at every moment: a gateway leg is where the setup said;
a terminal leg is nowhere until its engine is handed the first datagram, and from then on where this
came from; and its engine has tried to send nothing but to there. -/
theorem Reachable.remotes_latched {gateway : Gateway} (reached : gateway.Reachable) {place : Nat}
    {slot : Slot} (found : gateway.exchange.table.slots[place]? = some slot)
    (live : slot.isLive = true) (media : slot.session.isControl = false) :
    ∃ engine before request setup, slot.session.engine = some engine ∧
      Reachable ⟨gateway.settings, before⟩ ∧
      Message.ofDatagram (request.2.take gateway.settings.bufferSize.toNat) =
        .ok (.setup setup) ∧
      before.resources.engines.length ≤ engine ∧
      Moments gateway.settings.bufferSize.toNat
        (before.signal gateway.settings.bufferSize.toNat request) gateway.exchange ∧
      Latches gateway.settings.bufferSize.toNat engine setup slot.session
        (before.signal gateway.settings.bufferSize.toNat request) := by
  obtain ⟨engine, has⟩ :=
    (reached.sound.table.has_engine_iff (List.mem_of_getElem? found)).mpr ⟨live, media⟩
  obtain ⟨before, request, setup, latches⟩ :=
    reached.exists_latches (Table.session?_of_slot found) has
  exact ⟨engine, before, request, setup, has, latches⟩

/-- The terminal leg of the first call of this relay is where its first datagram came from, and its
engine has sent one datagram, which went there. -/
theorem remotes_latched_talking :
    Reachable ⟨{}, talking⟩ ∧
      (attempts 1 talking.resources.journal).map Transmission.destination =
        [⟨Ipv4.loopback, 4000⟩] ∧
      ∃ slot before request setup, talking.table.slots[2]? = some slot ∧ slot.isLive = true ∧
        slot.session.isControl = false ∧ slot.session.engine = some 1 ∧
        slot.session.role = .terminal ∧ slot.session.remote = some ⟨Ipv4.loopback, 4000⟩ ∧
        Reachable ⟨{}, before⟩ ∧
        Message.ofDatagram (request.2.take 2048) = .ok (.setup setup) ∧
        Latches 2048 1 setup slot.session (before.signal 2048 request) := by
  have leg : (talking.table.slots[2]?).map (fun slot => (slot.isLive, slot.session.isControl,
      slot.session.engine, slot.session.role, slot.session.remote)) =
      some (true, false, some 1, .terminal, some ⟨Ipv4.loopback, 4000⟩) := by decide +kernel
  obtain ⟨slot, found, same⟩ := Option.map_eq_some_iff.mp leg
  simp only [Prod.mk.injEq] at same
  obtain ⟨live, media, has, terminal, remote⟩ := same
  obtain ⟨engine, before, request, setup, hasToo, first, read, _, _, latches⟩ :=
    Reachable.remotes_latched reachable_talking found live media
  obtain rfl := Option.some.inj (has.symm.trans hasToo)
  exact ⟨reachable_talking, by decide +kernel, slot, before, request, setup, found, live, media,
    has, terminal, remote, first, read, latches⟩

end Gateway

end FaxRelay
