import FaxRelay.Proofs.Agreement

/-!
# Calm rounds

An exchange is calm when no fault waits for any live session and no bridge has
failed (`Exchange.Calm`). A round of a calm exchange loses no call. Apart from
the signaling that it takes in, all it does is to read sockets, to mark slots
and to drop the closed ones, and none of this shows in the live sessions, in
what they can draw on, in what is counted, or in what was sent from the control
socket (`Exchange.Rests`).
-/

set_option autoImplicit false

namespace FaxRelay

open FaxRelay.Media FaxRelay.Net FaxRelay.Pool FaxRelay.Signal

namespace Table

/-- A session may be changed as long as its bridge does not fail. -/
theorem Running.changeSession {table : Table} (running : table.Running) {index : Nat}
    {change : Session → Session} (keeps : ∀ session, table.session? index = some session →
      (change session).bridgeFailed = false) : (table.changeSession index change).Running := by
  intro slot member
  obtain ⟨place, found⟩ := List.getElem?_of_mem member
  rw [Table.changeSession, changeSlot, List.getElem?_modify] at found
  obtain ⟨old, foundOld, rfl⟩ := Option.map_eq_some_iff.mp found
  split
  · next same =>
    exact keeps old.session (by rw [session?, same, foundOld]; rfl)
  · exact running old (List.mem_of_getElem? foundOld)

end Table

namespace Session

theorem bridgeFailed_heardFrom (session : Session) (sender : Endpoint) :
    (session.heardFrom sender).bridgeFailed = session.bridgeFailed := by
  rw [bridgeFailed, bridge_heardFrom, bridgeFailed]

theorem bridgeFailed_onReadable (session : Session) (size : Nat) (resources : Resources) :
    (session.onReadable size resources).2.1.bridgeFailed = session.bridgeFailed := by
  have heard : ∀ (datagrams : List (Endpoint × Payload)) (session : Session)
      (resources : Resources),
      (session.hearAll size datagrams resources).1.bridgeFailed = session.bridgeFailed := by
    intro datagrams
    induction datagrams with
    | nil => exact fun _ _ => rfl
    | cons datagram rest ih =>
      intro session resources
      exact (ih _ _).trans (session.bridgeFailed_heardFrom datagram.1)
  rw [onReadable]
  split
  · rfl
  · dsimp only
    split <;> exact heard _ _ _

end Session

namespace Exchange

/-- No fault waits for a live session, and no bridge has failed. -/
structure Calm (exchange : Exchange) : Prop where
  faultless : ∀ leg ∈ exchange.table.gists, ∀ address, leg.socket = some address →
    exchange.resources.fabric.Faultless address
  running : exchange.table.Running

/-- Between two exchanges, the first of them calm, nothing happened that signaling would notice: the
live sessions, what they can draw on and the counts are the same, no slot was filled, nothing was
sent from the control socket, and what waits there still waits. -/
structure Rests (address : Endpoint) (before after : Exchange) : Prop where
  agrees : before.Agrees after
  capacity_eq : after.table.capacity = before.table.capacity
  size_le : after.table.size ≤ before.table.size
  policy_eq : after.resources.fabric.policy = before.resources.fabric.policy
  dispatches_eq : dispatches address after.resources.journal =
    dispatches address before.resources.journal
  queue_eq : after.resources.fabric.queue address = before.resources.fabric.queue address
  calm : after.Calm

variable {exchange before after first second third : Exchange} {address : Endpoint}

theorem Calm.rests (calm : exchange.Calm) (address : Endpoint) : exchange.Rests address exchange :=
  ⟨.refl exchange, rfl, Nat.le_refl _, rfl, rfl, rfl, calm⟩

theorem Rests.trans (earlier : first.Rests address second) (later : second.Rests address third) :
    first.Rests address third where
  agrees := earlier.agrees.trans later.agrees
  capacity_eq := later.capacity_eq.trans earlier.capacity_eq
  size_le := Nat.le_trans later.size_le earlier.size_le
  policy_eq := later.policy_eq.trans earlier.policy_eq
  dispatches_eq := later.dispatches_eq.trans earlier.dispatches_eq
  queue_eq := later.queue_eq.trans earlier.queue_eq
  calm := later.calm

/-- What one thing after another leaves at rest, all of them do. -/
theorem Calm.rests_foldl {α : Type} (address : Endpoint) {change : Exchange → α → Exchange}
    (steps : ∀ (exchange : Exchange) (value : α),
      exchange.Calm → exchange.Rests address (change exchange value))
    (values : List α) (calm : exchange.Calm) :
    exchange.Rests address (values.foldl change exchange) := by
  induction values generalizing exchange with
  | nil => exact calm.rests address
  | cons value rest ih =>
    have step := steps exchange value calm
    exact step.trans (ih step.calm)

/-! ## Waiting -/

/-- Slots may be marked, moved and dropped. -/
theorem Rearranged.rests (rearranged : before.Rearranged after) (calm : before.Calm)
    (address : Endpoint) : before.Rests address after where
  agrees := .of_rearranged rearranged
  capacity_eq := rearranged.capacity_eq
  size_le := rearranged.size_le
  policy_eq := by rw [rearranged.resources_eq]
  dispatches_eq := by rw [rearranged.resources_eq]
  queue_eq := by rw [rearranged.resources_eq]
  calm := by
    refine ⟨fun leg member address has => ?_, fun slot member => ?_⟩
    · rw [rearranged.resources_eq]
      exact calm.faultless leg (rearranged.gists_eq ▸ member) address has
    · obtain ⟨old, oldMember, same⟩ := rearranged.bridges slot member
      rw [Session.bridgeFailed, same]
      exact calm.running old oldMember

/-- The network may change as long as every socket stays in the hands in which it is, no fault comes
to any, and what waits for signaling to be taken still waits. -/
theorem Calm.rests_fabric (calm : exchange.Calm) {fabric : Fabric}
    (policy : fabric.policy = exchange.resources.fabric.policy)
    (holder : ∀ other, fabric.holder? other = exchange.resources.fabric.holder? other)
    (queue : fabric.queue address = exchange.resources.fabric.queue address)
    (faultless : ∀ other, exchange.resources.fabric.Faultless other → fabric.Faultless other) :
    exchange.Rests address
      { exchange with resources := { exchange.resources with fabric := fabric } } where
  agrees :=
    ⟨rfl, { Resources.Alike.refl exchange.resources with
      bindFault_eq := congrArg Policy.bindFault policy
      holder_eq := holder }, rfl⟩
  capacity_eq := rfl
  size_le := Nat.le_refl _
  policy_eq := policy
  dispatches_eq := rfl
  queue_eq := queue
  calm := ⟨fun leg member other has => faultless other (calm.faultless leg member other has),
    calm.running⟩

theorem Calm.rests_settle (calm : exchange.Calm) (address other : Endpoint) :
    exchange.Rests address
      { exchange with
        resources :=
          { exchange.resources with fabric := exchange.resources.fabric.settle other } } :=
  calm.rests_fabric rfl (fun _ => Fabric.holder?_update other _ fun _ => rfl)
    (Fabric.queue_settle other address)
    fun third faultless => faultless.of_queue_eq (Fabric.queue_settle other third)

/-- A wait leaves everything at rest. -/
theorem Calm.rests_wait (calm : exchange.Calm) (address : Endpoint) :
    exchange.Rests address (Gateway.wait exchange).2 := by
  rw [Gateway.wait_eq]
  have settled := calm.rests_foldl address
    (fun exchange (entry : Endpoint × SessionId) calm => calm.rests_settle address entry.1)
    (Gateway.watched exchange)
  exact settled.trans (settled.calm.rests_foldl address
    (fun exchange token calm => (exchange.rearranged_markReadable token).rests calm address) _)

/-! ## Media -/

/-- No leg has the socket at which signaling is taken. -/
theorem Sound.socket_ne_of_leg (sound : exchange.Sound)
    (listens : exchange.table.control?.bind Session.socket = some address) {leg : Session}
    (isLeg : leg ∈ exchange.table.legs) {socket : Endpoint} (bound : leg.socket = some socket) :
    socket ≠ address := by
  rintro rfl
  obtain ⟨_, _, gists⟩ := sound.table.gists_eq
  obtain ⟨_, _, established⟩ := sound.table.paired.established isLeg
  obtain ⟨other, _, bound', otherMember, otherSignals, _⟩ := sound.control_of_listens listens
  have member : leg ∈ exchange.table.gists := gists ▸ List.mem_cons_of_mem _ isLeg
  obtain same := sound.wired.gist_eq otherMember member bound' bound
  have media := established.media
  rw [← same] at media
  cases otherSignals.symm.trans media

/-- Handling the media of a leg reads its socket and hands what waits there to its engine. This is
passing traffic, as the socket does not fail. -/
theorem Sound.rests_handleMedia (sound : exchange.Sound) (calm : exchange.Calm)
    (listens : exchange.table.control?.bind Session.socket = some address) (size : Nat)
    {index : Nat} {slot : Slot} (found : exchange.table.slots[index]? = some slot)
    (behind : 0 < index) (live : slot.isLive = true) :
    exchange.Passing (exchange.handleMedia size index) ∧
      exchange.Rests address (exchange.handleMedia size index) := by
  have present : exchange.table.session? index = some slot.session := by
    rw [Table.session?, found]
    rfl
  have isLeg := Table.gist_mem_legs found behind live
  obtain ⟨engine, socket, has, bound⟩ := sound.leg_engine_socket isLeg
  obtain ⟨control, signaling, gists⟩ := sound.table.gists_eq
  have member : slot.session.gist ∈ exchange.table.gists := gists ▸ List.mem_cons_of_mem _ isLeg
  have clean := calm.faultless _ member socket bound
  have differs : address ≠ socket := (sound.socket_ne_of_leg listens isLeg bound).symm
  obtain ⟨count, later, after, read, handed⟩ :=
    Session.onReadable_eq (show slot.session.engine = some engine from has) bound size clean
  have passing := exchange.passing_readAt size present
  have handled : exchange.handleMedia size index = exchange.readAt size index slot.session := by
    rw [Exchange.handleMedia, present, readAt]
    dsimp only
    rw [read]
  have resources : (exchange.readAt size index slot.session).resources = after := by
    rw [readAt, read]
  rw [handled]
  refine ⟨passing, ?_⟩
  exact {
    agrees := .of_passing passing
    capacity_eq := passing.outline.capacity_eq
    size_le := Nat.le_of_eq passing.outline.size_eq
    policy_eq := by
      rw [resources, handed.fabric]
      rfl
    dispatches_eq := by
      rw [resources, handed.journal, dispatches_append]
      simp [dispatches, Event.sentFrom?]
    queue_eq := by
      rw [resources, handed.fabric, clean.queue_drain, if_neg differs]
    calm := by
      refine ⟨fun leg legMember other otherHas cause waits => ?_, ?_⟩
      · rw [passing.outline.gists_eq] at legMember
        rw [resources, handed.fabric, clean.queue_drain] at waits
        split at waits
        · cases waits
        · exact calm.faultless leg legMember other otherHas cause waits
      · refine calm.running.changeSession fun session same => ?_
        rw [Session.bridgeFailed_onReadable]
        exact calm.running slot (List.mem_of_getElem? found) }

/-- **Compacting a calm exchange leaves it at rest.** -/
theorem Sound.rests_compact (sound : exchange.Sound) (calm : exchange.Calm)
    (listens : exchange.table.control?.bind Session.socket = some address) (size : Nat) :
    exchange.Rests address (exchange.compact size).2 := by
  rw [compact_eq]
  refine Survives.compactWith ⟨fun rearranged rests => ?_,
    fun {before index slot} soundBefore behind found live rests => ?_⟩
    (fun index before sound => ?_) sound (calm.rests address)
  · exact rests.trans (rearranged.rests rests.calm address)
  · have listensBefore := rests.agrees.listens sound soundBefore listens
    exact rests.trans
      (soundBefore.rests_handleMedia rests.calm listensBefore size found behind live).2
  · exact sound.handleMedia size index

/-! ## Idle bridges -/

end Exchange

namespace Resources

variable {resources : Resources}

/-- An engine in which no audio waits produces an empty frame, and stays as it is. -/
theorem produce_of_queued_eq_zero {engine : Nat} (nothing : resources.queued engine = 0) :
    resources.produce engine = ([], resources.note (.produced engine [])) := by
  rw [queued] at nothing
  rw [produce, changeEngine]
  cases found : resources.engines[engine]? with
  | none =>
    rw [List.modify_eq_self (List.getElem?_eq_none_iff.mp found)]
    rfl
  | some state =>
    rw [found] at nothing
    have empty : state.queue = [] := List.length_eq_zero_iff.mp nothing
    have still : state.produce = ([], state) := by
      rw [Engine.produce, empty]
      cases state
      cases empty
      simp
    have same : resources.engines.modify engine (fun engine => engine.produce.2) =
        resources.engines := by
      refine List.ext_getElem? fun place => ?_
      rw [List.getElem?_modify]
      by_cases here : engine = place
      · subst here
        simp [found, still]
      · simp [here]
    rw [same, Option.map_some, still]
    rfl

/-- A bridge between engines in which no audio waits moves nothing. -/
theorem passes_idle {inbound outbound : Nat} (count : Nat) (progress : Progress)
    (silent : resources.queued inbound = 0) (silent' : resources.queued outbound = 0)
    (address : Endpoint) :
    ∃ journal, passes (sides inbound outbound) count progress resources =
        (progress, { resources with journal := journal }) ∧
      dispatches address journal = dispatches address resources.journal := by
  induction count generalizing resources with
  | zero => exact ⟨_, rfl, rfl⟩
  | succ count ih =>
    by_cases failed : progress.failed = true
    · obtain ⟨journal, made, same⟩ := ih silent silent'
      refine ⟨journal, ?_, same⟩
      rw [passes, Media.pass, if_pos failed]
      exact made
    · have first : forward (sides inbound outbound) .inbound progress resources =
          (progress, resources.note (.produced inbound [])) := by
        simp [forward, sides, produce_of_queued_eq_zero silent]
      have second : forward (sides inbound outbound) .outbound progress
          (resources.note (.produced inbound [])) =
            (progress,
              (resources.note (.produced inbound [])).note (.produced outbound [])) := by
        have stays : (resources.note (.produced inbound [])).queued outbound = 0 := silent'
        simp [forward, sides, produce_of_queued_eq_zero stays]
      have after : ∀ engine, resources.queued engine = 0 →
          ((resources.note (.produced inbound [])).note
            (.produced outbound [])).queued engine = 0 :=
        fun _ nothing => nothing
      obtain ⟨journal, made, same⟩ := ih (after _ silent) (after _ silent')
      refine ⟨journal, ?_, ?_⟩
      · rw [passes, Media.pass, if_neg failed, first]
        dsimp only
        rw [if_neg failed, second]
        exact made
      · rw [same]
        exact (dispatches_append [.produced outbound [], .produced inbound []] _ address).trans
          (List.append_nil _)

end Resources

namespace Exchange

variable {exchange before after : Exchange} {address : Endpoint}

/-- Passes of a bridge that has no audio to move leave everything at rest. -/
theorem Calm.rests_runBridge (calm : exchange.Calm) (address : Endpoint) (index count : Nat)
    (idle : ∀ session bridge, exchange.table.session? index = some session →
      session.bridge = some bridge → Session.passesLeft bridge exchange.resources = 0) :
    exchange.Rests address (exchange.runBridge index count) := by
  have passing := exchange.passing_runBridge index count
  obtain ⟨journal, resources, same, running⟩ : ∃ journal,
      (exchange.runBridge index count).resources = { exchange.resources with journal := journal } ∧
      dispatches address journal = dispatches address exchange.resources.journal ∧
      (exchange.runBridge index count).table.Running := by
    rw [runBridge]
    cases present : exchange.table.session? index with
    | none => exact ⟨_, rfl, rfl, calm.running⟩
    | some session =>
      obtain ⟨slot, found, rfl⟩ := Option.map_eq_some_iff.mp present
      have unfailed := calm.running slot (List.mem_of_getElem? found)
      dsimp only
      rw [Session.runBridge]
      cases kept : slot.session.bridge with
      | none => exact ⟨_, rfl, rfl, calm.running.changeSession fun _ _ => unfailed⟩
      | some bridge =>
        have left := idle _ bridge present kept
        rw [Session.passesLeft] at left
        obtain ⟨journal, made, same⟩ := Resources.passes_idle count bridge.progress
          (by omega : exchange.resources.queued bridge.inbound = 0)
          (by omega : exchange.resources.queued bridge.outbound = 0) address
        dsimp only
        rw [made]
        rw [Session.bridgeFailed, kept] at unfailed
        exact ⟨journal, rfl, same, calm.running.changeSession fun _ _ => unfailed⟩
  exact {
    agrees := .of_passing passing
    capacity_eq := passing.outline.capacity_eq
    size_le := Nat.le_of_eq passing.outline.size_eq
    policy_eq := by rw [resources]
    dispatches_eq := by rw [resources, same]
    queue_eq := by rw [resources]
    calm := by
      refine ⟨fun leg member other has => ?_, running⟩
      rw [resources]
      exact calm.faultless leg (passing.outline.gists_eq ▸ member) other has }

/-! ## Signaling -/

/-- Taking note of a datagram leaves everything at rest. -/
theorem Calm.rests_noting (calm : exchange.Calm) (address sender : Endpoint) (payload : Payload) :
    exchange.Rests address (exchange.noting sender payload) := by
  have quiet := quiet_heard exchange sender payload
  exact {
    agrees := ⟨quiet.outline.gists_eq, { Resources.Alike.refl exchange.resources with }, rfl⟩
    capacity_eq := rfl
    size_le := Nat.le_of_eq quiet.outline.size_eq
    policy_eq := rfl
    dispatches_eq := by
      show dispatches address ([.signaled sender payload] ++ exchange.resources.journal) = _
      rw [dispatches_append]
      exact List.append_nil _
    queue_eq := rfl
    calm := ⟨fun leg member => calm.faultless leg (quiet.outline.gists_eq ▸ member),
      calm.running.changeSession fun session present => by
        obtain ⟨slot, found, rfl⟩ := Option.map_eq_some_iff.mp present
        rw [Session.bridgeFailed_heardFrom]
        exact calm.running slot (List.mem_of_getElem? found)⟩ }

/-- Signaling leaves an exchange calm: what it adds to a queue are datagrams, and whatever is made
is made without faults. -/
theorem Sound.calm_signal (sound : exchange.Sound) (calm : exchange.Calm) (size : Nat)
    (datagram : Endpoint × Payload) : (exchange.signal size datagram).Calm := by
  have noted := calm.rests_noting datagram.1 datagram.1 (datagram.2.take size)
  obtain ⟨edit, _, table⟩ := sound.edited_signal size datagram
  refine ⟨fun leg member address has => ?_, ?_⟩
  · obtain ⟨mark, marked⟩ := Table.mark_of_gist member
    rcases (sound.carried_signal size datagram).1.marks leg mark marked with
      ⟨_, _, clean⟩ | ⟨stays, fed⟩
    · exact clean address has
    · exact ((fed address has).waiting_eq
        (calm.faultless leg (Table.gist_of_mark stays) address has)).1
  · rw [table]
    exact edit.running_apply noted.calm.running

/-! ## Room -/

/-- There is room for a number of further calls, even if no slot becomes free. -/
def HasRoom (calls : Nat) (exchange : Exchange) : Prop :=
  exchange.table.size + 2 * calls ≤ exchange.table.capacity

theorem HasRoom.not_tight {calls : Nat} (room : exchange.HasRoom (calls + 1)) :
    ¬ exchange.table.remaining < 2 := by
  rw [HasRoom] at room
  rw [Table.remaining]
  omega

theorem HasRoom.rests {calls : Nat} (room : before.HasRoom calls)
    (rests : before.Rests address after) : after.HasRoom calls := by
  have size := rests.size_le
  rw [HasRoom, rests.capacity_eq]
  rw [HasRoom] at room
  omega

/-- A datagram takes the room of one call if it asks for a call, and none otherwise. -/
theorem Sound.hasRoom_signal (sound : exchange.Sound) {size calls : Nat}
    {datagram : Endpoint × Payload}
    (room : exchange.HasRoom (calls + if asksForCall (datagram.2.take size) then 1 else 0)) :
    (exchange.signal size datagram).HasRoom calls := by
  obtain ⟨edit, atMost, table⟩ := sound.edited_signal size datagram
  have filled := (quiet_heard exchange datagram.1 (datagram.2.take size)).outline.size_eq
  change (exchange.noting datagram.1 (datagram.2.take size)).table.size = _ at filled
  rw [HasRoom] at room ⊢
  rw [table, edit.size_apply, edit.capacity_apply, filled]
  change _ ≤ exchange.table.capacity
  omega

end Exchange

/-! ## Echoes -/

/-- A datagram that is read as a reply, such as the relay writes itself. -/
def Signal.IsEcho (size : Nat) (datagram : Endpoint × Payload) : Prop :=
  ∃ message, Message.ofDatagram (datagram.2.take size) = .ok message ∧ message.IsReply

namespace Exchange

variable {exchange : Exchange} {address : Endpoint}

/-- An echo is noted and has no other consequence. -/
theorem signal_echo {size : Nat} {datagram : Endpoint × Payload} (echo : IsEcho size datagram) :
    exchange.signal size datagram = exchange.noting datagram.1 (datagram.2.take size) := by
  obtain ⟨message, read, reply⟩ := echo
  have handled : exchange.handling size datagram =
      (none, exchange.noting datagram.1 (datagram.2.take size)) :=
    handleDatagram_of_isReply read reply
  rw [signal_of_none (by rw [handled]), handled]

theorem sendings_transmitting (transmission : Transmission) (address : Endpoint) :
    ∃ sent, sendings address (exchange.transmitting transmission).resources.journal =
        sendings address exchange.resources.journal ++ sent ∧
      ∀ datagram ∈ sent, datagram.2 = transmission.payload := by
  obtain ⟨fault, journal⟩ : ∃ fault, (exchange.transmitting transmission).resources.journal =
      [.sent transmission fault] ++ exchange.resources.journal := by
    rw [transmitting, Resources.transmit]
    split <;> exact ⟨_, rfl⟩
  rw [journal, sendings_append]
  refine ⟨_, rfl, fun datagram member => ?_⟩
  cases fault with
  | some => cases member
  | none =>
    by_cases same : transmission.destination = address
    · simp [sendings, Event.sentTo?, same] at member
      rw [member]
    · simp [sendings, Event.sentTo?, same] at member

/-- **Whatever comes back to the control socket is an echo:** taking in a datagram adds nothing else
to what waits there. -/
theorem Sound.waiting_signal (sound : exchange.Sound) (calm : exchange.Calm)
    (listens : exchange.table.control?.bind Session.socket = some address) {size : Nat}
    (roomy : maxMessageLength ≤ size) (datagram : Endpoint × Payload) :
    ∃ echoes, (exchange.signal size datagram).resources.fabric.waiting address =
        exchange.resources.fabric.waiting address ++ echoes ∧
      ∀ echo ∈ echoes, IsEcho size echo := by
  have silent := (exchange.noting datagram.1 (datagram.2.take size)).silent_handleDatagram
    (datagram.2.take size)
  have before : sendings address (exchange.handling size datagram).2.resources.journal =
      sendings address exchange.resources.journal := by
    rw [handling, silent.sendings_eq]
    exact (sendings_append [_] _ address).trans (List.append_nil _)
  obtain ⟨sent, sendings_eq, echoes⟩ : ∃ sent,
      sendings address (exchange.signal size datagram).resources.journal =
        sendings address exchange.resources.journal ++ sent ∧
      ∀ echo ∈ sent, IsEcho size echo := by
    rcases sound.signal_cases listens size datagram with
      ⟨_, signaled⟩ | ⟨message, line, _, reply, written, signaled⟩
    · rw [signaled, before]
      exact ⟨[], (List.append_nil _).symm, fun _ member => by cases member⟩
    · rw [signaled]
      obtain ⟨sent, added, payload⟩ :=
        (exchange.handling size datagram).2.sendings_transmitting
          ⟨address, datagram.1, line⟩ address
      rw [before] at added
      refine ⟨sent, added, fun echo member => ⟨message, ?_, reply⟩⟩
      obtain ⟨short, read⟩ := reply.reads written
      rw [payload echo member, List.take_of_length_le (Nat.le_trans short roomy), read]
  -- The control session was there before, so its queue was only added to, by what was sent.
  have after := sound.signal size datagram
  have listensAfter := sound.listens_signal listens size datagram
  obtain ⟨control, _, bound, member, _, noEngine⟩ := after.control_of_listens listensAfter
  obtain ⟨mark, marked⟩ := Table.mark_of_gist member
  rcases (sound.carried_signal size datagram).1.marks control.gist mark marked with
    ⟨_, ⟨engine, has, _⟩, _⟩ | ⟨stays, fed⟩
  · cases noEngine.symm.trans has
  · obtain ⟨_, added, fromRelay, waits⟩ := (fed address bound).waiting_eq
      (calm.faultless _ (Table.gist_of_mark stays) address bound)
    rw [fromRelay] at sendings_eq
    cases List.append_cancel_left sendings_eq
    exact ⟨_, waits, echoes⟩

end Exchange

end FaxRelay
