import FaxRelay.Proofs.Rounds
import FaxRelay.Proofs.Transfers

/-!
# Readiness

A wait marks the slots whose sockets are reported. Before their media is
handled, all signaling is: calls are made and ended, and those whose bridge has
failed are ended too. Slots close in the meantime and others are filled behind
them.

Through all of this every mark stays with the session for which it was made
(`Exchange.Carried`). A slot that is live afterwards either is new, and then not
marked, or is live from the start and marked exactly if it was. What waits for
a session that stays is only added to, by what the relay itself sends.
-/

set_option autoImplicit false

namespace FaxRelay

open FaxRelay.Media FaxRelay.Net FaxRelay.Pool FaxRelay.Signal

/-! ## Marks -/

/-- The gist of the session in a live slot, with whether the slot is marked. -/
def Slot.mark? (slot : Slot) : Option (Session × Bool) :=
  slot.gist?.map fun gist => (gist, slot.descriptor.readable)

namespace Table

/-- The gists of the live sessions in the order of their slots, each with whether its slot is
marked. -/
def marks (table : Table) : List (Session × Bool) := table.slots.filterMap Slot.mark?

theorem map_fst_marks (table : Table) : table.marks.map Prod.fst = table.gists := by
  rw [marks, List.map_filterMap, gists]
  refine congrArg (List.filterMap · table.slots) (funext fun slot => ?_)
  rw [Slot.mark?]
  cases slot.gist? <;> rfl

theorem mem_marks_iff {table : Table} {leg : Session} {mark : Bool} :
    (leg, mark) ∈ table.marks ↔ ∃ slot ∈ table.slots, slot.isLive = true ∧
      slot.session.gist = leg ∧ slot.descriptor.readable = mark := by
  rw [marks, List.mem_filterMap]
  constructor
  · rintro ⟨slot, member, marked⟩
    rw [Slot.mark?, Slot.gist?] at marked
    split at marked
    · next live =>
      cases marked
      exact ⟨slot, member, live, rfl, rfl⟩
    · cases marked
  · rintro ⟨slot, member, live, rfl, rfl⟩
    exact ⟨slot, member, by rw [Slot.mark?, Slot.gist?_of_isLive live]; rfl⟩

theorem gist_of_mark {table : Table} {leg : Session} {mark : Bool}
    (member : (leg, mark) ∈ table.marks) : leg ∈ table.gists := by
  rw [← map_fst_marks]
  exact List.mem_map_of_mem member

theorem mark_of_gist {table : Table} {leg : Session} (member : leg ∈ table.gists) :
    ∃ mark, (leg, mark) ∈ table.marks := by
  rw [← map_fst_marks] at member
  obtain ⟨⟨_, mark⟩, found, rfl⟩ := List.mem_map.mp member
  exact ⟨mark, found⟩

/-- The marks of the sessions behind the first slot. -/
def legMarks (table : Table) : List (Session × Bool) := table.slots.tail.filterMap Slot.mark?

theorem map_fst_legMarks (table : Table) : table.legMarks.map Prod.fst = table.legs :=
  map_fst_marks ⟨table.slots.tail, table.capacity⟩

/-- In a sound table the legs are the sessions that are not for signaling. -/
theorem Sound.mem_legMarks_iff {table : Table} (sound : table.Sound) {leg : Session}
    {mark : Bool} :
    (leg, mark) ∈ table.legMarks ↔ (leg, mark) ∈ table.marks ∧ leg.isControl = false := by
  obtain ⟨control, rest, slots, live, signaling⟩ := sound.control
  have first : control.mark? = some (control.session.gist, control.descriptor.readable) := by
    rw [Slot.mark?, Slot.gist?_of_isLive live]
    rfl
  have marks : table.marks =
      (control.session.gist, control.descriptor.readable) :: table.legMarks := by
    rw [Table.marks, slots, List.filterMap_cons_some first, legMarks, slots]
    rfl
  rw [marks, List.mem_cons]
  constructor
  · intro member
    have isLeg : leg ∈ table.legs := by
      rw [← map_fst_legMarks]
      exact List.mem_map_of_mem member
    obtain ⟨_, _, established⟩ := sound.paired.established isLeg
    exact ⟨.inr member, established.media⟩
  · rintro ⟨same | member, media⟩
    · cases same
      have isControl : control.session.gist.isControl = true := signaling.control
      cases isControl.symm.trans media
    · exact member

/-- A sound table has one session for signaling. -/
theorem Sound.control_unique {table : Table} (sound : table.Sound) {first second : Session}
    (left : first ∈ table.gists) (right : second ∈ table.gists)
    (leftControl : first.isControl = true) (rightControl : second.isControl = true) :
    first = second := by
  obtain ⟨control, _, gists⟩ := sound.gists_eq
  have only : ∀ session ∈ table.gists, session.isControl = true → session = control := by
    intro session member isControl
    rw [gists] at member
    rcases List.mem_cons.mp member with same | member
    · exact same
    · obtain ⟨_, _, established⟩ := sound.paired.established member
      cases isControl.symm.trans established.media
  rw [only first left leftControl, only second right rightControl]

/-- When no two sessions have the same number, no session is marked and not marked. -/
theorem mark_unique {table : Table} (distinct : (table.gists.map Session.id).Nodup)
    {leg : Session} {first second : Bool} (left : (leg, first) ∈ table.marks)
    (right : (leg, second) ∈ table.marks) : first = second := by
  rw [← map_fst_marks, List.map_map, ← List.filterMap_eq_map] at distinct
  exact congrArg Prod.snd (eq_of_pick distinct left right rfl rfl)

theorem marks_changeSlot {table : Table} {index : Nat} {change : Slot → Slot}
    (keeps : ∀ slot, table.slots[index]? = some slot → (change slot).mark? = slot.mark?) :
    (table.changeSlot index change).marks = table.marks := by
  have same : (table.slots.modify index change).map Slot.mark? = table.slots.map Slot.mark? := by
    apply List.ext_getElem?
    intro place
    rw [List.getElem?_map, List.getElem?_map, List.getElem?_modify]
    by_cases same : index = place
    · subst same
      cases found : table.slots[index]? with
      | none => rfl
      | some slot => simp [keeps slot found]
    · simp [same]
  have picked := congrArg (List.filterMap id) same
  rwa [List.filterMap_map, List.filterMap_map] at picked

theorem marks_changeSession {table : Table} {index : Nat} {change : Session → Session}
    (keeps : ∀ session, (change session).gist = session.gist) :
    (table.changeSession index change).marks = table.marks := by
  refine marks_changeSlot fun slot _ => ?_
  rw [Slot.mark?, Slot.gist?, keeps]
  rfl

theorem marks_append (table : Table) (session : Session) :
    (table.append session).marks = table.marks ++ [(session.gist, false)] := by
  rw [marks, append, List.filterMap_append]
  rfl

/-- Hanging up a call takes its marks away and leaves all others. -/
theorem marks_hangUp (table : Table) (callId : CallId) :
    (table.hangUp callId).marks =
      table.marks.filter fun entry => entry.1.callId ≠ some callId := by
  rw [marks, hangUp, List.filterMap_map, marks, List.filter_filterMap]
  refine congrArg (List.filterMap · table.slots) (funext fun slot => ?_)
  show (slot.hangUp callId).mark? = _
  rw [Slot.mark?, Slot.gist?_hangUp, Slot.mark?, Slot.hangUp]
  split
  · next isOf =>
    obtain ⟨live, names⟩ := Slot.isOf_iff.mp isOf
    have gist : slot.session.gist.callId = some callId := names
    rw [Slot.gist?_of_isLive live]
    simp [Option.filter_some, gist]
  · cases slot.gist? with
    | none => rfl
    | some gist => by_cases names : gist.callId = some callId <;> simp [Option.filter_some, names]

end Table

/-! ## What is added to a queue -/

namespace Resources

/-- Between two states the queue of an endpoint was only added to, by what the relay has sent. -/
def Fed (address : Endpoint) (before after : Resources) : Prop :=
  ∃ sent, sendings address after.journal = sendings address before.journal ++ sent ∧
    after.fabric.queue address = before.fabric.queue address ++ sent.map Fabric.arrival

namespace Fed

variable {address : Endpoint} {first second third : Resources}

theorem of_silent (silent : first.Silent second)
    (queue : second.fabric.queue address = first.fabric.queue address) :
    Fed address first second :=
  ⟨[], by rw [silent.sendings_eq, List.append_nil], by rw [queue]; exact (List.append_nil _).symm⟩

theorem trans (earlier : Fed address first second) (later : Fed address second third) :
    Fed address first third := by
  obtain ⟨sent, sendings_eq, queue⟩ := earlier
  obtain ⟨sent', sendings_eq', queue'⟩ := later
  refine ⟨sent ++ sent', ?_, ?_⟩
  · rw [sendings_eq', sendings_eq, List.append_assoc]
  · rw [queue', queue, List.map_append, List.append_assoc]

/-- When no fault was in the queue, the datagrams that wait are those that waited and what was
sent. -/
theorem waiting_eq (fed : Fed address first second) (faultless : first.fabric.Faultless address) :
    second.fabric.Faultless address ∧
      ∃ sent, sendings address second.journal = sendings address first.journal ++ sent ∧
        second.fabric.waiting address = first.fabric.waiting address ++ sent := by
  obtain ⟨sent, sendings_eq, queue⟩ := fed
  rw [faultless.queue_eq, ← List.map_append] at queue
  refine ⟨fun cause member => ?_, sent, sendings_eq, ?_⟩
  · rw [queue] at member
    obtain ⟨datagram, _, same⟩ := List.mem_map.mp member
    cases same
  · rw [Fabric.waiting, queue, Fabric.leadingDatagrams_map]

end Fed

/-- What is sent goes to the queue of its destination. -/
theorem fed_transmit (resources : Resources) (transmission : Transmission) {address : Endpoint}
    (bound : (resources.fabric.holder? address).isSome = true) :
    Fed address resources (resources.transmit transmission).2 := by
  rw [transmit]
  split
  · next fabric accepted =>
    rw [Fabric.send] at accepted
    split at accepted
    · cases accepted
    cases accepted
    by_cases same : address = transmission.destination
    · refine ⟨[(transmission.source, transmission.payload)], ?_, ?_⟩
      · simp [note, sendings, Event.sentTo?, same]
      · show (resources.fabric.deliver _ _).queue address = _
        rw [Fabric.queue_deliver _ bound, if_pos same]
        rfl
    · refine ⟨[], ?_, ?_⟩
      · simp [note, sendings, Event.sentTo?, Ne.symm same]
      · show (resources.fabric.deliver _ _).queue address = _
        rw [Fabric.queue_deliver _ bound, if_neg same]
        rfl
  · exact ⟨[], (List.append_nil _).symm, (List.append_nil _).symm⟩

end Resources

namespace Exchange

/-! ## Marks that are carried along -/

/-- What became of the marks and queues between two states between which no media was handled:
whatever is marked was marked from the start, for the same session, what waits for a session that
was there from the start was only added to, and no fault waits for any other. -/
structure Carried (before after : Exchange) : Prop where
  journal : before.resources.journal <:+ after.resources.journal
  engines_le : before.resources.engines.length ≤ after.resources.engines.length
  hearings_eq : ∀ engine,
    hearings engine after.resources.journal = hearings engine before.resources.journal
  marks : ∀ leg mark, (leg, mark) ∈ after.table.marks →
    (mark = false ∧ (∃ engine, leg.engine = some engine ∧
        before.resources.engines.length ≤ engine) ∧
      ∀ address, leg.socket = some address → after.resources.fabric.Faultless address) ∨
    ((leg, mark) ∈ before.table.marks ∧ ∀ address, leg.socket = some address →
      Resources.Fed address before.resources after.resources)

namespace Carried

variable {first second third : Exchange}

theorem of_marks (journal : first.resources.journal <:+ second.resources.journal)
    (engines : first.resources.engines.length ≤ second.resources.engines.length)
    (hearings_eq : ∀ engine,
      hearings engine second.resources.journal = hearings engine first.resources.journal)
    (marks : second.table.marks = first.table.marks)
    (fed : ∀ address ∈ first.table.sockets,
      Resources.Fed address first.resources second.resources) : first.Carried second := by
  refine ⟨journal, engines, hearings_eq, fun leg mark member => .inr ?_⟩
  rw [marks] at member
  exact ⟨member, fun address has =>
    fed address (List.mem_filterMap.mpr ⟨leg, Table.gist_of_mark member, has⟩)⟩

theorem of_silent (silent : first.resources.Silent second.resources)
    (marks : second.table.marks = first.table.marks)
    (queues : ∀ address ∈ first.table.sockets,
      second.resources.fabric.queue address = first.resources.fabric.queue address) :
    first.Carried second :=
  of_marks silent.suffix silent.engines_le silent.hearings_eq marks fun address member =>
    .of_silent silent (queues address member)

theorem refl (exchange : Exchange) : exchange.Carried exchange :=
  of_silent (.refl _) rfl fun _ _ => rfl

theorem trans (earlier : first.Carried second) (later : second.Carried third) :
    first.Carried third := by
  refine ⟨earlier.journal.trans later.journal, Nat.le_trans earlier.engines_le later.engines_le,
    fun engine => (later.hearings_eq engine).trans (earlier.hearings_eq engine),
    fun leg mark member => ?_⟩
  rcases later.marks leg mark member with ⟨unmarked, ⟨engine, has, recent⟩, clean⟩ | ⟨member, fed⟩
  · exact .inl ⟨unmarked, ⟨engine, has, Nat.le_trans earlier.engines_le recent⟩, clean⟩
  rcases earlier.marks leg mark member with ⟨unmarked, recent, clean⟩ | ⟨member, fed'⟩
  · exact .inl ⟨unmarked, recent, fun address has =>
      ((fed address has).waiting_eq (clean address has)).1⟩
  · exact .inr ⟨member, fun address has => (fed' address has).trans (fed address has)⟩

/-- What is counted does not matter. -/
theorem counters (carried : first.Carried second) (before after : Counters) :
    Carried { first with counters := before } { second with counters := after } :=
  ⟨carried.journal, carried.engines_le, carried.hearings_eq, carried.marks⟩

end Carried

variable {exchange : Exchange}

/-! ### Calls -/

theorem Sound.mem_sockets_bound (sound : exchange.Sound) {address : Endpoint}
    (member : address ∈ exchange.table.sockets) :
    (exchange.resources.fabric.holder? address).isSome = true := by
  rw [sound.wired.held address member]
  rfl

theorem Sound.carried_setUp (sound : exchange.Sound) (setup : Setup) :
    exchange.Carried (exchange.setUp setup).2 := by
  have silent := silent_setUp exchange setup
  cases result : exchange.setUp setup with
  | mk outcome after =>
    rw [result] at silent
    cases outcome with
    | error fault =>
      obtain ⟨table, _, unwound, _⟩ := setUp_error sound.ledger.sound result
      refine .of_silent silent (congrArg Table.marks table) fun address _ => ?_
      exact congrArg (Fabric.queue · address) unwound.fabric_eq
    | ok address =>
      obtain ⟨role, inbound, outbound, resources, served, _, opened, _, rfl⟩ :=
        setUp_ok sound.ledger.sound result
      obtain ⟨_, _, _, has, has', bound, bound'⟩ := openLegs_sockets opened
      have free := Fabric.faultless_bind bound
      have free' := Fabric.faultless_bind bound'
      obtain ⟨middle, holds, _, _, _, _, id, port, id', port', rfl, rfl⟩ :=
        openLegs_ok (outboundRole?_ne_control served) sound.ledger.sound opened
      obtain ⟨_, _, settled⟩ := holds.grown.history
      refine ⟨silent.suffix, silent.engines_le, silent.hearings_eq, fun leg mark member => ?_⟩
      rw [Table.marks_append, Table.marks_append] at member
      rcases List.mem_append.mp member with member | new
      · rcases List.mem_append.mp member with member | new
        · refine .inr ⟨member, fun address _ => .of_silent silent ?_⟩
          rw [Fabric.queue_bind bound', Fabric.queue_bind bound]
        · cases List.mem_singleton.mp new
          refine .inl ⟨rfl, ⟨_, rfl, Nat.le_refl _⟩, fun address has'' => ?_⟩
          cases has.symm.trans has''
          exact free.of_queue_eq (Fabric.queue_bind bound' _)
      · cases List.mem_singleton.mp new
        refine .inl ⟨rfl, ⟨_, rfl, settled.grows⟩, fun address has'' => ?_⟩
        cases has'.symm.trans has''
        exact free'

/-- Destroying a call takes the marks of its legs away and touches no queue of another leg. -/
theorem Sound.carried_destroyCall (sound : exchange.Sound) (index : Nat) :
    exchange.Carried (exchange.destroyCall index).2 := by
  have silent := exchange.silent_destroyCall index
  cases found : exchange.table.slots[index]? with
  | none =>
    have missing : exchange.table.session? index = none := by rw [Table.session?, found]; rfl
    simp only [Exchange.destroyCall, Table.destroyCall, missing]
    exact .refl exchange
  | some slot =>
    by_cases live : slot.isLive = true
    case neg =>
      have closed := Bool.eq_false_iff.mpr live
      rw [sound.destroyCall_shut found closed]
      refine .of_silent (.refl _) (Table.marks_changeSlot fun other foundOther => ?_) fun _ _ => rfl
      cases found.symm.trans foundOther
      rw [Slot.mark?, Slot.mark?, Slot.gist?_eq_none closed]
      rfl
    by_cases behind : 0 < index
    case neg =>
      obtain ⟨control, rest, slots, _, signaling⟩ := sound.table.control
      have place : exchange.table.session? index = some control.session := by
        rw [Table.session?, Nat.eq_zero_of_not_pos behind, slots]
        rfl
      simp only [Exchange.destroyCall, Table.destroyCall, place, signaling.control, if_true]
      exact .refl exchange
    obtain ⟨callId, partner, front, back, established, established', _, legs, destroyed⟩ :=
      sound.table.destroyCall_leg sound.ledger.ids_nodup found behind live
    have members : slot.session.gist ∈ exchange.table.gists ∧
        partner ∈ exchange.table.gists := by
      obtain ⟨control, _, gists⟩ := sound.table.gists_eq
      rw [gists]
      rcases legs with legs | legs <;> rw [legs] <;> simp
    simp only [Exchange.destroyCall, destroyed] at silent ⊢
    refine ⟨silent.suffix, silent.engines_le, silent.hearings_eq, fun leg mark member => .inr ?_⟩
    rw [Table.marks_hangUp] at member
    obtain ⟨member, stranger⟩ := List.mem_filter.mp member
    have stranger : leg.callId ≠ some callId := of_decide_eq_true stranger
    refine ⟨member, fun address has => .of_silent silent ?_⟩
    -- A leg of another call has its socket to itself.
    have apart : ∀ other ∈ exchange.table.gists, other.callId = some callId →
        other.socket ≠ some address := by
      intro other otherMember names otherHas
      obtain rfl := sound.wired.gist_eq otherMember (Table.gist_of_mark member) otherHas has
      exact stranger names
    rw [partner.queue_destroy _ (apart _ members.2 established'.names_call),
      slot.session.gist.queue_destroy _ (apart _ members.1 established.names_call)]

theorem Sound.carried_release (sound : exchange.Sound) (callId : CallId) :
    exchange.Carried (exchange.release callId).2 := by
  rw [Exchange.release]
  split
  · exact .refl exchange
  · next index _ =>
    have carried := sound.carried_destroyCall index
    split
    · next same => rwa [same] at carried
    · next same =>
      rw [same] at carried
      exact carried.counters _ _

/-! ### Signaling -/

theorem carried_heard (exchange : Exchange) (sender : Endpoint) (payload : Payload) :
    exchange.Carried
      { exchange with
        table := exchange.table.changeSession 0 fun session => session.heardFrom sender
        resources := exchange.resources.note (.signaled sender payload) } :=
  .of_marks (List.suffix_cons _ _) (Nat.le_refl _) (fun _ => rfl)
    (Table.marks_changeSession fun session => session.gist_heardFrom sender) fun _ _ =>
      ⟨[], (List.append_nil _).symm, (List.append_nil _).symm⟩

theorem Sound.carried_handleDatagram (sound : exchange.Sound) (datagram : Payload) :
    exchange.Carried (exchange.handleDatagram datagram).2 ∧
      signalings (exchange.handleDatagram datagram).2.resources.journal =
        signalings exchange.resources.journal := by
  rw [Exchange.handleDatagram]
  split
  · exact ⟨.of_silent (.refl _) rfl fun _ _ => rfl, rfl⟩
  · next setup _ =>
    have carried := sound.carried_setUp setup
    have silent := silent_setUp exchange setup
    dsimp only [answerSetup]
    split
    · next same =>
      rw [same] at carried silent
      exact ⟨carried, silent.signalings_eq⟩
    · next same =>
      rw [same] at carried silent
      exact ⟨carried.counters _ _, silent.signalings_eq⟩
  · next callId _ =>
    exact ⟨sound.carried_release callId, (exchange.silent_release callId).signalings_eq⟩
  · exact ⟨.refl exchange, rfl⟩
  · exact ⟨.refl exchange, rfl⟩

/-- A reply is added to the queue of the endpoint to which it goes. -/
theorem Sound.carried_reply (sound : exchange.Sound) (message : Message) :
    exchange.Carried (exchange.reply message) ∧
      signalings (exchange.reply message).resources.journal =
        signalings exchange.resources.journal := by
  have transmitted : ∀ transmission,
      exchange.Carried { exchange with
        resources := (exchange.resources.transmit transmission).2 } ∧
      signalings (exchange.resources.transmit transmission).2.journal =
        signalings exchange.resources.journal := by
    intro transmission
    have fed := fun address (member : address ∈ exchange.table.sockets) =>
      exchange.resources.fed_transmit transmission (sound.mem_sockets_bound member)
    rw [Resources.transmit] at fed ⊢
    split at fed
    · exact ⟨.of_marks (List.suffix_cons _ _) (Nat.le_refl _) (fun _ => rfl) rfl fed, rfl⟩
    · exact ⟨.of_marks (List.suffix_cons _ _) (Nat.le_refl _) (fun _ => rfl) rfl fed, rfl⟩
  rw [reply]
  split
  · next payload control _ _ =>
    rw [Session.send]
    split
    · exact ⟨.refl exchange, rfl⟩
    · exact ⟨.refl exchange, rfl⟩
    · next address remote _ _ =>
      have sent := transmitted ⟨address, remote, payload⟩
      split
      · next same => rwa [same] at sent
      · next same => rwa [same] at sent
  · exact ⟨.refl exchange, rfl⟩

/-- One datagram of signaling carries all marks along and is taken in once. -/
theorem Sound.carried_signal (sound : exchange.Sound) (size : Nat)
    (datagram : Endpoint × Payload) :
    exchange.Carried (exchange.signal size datagram) ∧
      signalings (exchange.signal size datagram).resources.journal =
        signalings exchange.resources.journal ++ [cut size datagram] := by
  have noted := exchange.carried_heard datagram.1 (datagram.2.take size)
  have soundHeard := sound.of_quiet (quiet_heard exchange datagram.1 (datagram.2.take size))
  have soundHandled := soundHeard.handleDatagram (datagram.2.take size)
  obtain ⟨carried, handled⟩ := soundHeard.carried_handleDatagram (datagram.2.take size)
  have taken : signalings (exchange.resources.note
      (.signaled datagram.1 (datagram.2.take size))).journal =
      signalings exchange.resources.journal ++ [cut size datagram] :=
    signalings_append [.signaled datagram.1 (datagram.2.take size)] exchange.resources.journal
  rw [Exchange.signal]
  split
  · next message _ same =>
    rw [same] at carried handled soundHandled
    obtain ⟨answered, kept⟩ := soundHandled.carried_reply message
    exact ⟨(noted.trans carried).trans answered, (kept.trans handled).trans taken⟩
  · next same =>
    rw [same] at carried handled
    exact ⟨noted.trans carried, handled.trans taken⟩

/-- **Signaling carries all marks along,** and every datagram is taken in once, in order. -/
theorem Sound.carried_signals (sound : exchange.Sound) (size : Nat)
    (datagrams : List (Endpoint × Payload)) :
    (datagrams.foldl (Exchange.signal size) exchange).Sound ∧
      exchange.Carried (datagrams.foldl (Exchange.signal size) exchange) ∧
      signalings (datagrams.foldl (Exchange.signal size) exchange).resources.journal =
        signalings exchange.resources.journal ++ datagrams.map (cut size) := by
  induction datagrams generalizing exchange with
  | nil => exact ⟨sound, .refl exchange, (List.append_nil _).symm⟩
  | cons datagram rest ih =>
    obtain ⟨carried, taken⟩ := sound.carried_signal size datagram
    obtain ⟨soundAfter, carried', taken'⟩ := ih (sound.signal size datagram)
    refine ⟨soundAfter, carried.trans carried', ?_⟩
    rw [List.foldl_cons, taken', taken, List.append_assoc]
    rfl

/-! ### Failed bridges -/

theorem Sound.carried_reapSlot (sound : exchange.Sound) (count index : Nat) :
    exchange.Carried (Exchange.reapSlot (count, exchange) index).2 := by
  have counted : exchange.countMediaError.Sound := sound.counters _
  have carried : exchange.Carried (exchange.countMediaError.destroyCall index).2 :=
    (counted.carried_destroyCall index).counters exchange.counters _
  rw [Exchange.reapSlot]
  split
  · exact .refl exchange
  · split
    · next same => rwa [same] at carried
    · next same => rwa [same] at carried

/-- **Ending the calls whose bridges have failed carries all other marks along.** -/
theorem Sound.carried_reap (sound : exchange.Sound) :
    (exchange.reap).2.Sound ∧ exchange.Carried (exchange.reap).2 := by
  rw [Exchange.reap]
  generalize exchange.table.failedBridges = indices
  generalize 0 = count
  induction indices generalizing count exchange with
  | nil => exact ⟨sound, .refl exchange⟩
  | cons index rest ih =>
    obtain ⟨soundAfter, carried⟩ := ih (sound.reapSlot count index) _
    exact ⟨soundAfter, (sound.carried_reapSlot count index).trans carried⟩

end Exchange

/-! ## Waiting -/

namespace Table

variable {table : Table}

theorem getElem?_changeSlot {place : Nat} {slot : Slot} (found : table.slots[place]? = some slot)
    (index : Nat) (change : Slot → Slot) :
    (table.changeSlot index change).slots[place]? =
      some (if index = place then change slot else slot) := by
  rw [changeSlot, List.getElem?_modify, found]
  rfl

/-- A mark that was made stays when another report comes. -/
theorem marked_markReadable {leg : Session} (marked : (leg, true) ∈ table.marks)
    (token : SessionId) : (leg, true) ∈ (table.markReadable token).2.marks := by
  rw [markReadable]
  split
  · exact marked
  next index _ =>
  obtain ⟨slot, member, live, gist, readable⟩ := mem_marks_iff.mp marked
  obtain ⟨place, found⟩ := List.getElem?_of_mem member
  have changed := List.mem_of_getElem? (getElem?_changeSlot found index fun slot =>
    { slot with descriptor := { slot.descriptor with readable := true } })
  split at changed
  · exact mem_marks_iff.mpr ⟨_, changed, live, gist, rfl⟩
  · exact mem_marks_iff.mpr ⟨_, changed, live, gist, readable⟩

/-- **A report marks the session whose number it names.** -/
theorem Sound.marked_of_reported {fabric : Fabric} (sound : table.Sound)
    (wired : table.Wired fabric) (distinct : (table.gists.map Session.id).Nodup) {leg : Session}
    (member : leg ∈ table.gists) : (leg, true) ∈ (table.markReadable leg.id).2.marks := by
  obtain ⟨slot, slotMember, picked⟩ := List.mem_filterMap.mp member
  obtain ⟨index, found⟩ := List.getElem?_of_mem slotMember
  rw [Slot.gist?] at picked
  split at picked
  case isFalse => cases picked
  next live =>
  cases picked
  have label := wired.labeled slot slotMember live
  -- Closed slots have no token, and the tokens of live ones are the numbers of their sessions.
  have place : table.tokenSlot? slot.session.gist.id = some index := by
    refine findSlot?_of_unique found (decide_eq_true label) fun other third foundThird holds => ?_
    have token : third.descriptor.token = some slot.session.id := of_decide_eq_true holds
    have thirdMember := List.mem_of_getElem? foundThird
    cases thirdLive : third.isLive with
    | false =>
      rw [(sound.closed third thirdMember thirdLive).token] at token
      cases token
    | true =>
      rw [wired.labeled third thirdMember thirdLive] at token
      exact place_of_id distinct foundThird found thirdLive live (Option.some.inj token)
  rw [markReadable, place]
  have changed := List.mem_of_getElem? (getElem?_changeSlot found index fun slot =>
    { slot with descriptor := { slot.descriptor with readable := true } })
  rw [if_pos rfl] at changed
  exact mem_marks_iff.mpr ⟨_, changed, live, rfl, rfl⟩

/-- All sessions that are reported are marked. -/
theorem Sound.marked_of_mem {fabric : Fabric} {tokens : List SessionId} (sound : table.Sound)
    (wired : table.Wired fabric) (distinct : (table.gists.map Session.id).Nodup) {leg : Session}
    (member : leg ∈ table.gists)
    (named : (leg, true) ∈ table.marks ∨ leg.id ∈ tokens) :
    (leg, true) ∈ (tokens.foldl (fun table token => (table.markReadable token).2) table).marks := by
  induction tokens generalizing table with
  | nil =>
    rcases named with marked | named
    · exact marked
    · cases named
  | cons token rest ih =>
    have same := sameOutline_markReadable table token
    refine ih (sound.of_sameOutline same) (wired.of_sameOutline same) (same.gists_eq ▸ distinct)
      (same.gists_eq ▸ member) ?_
    rcases named with marked | named
    · exact .inl (marked_markReadable marked token)
    rcases List.mem_cons.mp named with rfl | named
    · exact .inl (sound.marked_of_reported wired distinct member)
    · exact .inr named

end Table

namespace Gateway

variable {exchange : Exchange}

/-- Every live session is watched on its socket. -/
theorem mem_watched {leg : Session} {address : Endpoint} (member : leg ∈ exchange.table.gists)
    (has : leg.socket = some address) : (address, leg.id) ∈ watched exchange := by
  obtain ⟨slot, slotMember, picked⟩ := List.mem_filterMap.mp member
  rw [Slot.gist?] at picked
  split at picked
  · cases picked
    have socket : slot.session.socket = some address := has
    exact List.mem_filterMap.mpr ⟨slot, slotMember, by rw [socket]; rfl⟩
  · cases picked

/-- A wait reports every socket in which something waits, and none of these holds a fault. -/
structure ReportsAll (exchange : Exchange) : Prop where
  ready : ∀ entry ∈ watched exchange, exchange.resources.fabric.queue entry.1 ≠ [] →
    exchange.resources.fabric.isReady entry.1 = true
  faultless : ∀ entry ∈ watched exchange, exchange.resources.fabric.Faultless entry.1

theorem queue_settleAll (entries : List (Endpoint × SessionId)) (fabric : Fabric)
    (address : Endpoint) :
    (entries.foldl (fun fabric entry => fabric.settle entry.1) fabric).queue address =
      fabric.queue address := by
  induction entries generalizing fabric with
  | nil => rfl
  | cons entry rest ih =>
    rw [List.foldl_cons, ih, Fabric.queue_settle]

theorem keeps_settleAll (entries : List (Endpoint × SessionId)) (fabric : Fabric) :
    fabric.Keeps (entries.foldl (fun fabric entry => fabric.settle entry.1) fabric) := by
  induction entries generalizing fabric with
  | nil => exact .refl fabric
  | cons entry rest ih => exact (fabric.keeps_settle entry.1).trans (ih _)

theorem sameOutline_markAll (tokens : List SessionId) (table : Table) :
    table.SameOutline (tokens.foldl (fun table token => (table.markReadable token).2) table) := by
  induction tokens generalizing table with
  | nil => exact .refl table
  | cons token rest ih => exact (Table.sameOutline_markReadable table token).trans (ih _)

/-- A wait changes nothing but marks and what is fresh. -/
theorem quiet_wait (exchange : Exchange) : exchange.Quiet (wait exchange).2 :=
  ⟨sameOutline_markAll _ _, exchange.resources.traffic_fabric (keeps_settleAll _ _)⟩

theorem queue_wait (exchange : Exchange) (address : Endpoint) :
    (wait exchange).2.resources.fabric.queue address =
      exchange.resources.fabric.queue address := queue_settleAll _ _ address

/-- **When a wait reports everything, it marks every session for which something waits.** -/
theorem ReportsAll.marked (reports : ReportsAll exchange) (sound : exchange.Sound) {leg : Session}
    {address : Endpoint} (member : leg ∈ exchange.table.gists) (has : leg.socket = some address)
    (waits : exchange.resources.fabric.queue address ≠ []) :
    (leg, true) ∈ (wait exchange).2.table.marks := by
  have watches := mem_watched member has
  have named : leg.id ∈ reported exchange :=
    List.mem_map.mpr ⟨(address, leg.id),
      List.mem_filter.mpr ⟨watches, reports.ready _ watches waits⟩, rfl⟩
  exact sound.table.marked_of_mem sound.wired sound.ledger.ids_nodup member (.inr named)

end Gateway

end FaxRelay
