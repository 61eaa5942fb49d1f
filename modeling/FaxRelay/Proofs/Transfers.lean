import FaxRelay.Proofs.Exchange

/-!
# What the journal tells of datagrams

Three kinds of events tell what became of datagrams: one that an engine was
handed, one of signaling that was taken in, and one that the relay sent itself.
Read off the journal in the order in which they happened, they are what a leg
has heard (`hearings`), what the control session has heard (`signalings`), and
what the relay has put into the queue of an endpoint (`sendings`) or tried to
send from one (`dispatches`).

Making and ending calls is silent: it adds nothing to any of these
(`Resources.Silent`).
-/

set_option autoImplicit false

namespace FaxRelay

open FaxRelay.Media FaxRelay.Net FaxRelay.Pool FaxRelay.Signal

namespace Event

/-- What a certain engine was handed. -/
def heard? (engine : Nat) : Event → Option Payload
  | .heard other payload => if other = engine then some payload else none
  | _ => none

/-- The datagram of signaling that was taken in. -/
def signaled? : Event → Option (Endpoint × Payload)
  | .signaled sender payload => some (sender, payload)
  | _ => none

/-- The datagram that was sent to a certain endpoint and not refused. -/
def sentTo? (address : Endpoint) : Event → Option (Endpoint × Payload)
  | .sent transmission none =>
    if transmission.destination = address then some (transmission.source, transmission.payload)
    else none
  | _ => none

/-- The datagram that the relay tried to send from a certain endpoint, with the fault if it was
refused. -/
def sentFrom? (address : Endpoint) : Event → Option (Transmission × Option OsFault)
  | .sent transmission fault =>
    if transmission.source = address then some (transmission, fault) else none
  | _ => none

/-- An event that tells of no datagram. -/
structure IsSilent (event : Event) : Prop where
  hears_none : ∀ engine, event.heard? engine = none
  signals_none : event.signaled? = none
  sends_none : ∀ address, event.sentTo? address = none
  dispatches_none : ∀ address, event.sentFrom? address = none

end Event

/-- What an engine was handed, the first datagram first. -/
def hearings (engine : Nat) (journal : List Event) : List Payload :=
  (journal.filterMap (Event.heard? engine)).reverse

/-- The signaling that was taken in, the first datagram first. -/
def signalings (journal : List Event) : List (Endpoint × Payload) :=
  (journal.filterMap Event.signaled?).reverse

/-- What the relay itself has sent to an endpoint, the first datagram first. -/
def sendings (address : Endpoint) (journal : List Event) : List (Endpoint × Payload) :=
  (journal.filterMap (Event.sentTo? address)).reverse

/-- What the relay has tried to send from an endpoint, the first datagram first, each with the fault
if it was refused. -/
def dispatches (address : Endpoint) (journal : List Event) :
    List (Transmission × Option OsFault) :=
  (journal.filterMap (Event.sentFrom? address)).reverse

/-- A datagram as it is read, of which no more than `size` bytes are kept. -/
def cut (size : Nat) (datagram : Endpoint × Payload) : Endpoint × Payload :=
  (datagram.1, datagram.2.take size)

section Projections

variable (later earlier : List Event)

theorem hearings_append (engine : Nat) :
    hearings engine (later ++ earlier) = hearings engine earlier ++ hearings engine later := by
  rw [hearings, List.filterMap_append, List.reverse_append]
  rfl

theorem signalings_append :
    signalings (later ++ earlier) = signalings earlier ++ signalings later := by
  rw [signalings, List.filterMap_append, List.reverse_append]
  rfl

theorem sendings_append (address : Endpoint) :
    sendings address (later ++ earlier) = sendings address earlier ++ sendings address later := by
  rw [sendings, List.filterMap_append, List.reverse_append]
  rfl

theorem dispatches_append (address : Endpoint) :
    dispatches address (later ++ earlier) =
      dispatches address earlier ++ dispatches address later := by
  rw [dispatches, List.filterMap_append, List.reverse_append]
  rfl

end Projections

namespace Resources

/-! ## Silence -/

/-- Between two states of the resources no engine went away, and nothing happened to datagrams. -/
structure Silent (before after : Resources) : Prop where
  engines_le : before.engines.length ≤ after.engines.length
  history : ∃ events, after.journal = events ++ before.journal ∧
    ∀ event ∈ events, event.IsSilent

namespace Silent

variable {first second third : Resources}

theorem of_eq (engines : second.engines.length = first.engines.length)
    (journal : second.journal = first.journal) : first.Silent second :=
  ⟨Nat.le_of_eq engines.symm, [], journal, fun _ member => by cases member⟩

theorem refl (resources : Resources) : resources.Silent resources := of_eq rfl rfl

theorem suffix (silent : first.Silent second) : first.journal <:+ second.journal := by
  obtain ⟨events, journal, _⟩ := silent.history
  exact ⟨events, journal.symm⟩

theorem trans (earlier : first.Silent second) (later : second.Silent third) :
    first.Silent third := by
  obtain ⟨before, journal, silent⟩ := earlier.history
  obtain ⟨after, journal', silent'⟩ := later.history
  refine ⟨Nat.le_trans earlier.engines_le later.engines_le, after ++ before, ?_, ?_⟩
  · rw [journal', journal, List.append_assoc]
  · intro event member
    rcases List.mem_append.mp member with member | member
    · exact silent' event member
    · exact silent event member

theorem of_event {event : Event} (silent : event.IsSilent)
    (engines : first.engines.length ≤ second.engines.length)
    (journal : second.journal = event :: first.journal) : first.Silent second := by
  refine ⟨engines, [event], journal, fun other member => ?_⟩
  cases List.mem_singleton.mp member
  exact silent

section Told

variable (silent : first.Silent second)
include silent

theorem hearings_eq (engine : Nat) :
    hearings engine second.journal = hearings engine first.journal := by
  obtain ⟨events, journal, quiet⟩ := silent.history
  have none : events.filterMap (Event.heard? engine) = [] :=
    List.filterMap_eq_nil_iff.mpr fun event member => (quiet event member).hears_none engine
  rw [journal, hearings_append]
  simp [hearings, none]

theorem signalings_eq : signalings second.journal = signalings first.journal := by
  obtain ⟨events, journal, quiet⟩ := silent.history
  have none : events.filterMap Event.signaled? = [] :=
    List.filterMap_eq_nil_iff.mpr fun event member => (quiet event member).signals_none
  rw [journal, signalings_append]
  simp [signalings, none]

theorem sendings_eq (address : Endpoint) :
    sendings address second.journal = sendings address first.journal := by
  obtain ⟨events, journal, quiet⟩ := silent.history
  have none : events.filterMap (Event.sentTo? address) = [] :=
    List.filterMap_eq_nil_iff.mpr fun event member => (quiet event member).sends_none address
  rw [journal, sendings_append]
  simp [sendings, none]

theorem dispatches_eq (address : Endpoint) :
    dispatches address second.journal = dispatches address first.journal := by
  obtain ⟨events, journal, quiet⟩ := silent.history
  have none : events.filterMap (Event.sentFrom? address) = [] :=
    List.filterMap_eq_nil_iff.mpr fun event member => (quiet event member).dispatches_none address
  rw [journal, dispatches_append]
  simp [dispatches, none]

end Told

end Silent

section Operations

variable (resources : Resources)

theorem silent_makeEngine : resources.Silent resources.makeEngine.2 := by
  rcases resources.makeEngine_cases with ⟨fault, refused⟩ | ⟨_, made⟩
  · rw [refused]
    exact .of_eq rfl rfl
  · rw [made]
    exact .of_event ⟨fun _ => rfl, rfl, fun _ => rfl, fun _ => rfl⟩ (by simp) rfl

theorem silent_attachEngine (engine : Nat) (leg : Leg) :
    resources.Silent (resources.attachEngine engine leg).2 := by
  have silent : ∀ accepted, (Event.attached engine leg accepted).IsSilent :=
    fun _ => ⟨fun _ => rfl, rfl, fun _ => rfl, fun _ => rfl⟩
  rcases resources.attachEngine_cases engine leg with ⟨fault, refused⟩ | attached
  · rw [refused]
    exact .of_event (silent false) (Nat.le_refl _) rfl
  · rw [attached]
    exact .of_event (silent true) (by simp) rfl

theorem silent_retireEngine (engine : Nat) : resources.Silent (resources.retireEngine engine) :=
  .of_event ⟨fun _ => rfl, rfl, fun _ => rfl, fun _ => rfl⟩
    (Nat.le_of_eq (List.length_modify ..).symm) rfl

theorem silent_releasePort (port : UInt16) : resources.Silent (resources.releasePort port) := by
  rw [releasePort]
  split
  · exact .of_eq rfl rfl
  · exact .of_event ⟨fun _ => rfl, rfl, fun _ => rfl, fun _ => rfl⟩ (Nat.le_refl _) rfl

theorem silent_releaseId (id : SessionId) : resources.Silent (resources.releaseId id) := by
  rw [releaseId]
  split
  · exact .of_eq rfl rfl
  · exact .of_event ⟨fun _ => rfl, rfl, fun _ => rfl, fun _ => rfl⟩ (Nat.le_refl _) rfl

theorem silent_elim {α : Type} (held : Option α) {give : α → Resources}
    (silent : ∀ value, resources.Silent (give value)) :
    resources.Silent (held.elim resources give) := by
  cases held with
  | none => exact .refl resources
  | some value => exact silent value

end Operations

end Resources

namespace Session

variable (session : Session) (resources : Resources)

/-- Destroying a session is silent. -/
theorem silent_destroy : resources.Silent (session.destroy resources).2 := by
  rw [destroy]
  split
  · exact .refl resources
  dsimp only
  have retired := resources.silent_elim session.engine resources.silent_retireEngine
  generalize session.engine.elim resources resources.retireEngine = freed at *
  have closed : freed.Silent (session.socket.elim freed freed.closeSocket) :=
    freed.silent_elim session.socket fun _ => .of_eq rfl rfl
  generalize session.socket.elim freed freed.closeSocket = unbound at *
  have returned := unbound.silent_elim session.port unbound.silent_releasePort
  generalize session.port.elim unbound unbound.releasePort = last at *
  have whole := (retired.trans closed).trans returned
  split
  · exact whole.trans (last.silent_releaseId session.id)
  · exact whole

theorem silent_equip (callId : CallId) (address : Endpoint) :
    resources.Silent (session.equip callId address resources).2.2 := by
  have made := resources.silent_makeEngine
  rw [equip]
  split
  · next same => rwa [same] at made
  next engine middle same =>
  rw [same] at made
  have attached := middle.silent_attachEngine engine (session.leg callId address)
  split
  · next same => exact made.trans (by rwa [same] at attached)
  · next same => exact made.trans (by rwa [same] at attached)

/-- Opening a media leg is silent, wherever it stops. -/
theorem silent_openMedia (callId : CallId) (remote : Option Endpoint) :
    resources.Silent (session.openMedia callId remote resources).2.2 := by
  rw [openMedia]
  split
  · exact .refl resources
  split
  · exact .refl resources
  dsimp only
  split
  · exact .refl resources
  next port ports _ =>
  split
  · exact .of_eq rfl rfl
  next bound middle opened =>
  have drawn : resources.Silent middle := by
    rw [bindSocket] at opened
    split at opened
    · cases opened
    next reached =>
    rw [Resources.openSocket] at reached
    split at reached
    · cases reached
      cases opened
      cases session.socket <;> exact .of_eq rfl rfl
    · cases reached
  exact drawn.trans (bound.silent_equip middle callId _)

end Session

namespace Exchange

/-! ## Making calls -/

theorem silent_openLeg (role : Role) (index : Nat) (direction : Direction) (callId : CallId)
    (remote : Option Endpoint) (resources : Resources) :
    resources.Silent (openLeg role index direction callId remote resources).2 := by
  rw [openLeg]
  split
  · exact .refl resources
  next session middle created =>
  obtain ⟨_, id, ids, _, rfl, rfl⟩ := Session.create_eq_ok created
  have opened := Session.silent_openMedia (Session.fresh id role direction index)
    { resources with ids := ids } callId remote
  have drawn : resources.Silent { resources with ids := ids } := .of_eq rfl rfl
  split
  · next same =>
    rw [same] at opened
    exact drawn.trans opened
  · next session after same =>
    rw [same] at opened
    exact (drawn.trans opened).trans (session.silent_destroy after)

theorem silent_openLegs (role : Role) (base : Nat) (setup : Setup) (resources : Resources) :
    resources.Silent (openLegs role base setup resources).2 := by
  have first := silent_openLeg .gateway base .inbound setup.callId (some setup.source) resources
  rw [openLegs]
  split
  · next same => rwa [same] at first
  next inbound middle same =>
  rw [same] at first
  have second := silent_openLeg role (base + 1) .outbound setup.callId setup.destination middle
  split
  · next after same =>
    rw [same] at second
    exact (first.trans second).trans (inbound.silent_destroy after)
  next outbound after same =>
  rw [same] at second
  have both := first.trans second
  split
  · exact both
  · exact (both.trans (outbound.silent_destroy after)).trans (inbound.silent_destroy _)

/-! ## Ending calls -/

theorem silent_closeSlots (slots : List Nat) (table : Table) (resources : Resources) :
    resources.Silent
      (slots.foldl (fun state slot => Table.closeSlot slot state.1 state.2)
        (table, resources)).2 := by
  induction slots generalizing table resources with
  | nil => exact .refl resources
  | cons slot rest ih =>
    have closed : resources.Silent (Table.closeSlot slot table resources).2 := by
      rw [Table.closeSlot]
      split
      · exact .refl resources
      · next session _ => exact session.silent_destroy resources
    exact closed.trans (ih _ _)

/-- Destroying a call in a table is silent. -/
theorem silent_destroyTableCall {index : Nat} {table closed : Table}
    {resources after : Resources}
    (destroyed : Table.destroyCall index table resources = .ok (closed, after)) :
    resources.Silent after := by
  rw [Table.destroyCall] at destroyed
  split at destroyed
  · cases destroyed
  split at destroyed
  · cases destroyed
  · have silent : resources.Silent (closed, after).2 := by
      rw [← Except.ok.inj destroyed]
      exact silent_closeSlots _ _ _
    exact silent

/-- Destroying a call is silent. -/
theorem silent_destroyCall (exchange : Exchange) (index : Nat) :
    exchange.resources.Silent (exchange.destroyCall index).2.resources := by
  rw [destroyCall]
  split
  · exact .refl _
  · next destroyed => exact silent_destroyTableCall destroyed

theorem silent_release (exchange : Exchange) (callId : CallId) :
    exchange.resources.Silent (exchange.release callId).2.resources := by
  rw [release]
  split
  · exact .refl _
  · next index _ =>
    have silent := exchange.silent_destroyCall index
    split
    · next same => rwa [same] at silent
    · next same => rwa [same] at silent

theorem silent_reapSlot (exchange : Exchange) (count index : Nat) :
    exchange.resources.Silent (reapSlot (count, exchange) index).2.resources := by
  have silent := exchange.countMediaError.silent_destroyCall index
  rw [reapSlot]
  split
  · exact .refl _
  · split
    · next same => rwa [same] at silent
    · next same => rwa [same] at silent

/-- Destroying the calls whose bridges have failed is silent. -/
theorem silent_reap (exchange : Exchange) :
    exchange.resources.Silent (exchange.reap).2.resources := by
  rw [reap]
  generalize exchange.table.failedBridges = indices
  generalize 0 = count
  induction indices generalizing count exchange with
  | nil => exact .refl _
  | cons index rest ih =>
    exact (exchange.silent_reapSlot count index).trans (ih (reapSlot (count, exchange) index).2 _)

/-- Entering two legs into a table is silent, also when the table refuses them. -/
theorem silent_enter (inbound outbound : Session) (table : Table) (resources : Resources) :
    resources.Silent (enter inbound outbound table resources).2.2 := by
  rw [enter]
  split
  · exact (inbound.silent_destroy resources).trans (outbound.silent_destroy _)
  dsimp only
  split
  · split
    · next destroyed => exact (silent_destroyTableCall destroyed).trans (outbound.silent_destroy _)
    · exact outbound.silent_destroy resources
  · exact .refl resources

/-- **A setup is silent,** whether it succeeds or fails. -/
theorem silent_setUp (exchange : Exchange) (setup : Setup) :
    exchange.resources.Silent (exchange.setUp setup).2.resources := by
  rw [setUp]
  split
  · exact .refl _
  next role _ =>
  split
  · exact .refl _
  have opened := silent_openLegs role exchange.table.size setup exchange.resources
  split
  · next same => rwa [same] at opened
  next inbound outbound after same =>
  rw [same] at opened
  split
  · exact (opened.trans (inbound.silent_destroy after)).trans (outbound.silent_destroy _)
  have entered := silent_enter inbound outbound exchange.table after
  split
  · next refused =>
    rw [refused] at entered
    exact opened.trans entered
  · next accepted =>
    rw [accepted] at entered
    exact opened.trans entered

end Exchange

end FaxRelay
