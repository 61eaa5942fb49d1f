import FaxRelay.Proofs.MediaLeg

/-!
# Setting up a call

A setup either makes a whole call or leaves no trace. The points at which it can
fail lie before anything was drawn, inside the opening of the first leg, or
inside the opening of the second one, while the first is held; in each case
exactly what was drawn is given back. Behind these points nothing can fail any
more: two legs that were opened can always be joined, and a table that raised no
objection takes both.
-/

set_option autoImplicit false

namespace FaxRelay

open FaxRelay.Media FaxRelay.Net FaxRelay.Pool FaxRelay.Signal

/-- A leg whose call is established: linked to its peer and with the bridge that it keeps, if it
keeps one. -/
def Session.bridged (session : Session) (peer : SessionId) (bridge : Option Bridge) : Session :=
  { session with peer := some peer, bridge := bridge, bridgeActive := true, stage := .progress }

namespace Table

@[simp] theorem size_append (table : Table) (session : Session) :
    (table.append session).size = table.size + 1 := by
  simp [append, size]

@[simp] theorem capacity_append (table : Table) (session : Session) :
    (table.append session).capacity = table.capacity := rfl

theorem size_pos_of_control? {table : Table} (control : table.control?.isSome = true) :
    0 < table.size := by
  rw [size]
  cases slots : table.slots with
  | nil => simp [control?, session?, slots] at control
  | cons first rest => exact Nat.succ_pos _

end Table

namespace Exchange

/-! ## Two legs -/

section Legs

variable {role : Role} (notControl : role ≠ .control)
include notControl

/-- Two legs that were opened can always be joined. -/
theorem join_opened (id id' : SessionId) (base : Nat) (callId : CallId)
    (source destination : Option Endpoint) (address address' : Endpoint) (engine engine' : Nat) :
    join (Session.opened id .gateway .inbound base callId source address engine)
        (Session.opened id' role .outbound (base + 1) callId destination address' engine') =
      .ok
        ((Session.opened id .gateway .inbound base callId source address engine).bridged id'
            (some ⟨engine, engine', Progress.fresh⟩),
          (Session.opened id' role .outbound (base + 1) callId destination address' engine').bridged
            id none) := by
  simp [join, Session.link, Session.startBridge, Session.isControl, Session.opened, Session.fresh,
    Session.bridged, notControl]

variable {base : Nat} {setup : Setup} {before after : Resources}

/-- Two legs that could not be had leave no trace. -/
theorem openLegs_error {fault : Fault} (sound : before.Sound)
    (failed : openLegs role base setup before = (.error fault, after)) :
    before.Unwound after ∧ after.Sound := by
  rw [openLegs] at failed
  split at failed
  · next opened =>
    cases failed
    exact openLeg_error sound opened
  next inbound middle opened =>
  obtain ⟨inboundHolds, soundMiddle, _, id, port, rfl⟩ := openLeg_ok sound opened
  split at failed
  · next opened' =>
    cases failed
    obtain ⟨unwound, soundAfter⟩ := openLeg_error soundMiddle opened'
    exact ⟨(inboundHolds.unwound unwound).destroy, soundAfter.destroy _⟩
  next outbound last opened' =>
  obtain ⟨_, _, _, id', port', rfl⟩ := openLeg_ok soundMiddle opened'
  rw [join_opened notControl] at failed
  cases failed

/-- Two legs that could be had are joined, and each holds what it has drawn. -/
theorem openLegs_ok {inbound outbound : Session} (sound : before.Sound)
    (made : openLegs role base setup before = (.ok (inbound, outbound), after)) :
    ∃ middle, inbound.Holds before middle ∧ outbound.Holds middle after ∧
      middle.Sound ∧ after.Sound ∧
      (role = .gateway → setup.destination.isSome = true) ∧
      ∃ id port id' port',
        inbound = (Session.opened id .gateway .inbound base setup.callId (some setup.source)
          ⟨before.mediaIp, port⟩ before.engines.length).bridged id'
            (some ⟨before.engines.length, middle.engines.length, Progress.fresh⟩) ∧
        outbound = (Session.opened id' role .outbound (base + 1) setup.callId setup.destination
          ⟨middle.mediaIp, port'⟩ middle.engines.length).bridged id none := by
  rw [openLegs] at made
  split at made
  · cases made
  next inbound middle opened =>
  obtain ⟨inboundHolds, soundMiddle, _, id, port, rfl⟩ := openLeg_ok sound opened
  split at made
  · cases made
  next outbound last opened' =>
  obtain ⟨outboundHolds, soundLast, aimed, id', port', rfl⟩ := openLeg_ok soundMiddle opened'
  rw [join_opened notControl] at made
  cases made
  exact ⟨middle, inboundHolds.of_fields Stage.noConfusion rfl rfl rfl rfl rfl,
    outboundHolds.of_fields Stage.noConfusion rfl rfl rfl rfl rfl, soundMiddle, soundLast, aimed,
    id, port, id', port', rfl, rfl⟩

end Legs

/-! ## The whole call -/

theorem outboundRole?_ne_control {mode : FaxMode} {role : Role}
    (served : outboundRole? mode = some role) : role ≠ .control := by
  rintro rfl
  cases mode <;> cases served

theorem objection?_eq_none {table : Table} {callId : CallId}
    (welcome : objection? table callId = none) :
    table.control?.isSome = true ∧ 2 ≤ table.remaining ∧ table.findCall? callId = none := by
  rw [objection?] at welcome
  split at welcome
  · cases welcome
  next control =>
  split at welcome
  · cases welcome
  next room =>
  split at welcome
  · cases welcome
  next absent =>
  exact ⟨Option.isSome_iff_ne_none.mpr (by simpa using control), by omega, by simpa using absent⟩

/-- A table that has a control session and room takes a media leg. -/
theorem objection?_append {table : Table} {session : Session} (filled : 0 < table.size)
    (room : table.size < table.capacity) (media : session.isControl = false) :
    table.objection? session = none := by
  have nonempty : (table.size == 0) = false := beq_false_of_ne (Nat.ne_of_gt filled)
  rw [Table.objection?, if_neg (Nat.not_le_of_lt room), nonempty, media]
  rfl

section Entry

variable {table : Table} {inbound outbound : Session}
variable (control : table.control?.isSome = true) (room : 2 ≤ table.remaining)
variable (inboundMedia : inbound.isControl = false) (outboundMedia : outbound.isControl = false)
include control room inboundMedia outboundMedia

/-- A table that has a control session and room for two objects to neither leg of a call. -/
theorem objection?_legs :
    table.objection? inbound = none ∧ (table.append inbound).objection? outbound = none := by
  rw [Table.remaining] at room
  have filled : 0 < table.size := Table.size_pos_of_control? control
  have size := Table.size_append table inbound
  have capacity := Table.capacity_append table inbound
  constructor
  · exact objection?_append filled (by omega) inboundMedia
  · exact objection?_append (by omega) (by omega) outboundMedia

/-- It takes both. -/
theorem enter_eq_ok {resources : Resources} :
    enter inbound outbound table resources =
      (.ok (), (table.append inbound).append outbound, resources) := by
  obtain ⟨welcome, welcome'⟩ := objection?_legs control room inboundMedia outboundMedia
  simp only [enter, welcome, welcome']

end Entry

variable {setup : Setup} {exchange after : Exchange}

/-- **A setup that fails leaves no trace.** Nothing of the exchange has changed but its resources,
and whatever was drawn on them was given back. -/
theorem setUp_error {fault : Fault} (sound : exchange.resources.Sound)
    (failed : exchange.setUp setup = (.error fault, after)) :
    after.table = exchange.table ∧ after.counters = exchange.counters ∧
      exchange.resources.Unwound after.resources ∧ after.resources.Sound := by
  have still : ∀ {reason : Fault}, (Except.error reason, exchange) =
      ((.error fault, after) : Except Fault Endpoint × Exchange) →
      after.table = exchange.table ∧ after.counters = exchange.counters ∧
        exchange.resources.Unwound after.resources ∧ after.resources.Sound := by
    intro reason same
    cases same
    exact ⟨rfl, rfl, Resources.Unwound.refl _, sound⟩
  rw [setUp] at failed
  split at failed
  · exact still failed
  next role served =>
  split at failed
  · exact still failed
  next welcome =>
  split at failed
  · next opened =>
    cases failed
    obtain ⟨unwound, soundAfter⟩ := openLegs_error (outboundRole?_ne_control served) sound opened
    exact ⟨rfl, rfl, unwound, soundAfter⟩
  next inbound outbound resources opened =>
  obtain ⟨middle, _, _, _, _, _, id, port, id', port', rfl, rfl⟩ :=
    openLegs_ok (outboundRole?_ne_control served) sound opened
  obtain ⟨control, room, _⟩ := objection?_eq_none welcome
  -- Behind both legs nothing fails any more: the table takes them.
  rw [enter_eq_ok control room rfl (decide_eq_false (outboundRole?_ne_control served))] at failed
  cases failed

/-- **A setup that succeeds makes a whole call:** two legs, joined, each of which holds what it has
drawn, behind all the slots that there were. -/
theorem setUp_ok {address : Endpoint} (sound : exchange.resources.Sound)
    (made : exchange.setUp setup = (.ok address, after)) :
    ∃ role inbound outbound resources,
      outboundRole? setup.mode = some role ∧ objection? exchange.table setup.callId = none ∧
      openLegs role exchange.table.size setup exchange.resources =
        (.ok (inbound, outbound), resources) ∧ inbound.localAddress = some address ∧
      after =
        { table := (exchange.table.append inbound).append outbound
          resources := resources
          counters :=
            { exchange.counters with established := exchange.counters.established + 1 } } := by
  rw [setUp] at made
  split at made
  · cases made
  next role served =>
  split at made
  · cases made
  next welcome =>
  split at made
  · cases made
  next inbound outbound resources opened =>
  refine ⟨role, inbound, outbound, resources, served, welcome, opened, ?_⟩
  obtain ⟨middle, _, _, _, _, _, id, port, id', port', rfl, rfl⟩ :=
    openLegs_ok (outboundRole?_ne_control served) sound opened
  obtain ⟨control, room, _⟩ := objection?_eq_none welcome
  rw [enter_eq_ok control room rfl (decide_eq_false (outboundRole?_ne_control served))] at made
  cases made
  exact ⟨rfl, rfl⟩

/-- A setup that fails never got as far as starting a bridge: the mode is not served, or there is
an objection to the call, or one of the two legs could not be opened. -/
theorem openLegs_of_setUp_error {fault : Fault} {role : Role} (sound : exchange.resources.Sound)
    (failed : (exchange.setUp setup).1 = .error fault)
    (served : outboundRole? setup.mode = some role)
    (welcome : objection? exchange.table setup.callId = none) :
    (openLegs role exchange.table.size setup exchange.resources).1 = .error fault := by
  simp only [setUp, served, welcome] at failed
  split at failed
  · next opened =>
    rw [opened]
    cases failed
    rfl
  next inbound outbound resources opened =>
  obtain ⟨middle, _, _, _, _, _, id, port, id', port', rfl, rfl⟩ :=
    openLegs_ok (outboundRole?_ne_control served) sound opened
  obtain ⟨control, room, _⟩ := objection?_eq_none welcome
  rw [enter_eq_ok control room rfl (decide_eq_false (outboundRole?_ne_control served))] at failed
  cases failed

/-! ## Atomicity -/

/-- **Setting up a call is atomic.** When it fails, at whatever point, the table is as it was; the
same numbers and the same ports are allocated; the network is as it was, so no socket that was
opened is still open; the engines that there were are as they were, and each engine that was
attached in between was retired in between, exactly once; and no two legs were joined, so that no
bridge was ever started.

The supplies are sound when they were made from valid settings, whatever has been issued and given
back since then: `SessionIds.sound_ofSize`, `MediaPorts.sound_ofRange`, and the two lemmas
`Sound.allocate` and `Sound.release` of each. -/
theorem setUp_atomic (exchange : Exchange) (sound : exchange.resources.Sound) (setup : Setup)
    (fault : Fault) (failed : (exchange.setUp setup).1 = .error fault) :
    (exchange.setUp setup).2.table = exchange.table ∧
      (exchange.setUp setup).2.counters = exchange.counters ∧
      exchange.resources.ids.SameTaken (exchange.setUp setup).2.resources.ids ∧
      exchange.resources.ports.SameTaken (exchange.setUp setup).2.resources.ports ∧
      (exchange.setUp setup).2.resources.fabric = exchange.resources.fabric ∧
      (exchange.setUp setup).2.resources.engines.take exchange.resources.engines.length =
        exchange.resources.engines ∧
      (∃ events, (exchange.setUp setup).2.resources.journal =
          events ++ exchange.resources.journal ∧
        ∀ engine, (attachments events).count engine ≤ 1 ∧
          (retirements events).count engine = (attachments events).count engine) ∧
      ∀ role, outboundRole? setup.mode = some role →
        objection? exchange.table setup.callId = none →
          (openLegs role exchange.table.size setup exchange.resources).1 = .error fault := by
  obtain ⟨table_eq, counters_eq, unwound, _⟩ := setUp_error sound (Prod.ext failed rfl)
  obtain ⟨events, journal, settled⟩ := unwound.grown.history
  refine ⟨table_eq, counters_eq, unwound.ids, unwound.ports, unwound.fabric_eq,
    unwound.grown.engines, ⟨events, journal, fun engine => ⟨?_, ?_⟩⟩, fun role served welcome => ?_⟩
  · exact List.nodup_iff_count.mp settled.nodup engine
  · exact settled.retirements_count engine
  · exact openLegs_of_setUp_error sound failed served welcome

/-- An exchange with its control session, on a network in which somebody else has bound the second
of its media ports. -/
def withSecondPortTaken : Exchange where
  table :=
    ⟨[⟨{ Session.fresh ⟨0⟩ .control .inbound 0 with stage := .setup },
      Descriptor.opened none⟩], 3⟩
  resources :=
    Resources.ofSettings {} EngineSupply.unfailing
      ⟨[(⟨Ipv4.loopback, 37001⟩, ⟨.outside, [], false⟩)], Policy.loopback⟩ Ipv4.loopback
  counters := Counters.zero

/-- Here the first leg is opened and attached to an engine before the second one fails, and then
it is taken back. -/
theorem setUp_atomic_second_port_taken :
    withSecondPortTaken.resources.Sound ∧
      (withSecondPortTaken.setUp (.toTerminal CallId.placeholder ⟨Ipv4.loopback, 5000⟩)).1 =
        .error (.socket (.bind ⟨Ipv4.loopback, 37001⟩) .addressInUse) ∧
      attachments (withSecondPortTaken.setUp
        (.toTerminal CallId.placeholder ⟨Ipv4.loopback, 5000⟩)).2.resources.journal = [0] ∧
      (withSecondPortTaken.setUp (.toTerminal CallId.placeholder ⟨Ipv4.loopback, 5000⟩)).2.table =
        withSecondPortTaken.table := by
  have sound : withSecondPortTaken.resources.Sound :=
    ⟨SessionIds.sound_ofSize (by decide), MediaPorts.sound_ofRange (by decide)⟩
  exact ⟨sound, rfl, rfl, (setUp_atomic withSecondPortTaken sound _ _ rfl).1⟩

end Exchange

end FaxRelay
