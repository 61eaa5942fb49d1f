import FaxRelay.Proofs.Admission
import FaxRelay.Proofs.Attained
import FaxRelay.Proofs.Engine.Story

/-!
# What moments do to engines

For the engines it does not matter in which slot a session stands, nor how far
its bridge has come. Leaving this out, a table is a roster of sessions
(`Table.roster`), in whatever order.

Few things happen to a roster and the engines that its sessions have: an engine
is made for a new leg, or refused; two legs are joined by a bridge; a bridge
moves a frame, or is stopped; an engine is handed a datagram, or retired
(`Turn`). Every moment is made of these (`Exchange.Moment.turns`), so what is to
hold of engines at all times needs to be shown for turns only.
-/

set_option autoImplicit false

namespace FaxRelay

open FaxRelay.Media FaxRelay.Net FaxRelay.Pool FaxRelay.Signal

/-! ## Rosters -/

/-- A session without its place in the table and without the progress of its bridge. -/
def Session.aspect (session : Session) : Session :=
  { session with
    index := 0
    bridge := session.bridge.map fun bridge => { bridge with progress := Progress.fresh } }

theorem Session.aspect_heardFrom (session : Session) (sender : Endpoint) :
    (session.heardFrom sender).aspect = session.aspect.heardFrom sender := by
  cases session with
  | mk id ownsId callId index role => cases role <;> rfl

/-- The sessions of a table. -/
def Table.roster (table : Table) : List Session := table.slots.map fun slot => slot.session.aspect

namespace Table

variable {table : Table} {index : Nat}

theorem mem_roster {slot : Slot} (found : table.slots[index]? = some slot) :
    slot.session.aspect ∈ table.roster :=
  List.mem_map.mpr ⟨slot, List.mem_of_getElem? found, rfl⟩

/-- Changing a slot in a way that does not show in the roster. -/
theorem roster_changeSlot {change : Slot → Slot}
    (keeps : ∀ slot, (change slot).session.aspect = slot.session.aspect) :
    (table.changeSlot index change).roster = table.roster := by
  apply List.ext_getElem?
  intro place
  rw [roster, roster, List.getElem?_map, List.getElem?_map, changeSlot, List.getElem?_modify]
  by_cases here : index = place
  · subst here
    cases table.slots[index]? <;> simp [keeps]
  · simp [here]

/-- The session of a slot and those of all other slots, also after the slot was changed. -/
theorem roster_perm {slot : Slot} (found : table.slots[index]? = some slot) :
    ∃ others, table.roster.Perm (slot.session.aspect :: others) ∧
      ∀ change : Slot → Slot,
        (table.changeSlot index change).roster.Perm ((change slot).session.aspect :: others) := by
  obtain ⟨inside, rfl⟩ := List.getElem?_eq_some_iff.mp found
  have split : table.slots =
      table.slots.take index ++ table.slots[index] :: table.slots.drop (index + 1) := by simp
  refine ⟨(table.slots.take index ++ table.slots.drop (index + 1)).map
    fun slot => slot.session.aspect, ?_, fun change => ?_⟩
  · rw [roster]
    conv => lhs; rw [split]
    exact List.perm_middle.map _
  · rw [roster, changeSlot, List.modify_eq_take_cons_drop inside]
    exact List.perm_middle.map _

/-- Exchanging two slots does not show in the roster. -/
theorem roster_moveUp (table : Table) (target source : Nat) :
    (table.moveUp target source).roster.Perm table.roster := by
  rw [moveUp]
  split
  · exact .refl _
  split
  · next gone kept foundGone foundKept =>
    obtain ⟨insideGone, rfl⟩ := List.getElem?_eq_some_iff.mp foundGone
    obtain ⟨insideKept, rfl⟩ := List.getElem?_eq_some_iff.mp foundKept
    have exchanged := (List.set_set_perm insideGone insideKept).map
      fun slot => slot.session.aspect
    simp only [List.map_set] at exchanged
    simp only [roster, List.map_set]
    exact exchanged
  · exact .refl _

end Table

/-! ## Turns -/

namespace Resources

/-- Nothing that happened between two states concerns an engine. -/
structure Aside (before after : Resources) : Prop where
  engines_eq : after.engines = before.engines
  settings_eq : after.engineSettings = before.engineSettings
  history : ∃ events, after.journal = events ++ before.journal ∧
    ∀ event ∈ events, event.engine? = none

namespace Aside

variable {first second third : Resources}

theorem of_eq (engines : second.engines = first.engines)
    (settings : second.engineSettings = first.engineSettings)
    (journal : second.journal = first.journal) : first.Aside second :=
  ⟨engines, settings, [], journal, fun _ member => by cases member⟩

theorem refl (resources : Resources) : resources.Aside resources := of_eq rfl rfl rfl

theorem of_event {event : Event} (nobody : event.engine? = none)
    (engines : second.engines = first.engines)
    (settings : second.engineSettings = first.engineSettings)
    (journal : second.journal = event :: first.journal) : first.Aside second := by
  refine ⟨engines, settings, [event], journal, fun other member => ?_⟩
  cases List.mem_singleton.mp member
  exact nobody

theorem trans (earlier : first.Aside second) (later : second.Aside third) :
    first.Aside third := by
  obtain ⟨before, journal, nobody⟩ := earlier.history
  obtain ⟨after, journal', nobody'⟩ := later.history
  refine ⟨later.engines_eq.trans earlier.engines_eq, later.settings_eq.trans earlier.settings_eq,
    after ++ before, ?_, fun event member => ?_⟩
  · rw [journal', journal, List.append_assoc]
  · rcases List.mem_append.mp member with member | member
    · exact nobody' event member
    · exact nobody event member

end Aside

variable (resources : Resources)

theorem aside_releasePort (port : UInt16) : resources.Aside (resources.releasePort port) := by
  rw [releasePort]
  split
  · exact .of_eq rfl rfl rfl
  · exact .of_event rfl rfl rfl rfl

theorem aside_releaseId (id : SessionId) : resources.Aside (resources.releaseId id) := by
  rw [releaseId]
  split
  · exact .of_eq rfl rfl rfl
  · exact .of_event rfl rfl rfl rfl

theorem aside_elim {α : Type} (held : Option α) {give : α → Resources}
    (aside : ∀ value, resources.Aside (give value)) :
    resources.Aside (held.elim resources give) := by
  cases held with
  | none => exact .refl resources
  | some value => exact aside value

theorem aside_transmit (transmission : Transmission) :
    resources.Aside (resources.transmit transmission).2 := by
  rw [transmit]
  split
  · exact .of_event rfl rfl rfl rfl
  · exact .of_event rfl rfl rfl rfl

/-- The resources after an engine was made that refused its leg. -/
def refused (resources : Resources) (leg : Leg) : Resources :=
  { resources with
    makeAttempts := resources.makeAttempts + 1
    attachAttempts := resources.attachAttempts + 1
    engines := resources.engines ++ [Engine.blank resources.engineSettings]
    journal := .attached resources.engines.length leg false ::
      .made resources.engines.length :: resources.journal }

end Resources

namespace Session

/-- What the engine of a session learned about it is true of it. -/
structure Fits (session : Session) (leg : Leg) : Prop where
  id_eq : session.id = leg.id
  callId_eq : session.callId = some leg.callId
  role_eq : session.role = leg.role
  direction_eq : session.direction = leg.direction
  localAddress_eq : session.localAddress = some leg.localAddress
  socket_eq : session.socket = some leg.localAddress

/-- After its engine was retired, destroying a session concerns no engine. -/
theorem aside_destroy {session : Session} (isOpen : session.stage ≠ .complete)
    (resources : Resources) :
    (session.engine.elim resources resources.retireEngine).Aside
      (session.destroy resources).2 := by
  simp only [destroy, if_neg isOpen]
  generalize session.engine.elim resources resources.retireEngine = freed
  have closed : freed.Aside (session.socket.elim freed freed.closeSocket) :=
    freed.aside_elim session.socket fun _ => .of_eq rfl rfl rfl
  generalize session.socket.elim freed freed.closeSocket = unbound at *
  have returned := unbound.aside_elim session.port unbound.aside_releasePort
  generalize session.port.elim unbound unbound.releasePort = last at *
  split
  · exact (closed.trans returned).trans (last.aside_releaseId session.id)
  · exact closed.trans returned

end Session

/-- What can happen at once to sessions and the engines that they have. -/
inductive Turn : List Session × Resources → List Session × Resources → Prop where
  /-- Something happens that concerns no engine. -/
  | aside (sessions : List Session) {before after : Resources} (aside : before.Aside after) :
      Turn (sessions, before) (sessions, after)
  /-- The sessions are taken in another order. -/
  | reordered {sessions later : List Session} (same : sessions.Perm later)
      (resources : Resources) : Turn (sessions, resources) (later, resources)
  /-- A session without an engine changes. -/
  | changed {session later : Session} (without : session.engine = none)
      (still : later.engine = none) (fewer : later.bridge = none ∨ later.bridge = session.bridge)
      (sessions : List Session) (resources : Resources) :
      Turn (session :: sessions, resources) (later :: sessions, resources)
  /-- A session without an engine goes. -/
  | dropped {session : Session} (without : session.engine = none) (sessions : List Session)
      (resources : Resources) : Turn (session :: sessions, resources) (sessions, resources)
  /-- An engine is made and attached to a new leg. -/
  | equipped {session : Session} {leg : Leg} (fits : session.Fits leg)
      (aimed : session.remote = leg.remote) (unbridged : session.bridge = none)
      (sessions : List Session) {resources : Resources}
      (sized : resources.engineSettings.queueOverflows = false)
      (has : session.engine = some resources.engines.length) :
      Turn (sessions, resources) (session :: sessions, resources.equipped leg)
  /-- An engine is made, but refuses its leg. -/
  | refused (sessions : List Session) (resources : Resources) (leg : Leg)
      (sized : resources.engineSettings.queueOverflows = false) :
      Turn (sessions, resources) (sessions, resources.refused leg)
  /-- The two legs of a call are joined by a bridge between their engines. -/
  | joined {inbound outbound : Session} {engine : Nat} (hasInbound : inbound.engine = some engine)
      (hasOutbound : outbound.engine = some (engine + 1)) (incoming : inbound.direction = .inbound)
      (outgoing : outbound.direction = .outbound) (same : outbound.callId = inbound.callId)
      (alone : inbound.peer = none ∧ outbound.peer = none) (sessions : List Session)
      (resources : Resources) :
      Turn (inbound :: outbound :: sessions, resources)
        (inbound.bridged outbound.id (some ⟨engine, engine + 1, Progress.fresh⟩) ::
          outbound.bridged inbound.id none :: sessions, resources)
  /-- An engine is handed a datagram. -/
  | heard {session : Session} {engine : Nat} (has : session.engine = some engine)
      (sessions : List Session) (resources : Resources) (sender : Endpoint) (payload : Payload) :
      Turn (session :: sessions, resources)
        (session.heardFrom sender :: sessions,
          (resources.aimEngine engine (session.heardFrom sender).remote).hear engine payload)
  /-- A bridge that a session keeps moves a frame away from one side. -/
  | forwarded {sessions : List Session} {keeper : Session} {bridge : Bridge}
      (member : keeper ∈ sessions) (kept : keeper.bridge = some bridge) (source : Direction)
      (progress : Progress) (resources : Resources) :
      Turn (sessions, resources)
        (sessions, (forward (Resources.sides bridge.inbound bridge.outbound) source progress
          resources).2)
  /-- The bridge that a session keeps is stopped. -/
  | stopped (session : Session) (sessions : List Session) (resources : Resources) :
      Turn (session :: sessions, resources) (session.stopBridge :: sessions, resources)
  /-- The engine of a session is retired, whose leg was never joined, or which no bridge uses. -/
  | retired {session later : Session} {engine : Nat} {sessions : List Session}
      (has : session.engine = some engine) (still : later.engine = none)
      (unbridged : later.bridge = none)
      (unused : session.peer = none ∨ ∀ keeper ∈ session :: sessions, ∀ bridge,
        keeper.bridge = some bridge → ¬ bridge.Uses engine) (resources : Resources) :
      Turn (session :: sessions, resources) (later :: sessions, resources.retireEngine engine)

/-- What can happen to sessions and engines in a number of turns. -/
abbrev Turns : List Session × Resources → List Session × Resources → Prop :=
  Relation.ReflTransGen Turn

namespace Turns

variable {sessions : List Session} {before after : Resources}

theorem of_aside (aside : before.Aside after) : Turns (sessions, before) (sessions, after) :=
  .single (.aside sessions aside)

/-- Sessions without an engine may go one after the other. -/
theorem drop {gone : List Session} (without : ∀ session ∈ gone, session.engine = none)
    (sessions : List Session) (resources : Resources) :
    Turns (gone ++ sessions, resources) (sessions, resources) := by
  induction gone with
  | nil => exact .refl
  | cons session gone ih =>
    exact .head (.dropped (without session List.mem_cons_self) _ resources)
      (ih fun other member => without other (List.mem_cons_of_mem _ member))

/-- What happens to one session in a list happens wherever it stands. -/
theorem through {list later others : List Session} {session session' : Session}
    (first : list.Perm (session :: others)) (last : later.Perm (session' :: others))
    (turns : Turns (session :: others, before) (session' :: others, after)) :
    Turns (list, before) (later, after) :=
  .head (.reordered first before) (turns.tail (.reordered last.symm after))

end Turns

/-! ## Setting up a call -/

namespace Session

variable {session : Session} {sessions : List Session} {resources : Resources}

/-- Destroying a session: its engine is retired, if no bridge uses it, and the rest concerns no
engine. -/
theorem turns_destroy (isOpen : session.stage ≠ .complete)
    (unused : ∀ engine, session.engine = some engine → session.peer = none ∨
      ∀ keeper ∈ session.aspect :: sessions, ∀ bridge, keeper.bridge = some bridge →
        ¬ bridge.Uses engine) :
    Turns (session.aspect :: sessions, resources)
      (session.ended.aspect :: sessions, (session.destroy resources).2) := by
  have rest := aside_destroy isOpen resources
  have bare : session.ended.aspect.bridge = none := rfl
  cases has : session.engine with
  | none =>
    rw [has] at rest
    have without : session.aspect.engine = none := has
    exact .head (.changed without rfl (.inl bare) sessions resources) (Turns.of_aside rest)
  | some engine =>
    rw [has] at rest
    have held : session.aspect.engine = some engine := has
    exact .head (.retired held rfl bare (unused engine has) resources) (Turns.of_aside rest)

/-- Handing a datagram to a session hands it to its engine, if there is one. -/
theorem turns_hear (session : Session) (size : Nat) (sender : Endpoint) (payload : Payload)
    (sessions : List Session) (resources : Resources) :
    Turns (session.aspect :: sessions, resources)
      ((session.hear size sender payload resources).1.aspect :: sessions,
        (session.hear size sender payload resources).2) := by
  rw [hear]
  dsimp only
  rw [aspect_heardFrom, engine_heardFrom]
  cases has : session.engine with
  | none =>
    have without : session.aspect.engine = none := has
    exact .single (.changed without ((session.aspect.engine_heardFrom sender).trans without)
      (.inr (session.aspect.bridge_heardFrom sender)) sessions resources)
  | some engine =>
    have held : session.aspect.engine = some engine := has
    have heard := Turn.heard held sessions resources sender (payload.take size)
    rw [← aspect_heardFrom] at heard ⊢
    exact .single heard

/-- Giving a session its engine: it has the engine that was made next, or is as it was. -/
theorem turns_equip (session : Session) {callId : CallId} {address : Endpoint}
    (named : session.callId = some callId) (here : session.localAddress = some address)
    (bound : session.socket = some address) (unbridged : session.bridge = none)
    (sessions : List Session) (resources : Resources) :
    (∃ after, session.equip callId address resources =
        (.ok (), { session with engine := some resources.engines.length, stage := .setup }, after) ∧
      after.engines.length = resources.engines.length + 1 ∧
      Turns (sessions, resources)
        (aspect { session with engine := some resources.engines.length, stage := .setup } ::
          sessions, after)) ∨
    (∃ fault after, session.equip callId address resources = (.error fault, session, after) ∧
      Turns (sessions, resources) (sessions, after)) := by
  rw [equip]
  rcases resources.makeEngine_cases with ⟨fault, made⟩ | ⟨sized, made⟩
  · rw [made]
    exact .inr ⟨_, _, rfl, Turns.of_aside (.of_eq rfl rfl rfl)⟩
  rw [made]
  dsimp only
  rcases Resources.attachEngine_cases _ resources.engines.length (session.leg callId address) with
    ⟨fault, attached⟩ | attached
  · rw [attached]
    exact .inr ⟨_, _, rfl,
      .single (.refused sessions resources (session.leg callId address) sized)⟩
  · rw [attached]
    refine .inl ⟨_, rfl, by simp, .single (.equipped ?_ rfl ?_ sessions sized rfl)⟩
    · exact ⟨rfl, named, rfl, rfl, here, bound⟩
    · simp [aspect, unbridged]

/-- Opening a leg: it has the engine that was made next, or none. -/
theorem turns_openMedia (id : SessionId) (role : Role) (direction : Direction) (index : Nat)
    (callId : CallId) (remote : Option Endpoint) (sessions : List Session)
    (resources : Resources) :
    (∃ port after, (Session.fresh id role direction index).openMedia callId remote resources =
        (.ok (), Session.opened id role direction index callId remote ⟨resources.mediaIp, port⟩
          resources.engines.length, after) ∧
      after.engines.length = resources.engines.length + 1 ∧
      Turns (sessions, resources)
        ((Session.opened id role direction index callId remote ⟨resources.mediaIp, port⟩
          resources.engines.length).aspect :: sessions, after)) ∨
    (∃ fault session after, (Session.fresh id role direction index).openMedia callId remote
        resources = (.error fault, session, after) ∧
      session.engine = none ∧ session.stage ≠ .complete ∧
      Turns (sessions, resources) (sessions, after)) := by
  rw [openMedia]
  split
  · exact .inr ⟨_, _, _, rfl, rfl, Stage.noConfusion, .refl⟩
  split
  · exact .inr ⟨_, _, _, rfl, rfl, Stage.noConfusion, .refl⟩
  dsimp only
  split
  · exact .inr ⟨_, _, _, rfl, rfl, Stage.noConfusion, .refl⟩
  next port ports issued =>
  rcases bindSocket_cases { Session.fresh id role direction index with
      callId := some callId, remote := remote, port := some port } rfl
    ⟨resources.mediaIp, port⟩ { resources with ports := ports } with
    ⟨fault, bound⟩ | ⟨fabric, opened, bound⟩
  · rw [bound]
    exact .inr ⟨_, _, _, rfl, rfl, Stage.noConfusion, Turns.of_aside (.of_eq rfl rfl rfl)⟩
  rw [bound]
  dsimp only
  have drawn : resources.Aside { resources with ports := ports, fabric := fabric } :=
    .of_eq rfl rfl rfl
  rcases turns_equip { Session.fresh id role direction index with
      callId := some callId, remote := remote, port := some port,
      socket := some ⟨resources.mediaIp, port⟩,
      localAddress := some ⟨resources.mediaIp, port⟩ } rfl rfl rfl rfl sessions
      { resources with ports := ports, fabric := fabric } with
    ⟨after, equipped, count, turns⟩ | ⟨fault, after, refused, turns⟩
  · rw [equipped]
    exact .inl ⟨port, after, rfl, count, (Turns.of_aside drawn).trans turns⟩
  · rw [refused]
    exact .inr ⟨_, _, _, rfl, rfl, Stage.noConfusion, (Turns.of_aside drawn).trans turns⟩

end Session

namespace Exchange

/-- A leg that is opened has the engine that was made next; one that could not be opened leaves the
sessions as they were. -/
theorem turns_openLeg (role : Role) (index : Nat) (direction : Direction) (callId : CallId)
    (remote : Option Endpoint) (sessions : List Session) (resources : Resources) :
    (∃ id port after, openLeg role index direction callId remote resources =
        (.ok (Session.opened id role direction index callId remote ⟨resources.mediaIp, port⟩
          resources.engines.length), after) ∧
      after.engines.length = resources.engines.length + 1 ∧
      Turns (sessions, resources)
        ((Session.opened id role direction index callId remote ⟨resources.mediaIp, port⟩
          resources.engines.length).aspect :: sessions, after)) ∨
    (∃ fault after, openLeg role index direction callId remote resources = (.error fault, after) ∧
      Turns (sessions, resources) (sessions, after)) := by
  rw [openLeg]
  split
  · exact .inr ⟨_, _, rfl, .refl⟩
  next session drawn created =>
  obtain ⟨_, id, ids, _, rfl, rfl⟩ := Session.create_eq_ok created
  have numbered : resources.Aside { resources with ids := ids } := .of_eq rfl rfl rfl
  rcases Session.turns_openMedia id role direction index callId remote sessions
      { resources with ids := ids } with
    ⟨port, after, opened, count, turns⟩ | ⟨fault, session, after, failed, without, isOpen, turns⟩
  · rw [opened]
    exact .inl ⟨id, port, after, rfl, count, (Turns.of_aside numbered).trans turns⟩
  · rw [failed]
    have ended := Session.aside_destroy isOpen after
    rw [without] at ended
    exact .inr ⟨_, _, rfl, ((Turns.of_aside numbered).trans turns).trans (Turns.of_aside ended)⟩

/-- Two legs that are opened are joined; if that does not come about, the sessions are as they
were. -/
theorem turns_openLegs {role : Role} (notControl : role ≠ .control) (base : Nat) (setup : Setup)
    (sessions : List Session) (resources : Resources) :
    (∃ inbound outbound after, openLegs role base setup resources =
        (.ok (inbound, outbound), after) ∧
      inbound.isControl = false ∧ outbound.isControl = false ∧ inbound.localAddress.isSome = true ∧
      Turns (sessions, resources) (inbound.aspect :: outbound.aspect :: sessions, after)) ∨
    (∃ fault after, openLegs role base setup resources = (.error fault, after) ∧
      Turns (sessions, resources) (sessions, after)) := by
  rw [openLegs]
  rcases turns_openLeg .gateway base .inbound setup.callId (some setup.source) sessions
      resources with
    ⟨id, port, middle, opened, count, turns⟩ | ⟨fault, after, failed, turns⟩
  case inr =>
    rw [failed]
    exact .inr ⟨_, _, rfl, turns⟩
  rw [opened]
  dsimp only
  generalize first_eq : Session.opened id .gateway .inbound base setup.callId (some setup.source)
    ⟨resources.mediaIp, port⟩ resources.engines.length = first at turns ⊢
  rcases turns_openLeg role (base + 1) .outbound setup.callId setup.destination
      (first.aspect :: sessions) middle with
    ⟨id', port', after, opened', count', turns'⟩ | ⟨fault, after, failed, turns'⟩
  · rw [opened']
    dsimp only
    rw [← first_eq, join_opened notControl]
    refine .inl ⟨_, _, _, rfl, rfl, decide_eq_false notControl, rfl, ?_⟩
    rw [← first_eq] at turns turns'
    rw [count] at turns' ⊢
    have joined := @Turn.joined
      (Session.opened id .gateway .inbound base setup.callId (some setup.source)
        ⟨resources.mediaIp, port⟩ resources.engines.length).aspect
      (Session.opened id' role .outbound (base + 1) setup.callId setup.destination
        ⟨middle.mediaIp, port'⟩ (resources.engines.length + 1)).aspect
      resources.engines.length rfl rfl rfl rfl rfl ⟨rfl, rfl⟩ sessions after
    exact ((turns.trans turns').tail (.reordered (.swap _ _ _) after)).tail joined
  · rw [failed]
    refine .inr ⟨_, _, rfl, (turns.trans turns').trans ?_⟩
    rw [← first_eq]
    refine (Session.turns_destroy Stage.noConfusion fun _ _ => .inl rfl).tail ?_
    exact .dropped rfl _ _

/-- A setup adds two joined legs to the sessions, or leaves them as they were. -/
theorem turns_setUp (setup : Setup) (exchange : Exchange) :
    Turns (exchange.table.roster, exchange.resources)
      ((exchange.setUp setup).2.table.roster, (exchange.setUp setup).2.resources) := by
  rw [setUp]
  split
  · exact .refl
  next role served =>
  have notControl := outboundRole?_ne_control served
  split
  · exact .refl
  next welcome =>
  obtain ⟨control, room, _⟩ := objection?_eq_none welcome
  rcases turns_openLegs notControl exchange.table.size setup exchange.table.roster
      exchange.resources with
    ⟨inbound, outbound, after, opened, inboundMedia, outboundMedia, bound, turns⟩ |
    ⟨fault, after, failed, turns⟩
  case inr =>
    rw [failed]
    exact turns
  rw [opened]
  obtain ⟨address, here⟩ := Option.isSome_iff_exists.mp bound
  simp only [here, enter_eq_ok control room inboundMedia outboundMedia]
  refine turns.tail (.reordered ?_ after)
  simp only [Table.roster, Table.append, List.map_append, List.append_assoc]
  exact @List.perm_append_comm _ [inbound.aspect, outbound.aspect] _

/-! ## Moments -/

/-- What happens to the session in a slot happens to the roster. -/
theorem turns_changeSlot {exchange : Exchange} {index : Nat} {slot : Slot}
    (found : exchange.table.slots[index]? = some slot) (change : Slot → Slot) {after : Resources}
    (turns : ∀ others, Turns (slot.session.aspect :: others, exchange.resources)
      ((change slot).session.aspect :: others, after)) :
    Turns (exchange.table.roster, exchange.resources)
      ((exchange.table.changeSlot index change).roster, after) := by
  obtain ⟨others, first, last⟩ := Table.roster_perm found
  exact Turns.through first (last change) (turns others)

theorem turns_setSession {exchange : Exchange} {index : Nat} {session later : Session}
    (found : exchange.table.session? index = some session) {after : Resources}
    (turns : ∀ others, Turns (session.aspect :: others, exchange.resources)
      (later.aspect :: others, after)) :
    Turns (exchange.table.roster, exchange.resources)
      ((exchange.table.setSession index later).roster, after) := by
  obtain ⟨slot, place, rfl⟩ := Table.slot_of_session? found
  exact turns_changeSlot place _ turns

theorem aside_reply (message : Message) (exchange : Exchange) :
    exchange.resources.Aside (exchange.reply message).resources := by
  rw [reply]
  split
  case h_2 => exact .refl _
  next payload control _ _ =>
  dsimp only
  rw [Session.send]
  split
  · exact .refl _
  · exact .refl _
  · next address remote _ _ =>
    have sent := exchange.resources.aside_transmit ⟨address, remote, payload⟩
    split
    · next same => rwa [same] at sent
    · next same => rwa [same] at sent

theorem table_reply (message : Message) (exchange : Exchange) :
    (exchange.reply message).table = exchange.table := by
  rw [reply]
  split <;> rfl

/-- Taking note of a datagram of signaling touches no engine. -/
theorem turns_noted {exchange : Exchange} {control : Session}
    (first : exchange.table.session? 0 = some control) (signaling : control.IsSignaling)
    (sender : Endpoint) (payload : Payload) :
    Turns (exchange.table.roster, exchange.resources)
      ((exchange.table.changeSession 0 fun session => session.heardFrom sender).roster,
        exchange.resources.note (.signaled sender payload)) := by
  obtain ⟨slot, found, rfl⟩ := Table.slot_of_session? first
  have without : slot.session.aspect.engine = none := signaling.no_engine
  have still : (slot.session.heardFrom sender).aspect.engine = none :=
    (slot.session.engine_heardFrom sender).trans without
  have bare : (slot.session.heardFrom sender).aspect.bridge = slot.session.aspect.bridge := by
    rw [Session.aspect_heardFrom, Session.bridge_heardFrom]
  have note : exchange.resources.Aside (exchange.resources.note (.signaled sender payload)) :=
    .of_event rfl rfl rfl rfl
  refine turns_changeSlot found _ fun others => .trans ?_ (Turns.of_aside note)
  exact .single (.changed without still (.inr bare) others exchange.resources)

/-- Closing a slot destroys its session, unless that is done already. -/
theorem turns_closeAt {exchange : Exchange} {index : Nat}
    (unused : exchange.table.Unbridged index) :
    Turns (exchange.table.roster, exchange.resources)
      ((exchange.closeAt index).table.roster, (exchange.closeAt index).resources) := by
  rw [closeAt]
  cases found : exchange.table.session? index with
  | none =>
    simp only [Table.closeSlot, found]
    exact .refl
  | some session =>
    obtain ⟨slot, place, rfl⟩ := Table.slot_of_session? found
    simp only [Table.closeSlot, found]
    by_cases done : slot.session.stage = .complete
    · have gone : slot.session.destroy exchange.resources = (slot.session, exchange.resources) :=
        if_pos done
      rw [gone]
      exact turns_changeSlot place _ fun others => .refl
    rw [Session.destroy_eq done]
    obtain ⟨others, first, last⟩ := Table.roster_perm place
    refine Turns.through first (last _) (Session.turns_destroy done fun engine has => ?_)
    refine .inr fun keeper member bridge kept uses => ?_
    obtain ⟨other, inTable, rfl⟩ := List.mem_map.mp (first.mem_iff.mpr member)
    obtain ⟨spot, foundOther⟩ := List.getElem?_of_mem inTable
    obtain ⟨kept', keeps, rfl⟩ := Option.map_eq_some_iff.mp kept
    exact unused slot.session engine found has spot other.session kept'
      (Table.session?_of_slot foundOther) keeps uses

/-- Cutting off slots with nothing in them drops sessions without an engine. -/
theorem turns_cut {exchange : Exchange} {count : Nat}
    (idle : ∀ slot ∈ exchange.table.slots.drop count, slot.session.isEngaged = false) :
    Turns (exchange.table.roster, exchange.resources)
      (Table.roster { exchange.table with slots := exchange.table.slots.take count },
        exchange.resources) := by
  have split : exchange.table.roster.Perm
      ((exchange.table.slots.drop count).map (fun slot => slot.session.aspect) ++
        (exchange.table.slots.take count).map fun slot => slot.session.aspect) := by
    rw [← List.map_append, Table.roster]
    refine List.Perm.map _ ?_
    conv => lhs; rw [← List.take_append_drop count exchange.table.slots]
    exact List.perm_append_comm
  refine .head (.reordered split exchange.resources) (Turns.drop (fun session member => ?_) _ _)
  obtain ⟨slot, dropped, rfl⟩ := List.mem_map.mp member
  exact (Session.isEngaged_eq_false.mp (idle slot dropped)).1

/-- **Every moment is made of turns.** -/
theorem Moment.turns {size : Nat} {before after : Exchange} (moment : Moment size before after) :
    Turns (before.table.roster, before.resources) (after.table.roster, after.resources) := by
  cases moment with
  | network moved => exact Turns.of_aside (.of_eq rfl rfl rfl)
  | settled address => exact Turns.of_aside (.of_eq rfl rfl rfl)
  | drained address => exact Turns.of_aside (.of_eq rfl rfl rfl)
  | marked index mark =>
    have same : (before.table.changeSlot index fun slot =>
        { slot with descriptor := { slot.descriptor with readable := mark } }).roster =
        before.table.roster := Table.roster_changeSlot fun _ => rfl
    dsimp only
    rw [same]
  | counted counters => exact .refl
  | noted first signaling sender payload => exact turns_noted first signaling sender payload
  | replied message =>
    rw [table_reply]
    exact Turns.of_aside (aside_reply message before)
  | setUp setup => exact turns_setUp setup before
  | @heard index session address datagram rest found bound waits =>
    refine turns_setSession found fun others => ?_
    have read : before.resources.Aside
        { before.resources with
          fabric := before.resources.fabric.update address fun socket =>
            { socket with queue := rest } } := .of_eq rfl rfl rfl
    exact (Turns.of_aside read).trans (session.turns_hear size datagram.1 datagram.2 others _)
  | @forwarded index session bridge found kept runs source =>
    have kept' : session.aspect.bridge = some { bridge with progress := Progress.fresh } := by
      simp [Session.aspect, kept]
    refine turns_setSession found fun others => ?_
    have still : Session.aspect { session with
        bridge := some { bridge with
          progress := (forward (Resources.sides bridge.inbound bridge.outbound) source
            bridge.progress before.resources).1 } } = session.aspect := by
      simp [Session.aspect, kept]
    have member : session.aspect ∈ session.aspect :: others := List.mem_cons_self
    rw [still]
    exact .single (.forwarded member kept' source bridge.progress before.resources)
  | failed index =>
    have same : (before.table.changeSession index Session.failBridge).roster =
        before.table.roster := by
      refine Table.roster_changeSlot fun slot => ?_
      cases kept : slot.session.bridge <;> simp [Session.aspect, Session.failBridge, kept]
    dsimp only [failBridge]
    rw [same]
  | stopped index =>
    cases found : before.table.session? index with
    | none =>
      rw [Table.changeSession_eq_self fun session place => by cases found.symm.trans place]
    | some session =>
      obtain ⟨slot, place, rfl⟩ := Table.slot_of_session? found
      exact turns_changeSlot place _ fun others => .single (.stopped _ others before.resources)
  | closed unused => exact turns_closeAt unused
  | moved target source =>
    exact .single (.reordered (Table.roster_moveUp before.table target source).symm _)
  | cut idle => exact turns_cut idle

end Exchange

end FaxRelay
