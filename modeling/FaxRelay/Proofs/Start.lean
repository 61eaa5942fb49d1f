import FaxRelay.Gateway
import FaxRelay.Proofs.Exchange
import FaxRelay.Proofs.ValidSettings

/-!
# Starting a gateway

Valid settings give supplies whose ranges fit their words, of which nothing is
taken. The control session draws a number and a socket, and is the only entry of
the ledger with which a gateway begins.
-/

set_option autoImplicit false

namespace FaxRelay

open FaxRelay.Net FaxRelay.Pool FaxRelay.Signal

/-! ## Supplies of which nothing is taken -/

/-- What valid settings satisfy: there is room for the control session and two legs, there are
numbers and ports, whose ranges fit their words, and a message fits the buffer. -/
theorem Settings.bounds_of_validate {settings : Settings} (valid : settings.validate = .ok ()) :
    3 ≤ settings.maxSessions.toNat ∧ settings.idPoolSize ≠ 0 ∧
      settings.idPoolSize.toNat * 2 < UInt32.size ∧ settings.portCount ≠ 0 ∧
      settings.portBase.toNat + settings.portCount.toNat ≤ UInt16.size ∧
      maxMessageLength ≤ settings.bufferSize.toNat := by
  obtain ⟨room, someIds, idsFit, somePorts, portsFit, _, buffer, _⟩ :=
    validate_eq_ok_iff.mp valid
  exact ⟨UInt64.le_iff_toNat_le.mp room, someIds, idsFit, somePorts, portsFit, buffer⟩

/-- Under valid settings the ledger of no sessions is right at the start. -/
theorem Ledger.start {settings : Settings} (valid : settings.validate = .ok ())
    (supply : EngineSupply) (fabric : Fabric) (mediaIp : Ipv4) :
    Ledger [] (Resources.ofSettings settings supply fabric mediaIp) := by
  obtain ⟨_, _, idsFit, _, portsFit, _⟩ := Settings.bounds_of_validate valid
  refine ⟨⟨SessionIds.sound_ofSize idsFit, MediaPorts.sound_ofRange portsFit⟩, fun id => ?_,
    List.Pairwise.nil, fun port => ?_, List.Pairwise.nil, Settled.nil (Nat.le_refl _),
    List.Pairwise.nil⟩
  · rw [Resources.ofSettings, SessionIds.isAllocated_ofSize]
    simp
  · rw [Resources.ofSettings, MediaPorts.isAllocated_ofRange]
    simp

/-! ## The control session -/

/-- Opening the control session opens a socket where the network places it. -/
theorem Session.openControl_eq_ok {id : SessionId} {address : Endpoint}
    {resources after : Resources} {session : Session}
    (opened : (Session.fresh id .control .inbound 0).openControl address resources =
      (.ok (), session, after)) :
    ∃ placed fabric, resources.fabric.place address = .ok placed ∧
      resources.fabric.bind .relay placed = .ok fabric ∧
      session =
        { Session.fresh id .control .inbound 0 with
          socket := some placed
          localAddress := some placed
          stage := .setup } ∧
      after = { resources with fabric := fabric } := by
  rw [Session.openControl, if_neg (by simp [Session.fresh])] at opened
  cases found : resources.fabric.place address with
  | error cause =>
    rw [found] at opened
    cases opened
  | ok placed =>
    rw [found] at opened
    dsimp only at opened
    rcases Session.bindSocket_cases (Session.fresh id .control .inbound 0) rfl placed resources with
      ⟨fault, bound⟩ | ⟨fabric, free, bound⟩
    · rw [bound] at opened
      cases opened
    · rw [bound] at opened
      cases opened
      exact ⟨placed, fabric, rfl, free, rfl, rfl⟩

/-- The control session that was opened holds its number and its socket, and signals. -/
theorem Session.Holds.openControl {id : SessionId} {address : Endpoint}
    {before resources after : Resources} {session : Session}
    (holds : (Session.fresh id .control .inbound 0).Holds before resources)
    (opened : (Session.fresh id .control .inbound 0).openControl address resources =
      (.ok (), session, after)) :
    session.Holds before after ∧ session.IsSignaling ∧
      after.ids = resources.ids ∧ after.ports = resources.ports ∧
      ∃ placed, session.socket = some placed ∧
        resources.fabric.bind .relay placed = .ok after.fabric := by
  obtain ⟨_, owns, idHeld, portHeld, socketHeld, grown⟩ := holds
  obtain ⟨placed, fabric, _, free, rfl, rfl⟩ := Session.openControl_eq_ok opened
  have closed : fabric.close placed = before.fabric := (Fabric.close_bind free).trans socketHeld
  exact ⟨⟨Stage.noConfusion, owns, idHeld, portHeld, closed, grown.engines, grown.history,
    grown.fixed_eq⟩, ⟨rfl, rfl, rfl, rfl, rfl, rfl, rfl, rfl, rfl⟩, rfl, rfl, placed, rfl, free⟩

namespace Gateway

/-- What a gateway is when it has started: valid settings, and the control session alone in the
table. -/
theorem start_eq_ok {settings : Settings} {supply : EngineSupply} {fabric : Fabric}
    {gateway : Gateway} (started : start settings supply fabric = .ok gateway) :
    settings.validate = .ok () ∧ gateway.settings = settings ∧
      ∃ id resources control,
        Session.create .control 0 .inbound
          (Resources.ofSettings settings supply fabric
            (settings.effectiveMediaIp fabric.policy.interfaces)) =
            .ok (Session.fresh id .control .inbound 0, resources) ∧
        (Session.fresh id .control .inbound 0).openControl settings.controlAddress resources =
          (.ok (), control, gateway.exchange.resources) ∧
        gateway.exchange.table = (Table.empty settings.maxSessions.toNat).append control ∧
        gateway.exchange.counters = Counters.zero := by
  rw [start] at started
  split at started
  · cases started
  next valid =>
  dsimp only at started
  split at started
  · cases started
  next created =>
  obtain ⟨_, id, _, _, rfl, _⟩ := Session.create_eq_ok created
  split at started
  · cases started
  next resources _ _ _ opened =>
  rw [Table.push] at started
  split at started
  · cases started
  next pushed =>
  split at pushed
  · cases pushed
  cases pushed
  cases started
  exact ⟨valid, rfl, id, _, _, created, opened, rfl, rfl⟩

/-- The resources of a gateway that has started: a number and a socket are taken, for the control
session, and nothing else. -/
theorem start_resources {settings : Settings} {supply : EngineSupply} {fabric : Fabric}
    {gateway : Gateway} (started : start settings supply fabric = .ok gateway) :
    ∃ placed id ids opened, fabric.place settings.controlAddress = .ok placed ∧
      (SessionIds.ofSize settings.idPoolSize).allocate .inbound = .ok (id, ids) ∧
      fabric.bind .relay placed = .ok opened ∧
      gateway.exchange.resources =
        { Resources.ofSettings settings supply fabric
            (settings.effectiveMediaIp fabric.policy.interfaces) with
          ids := ids
          fabric := opened } ∧
      gateway.exchange.table = (Table.empty settings.maxSessions.toNat).append
        { Session.fresh id .control .inbound 0 with
          socket := some placed
          localAddress := some placed
          stage := .setup } := by
  obtain ⟨_, _, id, _, control, created, opened, table, _⟩ := start_eq_ok started
  obtain ⟨_, _, ids, issued, same, rfl⟩ := Session.create_eq_ok created
  cases same
  obtain ⟨placed, fabric', found, free, rfl, resources⟩ := Session.openControl_eq_ok opened
  exact ⟨placed, id, ids, fabric', found, issued, free, resources, table⟩

/-- The endpoint at which a gateway takes signaling. -/
def signalingAddress (gateway : Gateway) : Endpoint :=
  (gateway.exchange.table.control?.bind Session.socket).getD gateway.settings.controlAddress

theorem signalingAddress_eq {gateway : Gateway} {address : Endpoint}
    (listens : gateway.exchange.table.control?.bind Session.socket = some address) :
    gateway.signalingAddress = address := by
  rw [signalingAddress, listens]
  rfl

/-- A gateway that has just started takes signaling where the network has placed its control
socket. -/
theorem placed_start {settings : Settings} {supply : EngineSupply} {fabric : Fabric}
    {gateway : Gateway} (started : start settings supply fabric = .ok gateway) :
    fabric.place settings.controlAddress = .ok gateway.signalingAddress := by
  obtain ⟨_, _, _, _, found, _, _, _, table⟩ := start_resources started
  rw [signalingAddress, table]
  exact found

theorem listening_start {settings : Settings} {supply : EngineSupply} {fabric : Fabric}
    {gateway : Gateway} (started : start settings supply fabric = .ok gateway) :
    gateway.exchange.table.control?.bind Session.socket = some gateway.signalingAddress := by
  obtain ⟨_, _, _, _, _, _, _, _, table⟩ := start_resources started
  rw [signalingAddress, table]
  rfl

/-- **A gateway starts with a sound exchange.** -/
theorem sound_start {settings : Settings} {supply : EngineSupply} {fabric : Fabric}
    {gateway : Gateway} (started : start settings supply fabric = .ok gateway) :
    gateway.exchange.Sound := by
  obtain ⟨valid, _, id, resources, control, created, opened, table, _⟩ := start_eq_ok started
  have ledger := Ledger.start valid supply fabric
    (settings.effectiveMediaIp fabric.policy.interfaces)
  obtain ⟨held, soundCreated⟩ := Session.holds_create ledger.sound created
  obtain ⟨holds, signaling, ids_eq, ports_eq, _, has, bound⟩ := held.openControl opened
  refine ⟨⟨?_, ?_, ?_⟩, ?_, table ▸ (Table.Wired.empty _ _).append has bound⟩
  · rw [table]
    exact ⟨_, [], rfl, rfl, { signaling with }⟩
  · intro slot member closed
    rw [table] at member
    cases List.mem_singleton.mp member
    cases closed
  · rw [table]
    exact .nil
  · rw [table]
    exact ledger.enter holds.gist ⟨ids_eq ▸ soundCreated.ids, ports_eq ▸ soundCreated.ports⟩

end Gateway

end FaxRelay
