import FaxRelay.Exchange
import FaxRelay.Proofs.Holdings
import FaxRelay.Proofs.Media.Queue

/-!
# Opening a media leg

A leg is opened in steps, each of which can fail: a number, a port, a socket, an
engine. Wherever it stops, the session holds exactly what it has drawn so far,
so the leg that could not be opened is destroyed without a trace. A leg that was
opened holds all four.
-/

set_option autoImplicit false

namespace FaxRelay

open FaxRelay.Media FaxRelay.Net FaxRelay.Pool FaxRelay.Signal

/-! ## Drawing on the resources -/

namespace Resources

theorem makeEngine_cases (resources : Resources) :
    (∃ fault, resources.makeEngine =
      (.error fault, { resources with makeAttempts := resources.makeAttempts + 1 })) ∨
    (resources.engineSettings.queueOverflows = false ∧ resources.makeEngine =
      (.ok resources.engines.length,
        { resources with
          makeAttempts := resources.makeAttempts + 1
          engines := resources.engines ++ [Engine.blank resources.engineSettings]
          journal := .made resources.engines.length :: resources.journal })) := by
  rw [makeEngine]
  cases resources.supply.makeFault resources.makeAttempts with
  | some reason => exact .inl ⟨_, rfl⟩
  | none =>
    rcases Engine.ofSettings_cases resources.engineSettings with ⟨_, fails⟩ | ⟨fits, made⟩
    · rw [fails]
      exact .inl ⟨_, rfl⟩
    · rw [made]
      exact .inr ⟨fits, rfl⟩

theorem attachEngine_cases (resources : Resources) (engine : Nat) (leg : Leg) :
    (∃ fault, resources.attachEngine engine leg =
      (.error fault,
        { resources with
          attachAttempts := resources.attachAttempts + 1
          journal := .attached engine leg false :: resources.journal })) ∨
    resources.attachEngine engine leg =
      (.ok (),
        { resources with
          attachAttempts := resources.attachAttempts + 1
          engines := resources.engines.modify engine fun engine => engine.attach leg
          journal := .attached engine leg true :: resources.journal }) := by
  rw [attachEngine]
  cases resources.supply.attachFault resources.attachAttempts with
  | some reason => exact .inl ⟨_, rfl⟩
  | none => exact .inr rfl

/-- Two states with the same numbers, ports and sockets. -/
structure SameSupplies (before after : Resources) : Prop where
  ids_eq : after.ids = before.ids
  ports_eq : after.ports = before.ports
  fabric_eq : after.fabric = before.fabric

end Resources

/-- Giving a session its engine either fails and leaves the session as it was, or succeeds with
the engine that was made next. -/
theorem Session.equip_cases (session : Session) (callId : CallId) (address : Endpoint)
    (resources : Resources) :
    (∃ fault after, session.equip callId address resources = (.error fault, session, after) ∧
      resources.SameSupplies after ∧ Resources.Grown [] resources after) ∨
    (∃ after, session.equip callId address resources =
        (.ok (), { session with engine := some resources.engines.length, stage := .setup }, after) ∧
      resources.SameSupplies after ∧
        Resources.Grown [resources.engines.length] resources after) := by
  rw [Session.equip]
  rcases resources.makeEngine_cases with ⟨fault, made⟩ | ⟨_, made⟩
  · rw [made]
    exact .inl ⟨_, _, rfl, ⟨rfl, rfl, rfl⟩, List.take_length,
      ⟨[], rfl, Settled.nil (Nat.le_refl _)⟩, rfl⟩
  · rw [made]
    dsimp only
    rcases Resources.attachEngine_cases _ resources.engines.length
      (session.leg callId address) with ⟨fault, attached⟩ | attached
    · rw [attached]
      refine .inl ⟨_, _, rfl, ⟨rfl, rfl, rfl⟩, List.take_left, ⟨[_, _], rfl, ?_⟩, rfl⟩
      refine Settled.of_traffic (by simp) fun event member => ?_
      simp only [List.mem_cons, List.not_mem_nil, or_false] at member
      rcases member with rfl | rfl <;> exact ⟨rfl, rfl, rfl⟩
    · rw [attached]
      refine .inr ⟨_, rfl, ⟨rfl, rfl, rfl⟩, ?_, ⟨[_, _], rfl, ?_⟩, rfl⟩
      · show (List.modify _ _ _).take _ = _
        rw [List.take_modify, List.take_left, List.modify_eq_self (Nat.le_refl _)]
      · have settled := Settled.attach resources.engines.length (session.leg callId address)
        simpa using settled

theorem Session.create_eq_ok {role : Role} {index : Nat} {direction : Direction}
    {resources after : Resources} {session : Session}
    (created : Session.create role index direction resources = .ok (session, after)) :
    misfit? role direction = none ∧ ∃ id ids, resources.ids.allocate direction = .ok (id, ids) ∧
      session = Session.fresh id role direction index ∧ after = { resources with ids := ids } := by
  rw [Session.create] at created
  split at created
  · cases created
  · next fits =>
    split at created
    · cases created
    · next id ids issued =>
      cases created
      exact ⟨fits, id, ids, issued, rfl, rfl⟩

theorem Session.bindSocket_cases (session : Session) (unbound : session.socket = none)
    (address : Endpoint) (resources : Resources) :
    (∃ fault, session.bindSocket address resources = .error fault) ∨
    ∃ fabric, resources.fabric.bind .relay address = .ok fabric ∧
      session.bindSocket address resources =
        .ok ({ session with socket := some address, localAddress := some address },
          { resources with fabric := fabric }) := by
  rw [Session.bindSocket, Resources.openSocket, unbound]
  cases resources.fabric.bind .relay address with
  | error cause => exact .inl ⟨_, rfl⟩
  | ok fabric => exact .inr ⟨fabric, rfl, rfl⟩

/-- A session that was just created holds its number. -/
theorem Session.holds_create {role : Role} {index : Nat} {direction : Direction}
    {resources after : Resources} {session : Session} (sound : resources.Sound)
    (created : Session.create role index direction resources = .ok (session, after)) :
    session.Holds resources after ∧ after.Sound := by
  obtain ⟨_, id, ids, issued, rfl, rfl⟩ := Session.create_eq_ok created
  refine ⟨⟨Stage.noConfusion, rfl, SessionIds.lent_allocate sound.ids issued,
    MediaPorts.SameTaken.refl _, rfl, ?_⟩, sound.ids.allocate issued, sound.ports⟩
  exact ⟨List.take_length, ⟨[], rfl, Settled.nil (Nat.le_refl _)⟩, rfl⟩

/-- A media leg that was opened and neither linked nor bridged yet. -/
def Session.opened (id : SessionId) (role : Role) (direction : Direction) (index : Nat)
    (callId : CallId) (remote : Option Endpoint) (address : Endpoint) (engine : Nat) : Session :=
  { Session.fresh id role direction index with
    callId := some callId
    stage := .setup
    localAddress := some address
    remote := remote
    port := some address.port
    socket := some address
    engine := some engine }

namespace Session.Holds

/-- Opening a fresh session as a media leg: wherever it stops, the session holds what it has drawn
so far; and when it does not stop, the leg is open with a port of its own and the engine that was
made next. -/
theorem openMedia {id : SessionId} {role : Role} {direction : Direction} {index : Nat}
    {callId : CallId} {remote : Option Endpoint} {before resources after : Resources}
    {outcome : Except Fault Unit} {session : Session}
    (holds : (Session.fresh id role direction index).Holds before resources)
    (sound : resources.Sound)
    (result : (Session.fresh id role direction index).openMedia callId remote resources =
      (outcome, session, after)) :
    session.Holds before after ∧ after.Sound ∧
      (outcome = .ok () → (role = .gateway → remote.isSome = true) ∧
        ∃ port, session = Session.opened id role direction index callId remote
          ⟨resources.mediaIp, port⟩ resources.engines.length) := by
  rw [Session.openMedia] at result
  split at result
  · cases result
    exact ⟨holds, sound, fun ok => by cases ok⟩
  split at result
  · cases result
    exact ⟨holds, sound, fun ok => by cases ok⟩
  next aimed =>
  have given : role = .gateway → remote.isSome = true := by
    intro isGateway
    rw [Option.isSome_iff_ne_none]
    exact fun missing => aimed ⟨isGateway, missing⟩
  obtain ⟨isOpen, owns, idHeld, portHeld, socketHeld, grown⟩ := holds
  dsimp only at result
  split at result
  · cases result
    exact ⟨⟨isOpen, owns, idHeld, portHeld, socketHeld, grown⟩, sound, fun ok => by cases ok⟩
  next port ports issued =>
  have lent : before.ports.Lent port ports :=
    (MediaPorts.lent_allocate sound.ports issued).of_sameTaken portHeld
      (MediaPorts.SameTaken.refl _)
  have soundPorts : ports.Sound := sound.ports.allocate issued
  rcases Session.bindSocket_cases { Session.fresh id role direction index with
      callId := some callId, remote := remote, port := some port } rfl
    ⟨resources.mediaIp, port⟩ { resources with ports := ports } with
    ⟨fault, bound⟩ | ⟨fabric, opened, bound⟩
  · rw [bound] at result
    cases result
    exact ⟨⟨isOpen, owns, idHeld, lent, socketHeld, grown.engines, grown.history, grown.fixed_eq⟩,
      ⟨sound.ids, soundPorts⟩, fun ok => by cases ok⟩
  rw [bound] at result
  dsimp only at result
  have closed : fabric.close ⟨resources.mediaIp, port⟩ = before.fabric :=
    (Fabric.close_bind opened).trans socketHeld
  have grownBefore : Resources.Grown [] before
      { resources with ports := ports, fabric := fabric } :=
    ⟨grown.engines, grown.history, grown.fixed_eq⟩
  rcases Session.equip_cases _ callId ⟨resources.mediaIp, port⟩
      { resources with ports := ports, fabric := fabric } with
    ⟨fault, equipped, refused, ⟨ids_eq, ports_eq, fabric_eq⟩, later⟩ |
    ⟨equipped, accepted, ⟨ids_eq, ports_eq, fabric_eq⟩, later⟩
  · rw [refused] at result
    cases result
    exact ⟨⟨isOpen, owns, ids_eq ▸ idHeld, ports_eq ▸ lent, fabric_eq ▸ closed,
      grownBefore.trans later⟩, ⟨ids_eq ▸ sound.ids, ports_eq ▸ soundPorts⟩,
      fun ok => by cases ok⟩
  · rw [accepted] at result
    cases result
    exact ⟨⟨Stage.noConfusion, owns, ids_eq ▸ idHeld, ports_eq ▸ lent, fabric_eq ▸ closed,
      grownBefore.trans later⟩, ⟨ids_eq ▸ sound.ids, ports_eq ▸ soundPorts⟩,
      fun _ => ⟨given, port, rfl⟩⟩

/-- What a session holds does not depend on its other fields. -/
theorem of_fields {session other : Session} {before after : Resources}
    (holds : session.Holds before after) (isOpen : other.stage ≠ .complete)
    (owns : other.ownsId = session.ownsId) (id : other.id = session.id)
    (port : other.port = session.port) (socket : other.socket = session.socket)
    (engine : other.engine = session.engine) : other.Holds before after where
  open_ := isOpen
  owns := owns.trans holds.owns
  id := id ▸ holds.id
  port := port ▸ holds.port
  socket := socket ▸ holds.socket
  grown := engine ▸ holds.grown

end Session.Holds

/-! ## One leg -/

namespace Exchange

variable {role : Role} {index : Nat} {direction : Direction} {callId : CallId}
variable {remote : Option Endpoint} {before after : Resources}

/-- A leg that could not be opened leaves no trace. -/
theorem openLeg_error {fault : Fault} (sound : before.Sound)
    (failed : openLeg role index direction callId remote before = (.error fault, after)) :
    before.Unwound after ∧ after.Sound := by
  rw [openLeg] at failed
  split at failed
  · cases failed
    exact ⟨Resources.Unwound.refl _, sound⟩
  next session resources created =>
  obtain ⟨holds, soundCreated⟩ := Session.holds_create sound created
  obtain ⟨_, id, ids, _, rfl, rfl⟩ := Session.create_eq_ok created
  split at failed
  · cases failed
  next reason session resources result =>
  cases failed
  obtain ⟨held, soundHeld, _⟩ := holds.openMedia soundCreated result
  exact ⟨held.destroy, soundHeld.destroy session⟩

/-- A leg that was opened holds its number, its port, its socket and its engine. -/
theorem openLeg_ok {session : Session} (sound : before.Sound)
    (made : openLeg role index direction callId remote before = (.ok session, after)) :
    session.Holds before after ∧ after.Sound ∧ (role = .gateway → remote.isSome = true) ∧
      ∃ id port, session = Session.opened id role direction index callId remote
        ⟨before.mediaIp, port⟩ before.engines.length := by
  rw [openLeg] at made
  split at made
  · cases made
  next fresh resources created =>
  obtain ⟨holds, soundCreated⟩ := Session.holds_create sound created
  obtain ⟨_, id, ids, _, rfl, rfl⟩ := Session.create_eq_ok created
  split at made
  · next opened resources result =>
    cases made
    obtain ⟨held, soundHeld, shape⟩ := holds.openMedia soundCreated result
    obtain ⟨aimed, port, rfl⟩ := shape rfl
    exact ⟨held, soundHeld, aimed, id, port, rfl⟩
  · cases made

end Exchange

end FaxRelay
