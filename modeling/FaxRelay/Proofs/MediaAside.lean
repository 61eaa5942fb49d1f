import FaxRelay.Proofs.Batching
import FaxRelay.Proofs.Engine.Provenance

/-!
# Media stays away from signaling

Media may arrive at any socket but the one at which signaling is taken, and the
bridges of the calls may make their passes (`Exchange.Media`). An engine sends
from the socket of its leg to the remote endpoint of this leg. So as long as no
leg is called from the control socket, no frame comes from there or goes there,
and media leaves the exchange at rest and the control socket as it was
(`Exchange.Media.rests`).
-/

set_option autoImplicit false

namespace FaxRelay

open FaxRelay.Media FaxRelay.Net FaxRelay.Pool FaxRelay.Signal

namespace Resources

/-! ## Leaving an endpoint alone -/

/-- An engine sends neither from an endpoint nor to it. -/
def Avoids (resources : Resources) (address : Endpoint) (engine : Nat) : Prop :=
  ∀ (state : Engine) (outlet : Outlet), resources.engines[engine]? = some state →
    state.outlet = some outlet → outlet.source ≠ address ∧ outlet.remote ≠ some address

/-- Between two states of the resources nothing was sent from an endpoint, its socket remained as it
was, and no fault came to any socket. The engines that avoid it still do. -/
structure Apart (address : Endpoint) (before after : Resources) : Prop where
  policy_eq : after.fabric.policy = before.fabric.policy
  socket_eq : after.fabric.socket? address = before.fabric.socket? address
  dispatches_eq : dispatches address after.journal = dispatches address before.journal
  faultless : ∀ other, before.fabric.Faultless other → after.fabric.Faultless other
  avoids : ∀ engine, before.Avoids address engine → after.Avoids address engine

variable {address : Endpoint}

namespace Apart

variable {first second third : Resources}

theorem refl (resources : Resources) : resources.Apart address resources :=
  ⟨rfl, rfl, rfl, fun _ faultless => faultless, fun _ avoids => avoids⟩

theorem trans (earlier : first.Apart address second) (later : second.Apart address third) :
    first.Apart address third where
  policy_eq := later.policy_eq.trans earlier.policy_eq
  socket_eq := later.socket_eq.trans earlier.socket_eq
  dispatches_eq := later.dispatches_eq.trans earlier.dispatches_eq
  faultless other faultless := later.faultless other (earlier.faultless other faultless)
  avoids engine avoids := later.avoids engine (earlier.avoids engine avoids)

end Apart

section Operations

variable (resources : Resources)

theorem apart_note {event : Event} (unsent : event.sentFrom? address = none) :
    resources.Apart address (resources.note event) := by
  refine { Apart.refl resources with dispatches_eq := ?_ }
  show dispatches address ([event] ++ resources.journal) = _
  rw [dispatches_append]
  simp [dispatches, unsent]

theorem apart_transmit {transmission : Transmission} (source : transmission.source ≠ address)
    (destination : transmission.destination ≠ address) :
    resources.Apart address (resources.transmit transmission).2 := by
  have noted : ∀ (resources : Resources) (fault : Option OsFault),
      resources.Apart address (resources.note (.sent transmission fault)) :=
    fun resources fault => resources.apart_note (if_neg source)
  rw [transmit]
  split
  · next fabric sent =>
    rw [Fabric.send] at sent
    split at sent
    · cases sent
    cases sent
    have delivered : resources.Apart address
        { resources with
          fabric := resources.fabric.deliver transmission.destination
            (.datagram transmission.source transmission.payload) } :=
      { Apart.refl resources with
        socket_eq := by
          rw [Fabric.deliver, Fabric.socket?_update, if_neg destination.symm]
        faultless := fun other faultless => faultless.deliver transmission.destination
          (transmission.source, transmission.payload) }
    exact delivered.trans (noted _ none)
  · exact noted resources _

/-- Being asked for a frame changes where no engine sends. -/
theorem apart_produce (engine : Nat) : resources.Apart address (resources.produce engine).2 := by
  have asked : resources.Apart address
      (resources.changeEngine engine fun engine => engine.produce.2) := by
    refine { Apart.refl resources with avoids := fun other avoids state outlet found ready => ?_ }
    rw [changeEngine, List.getElem?_modify] at found
    obtain ⟨old, foundOld, rfl⟩ := Option.map_eq_some_iff.mp found
    refine avoids old outlet foundOld ?_
    split at ready
    · exact ready
    · exact ready
  exact asked.trans (apart_note _ rfl)

variable {resources}

theorem apart_relay {engine : Nat} (avoids : resources.Avoids address engine) (frame : Frame) :
    resources.Apart address (resources.relay engine frame).2 := by
  rw [relay]
  split
  · exact .refl resources
  next state found =>
  rw [Engine.transmission]
  cases ready : state.outlet with
  | none => exact .refl resources
  | some outlet =>
    obtain ⟨source, remote⟩ := avoids state outlet found ready
    cases aimed : outlet.remote with
    | none =>
      simp only [aimed, Option.map_none]
      exact .refl resources
    | some destination =>
      have elsewhere : destination ≠ address := fun same => remote (same ▸ aimed)
      simp only [aimed, Option.map_some]
      exact resources.apart_transmit source elsewhere

theorem apart_take {engine : Nat} (avoids : resources.Avoids address engine) (frame : Frame) :
    resources.Apart address (resources.take engine frame).2 := by
  obtain ⟨fault, taken⟩ := resources.take_eq engine frame
  rw [taken]
  exact (apart_relay avoids frame).trans (apart_note _ rfl)

end Operations

section Bridges

variable {resources : Resources} {bridge : Bridge}
  (avoids : ∀ side, resources.Avoids address (bridge.engine side))
include avoids

theorem apart_forward (source : Direction) (progress : Progress) :
    resources.Apart address
      (forward (sides bridge.inbound bridge.outbound) source progress resources).2 := by
  have produced : resources.Apart address (resources.produce (bridge.engine source)).2 :=
    resources.apart_produce _
  rw [forward_eq]
  split
  · exact produced
  · exact produced.trans (apart_take (produced.avoids _ (avoids source.opposite)) _)

/-- A bridge between engines that avoid an endpoint leaves it alone. -/
theorem apart_passes (count : Nat) (progress : Progress) :
    resources.Apart address
      (passes (sides bridge.inbound bridge.outbound) count progress resources).2 := by
  induction count generalizing progress resources with
  | zero => exact .refl resources
  | succ count ih =>
    have passed : resources.Apart address
        (pass (sides bridge.inbound bridge.outbound) progress resources).2 := by
      have first := apart_forward avoids .inbound progress
      rw [Media.pass]
      split
      · exact .refl resources
      dsimp only
      split
      · exact first
      · exact first.trans (apart_forward (fun side => first.avoids _ (avoids side)) .outbound _)
    exact passed.trans (ih (fun side => passed.avoids _ (avoids side)) _)

end Bridges

end Resources

namespace Exchange

/-! ## Media beside the rounds -/

/-- No leg has an endpoint for its remote endpoint. -/
def Outward (address : Endpoint) (exchange : Exchange) : Prop :=
  ∀ session ∈ exchange.table.liveSessions, session.isControl = false →
    session.remote ≠ some address

/-- What media there may be while a gateway does nothing. Datagrams arrive at any socket but the one
at an endpoint, or are taken from it; and bridges make passes, through which none fails, while no
leg would send to that endpoint. -/
inductive Media (address : Endpoint) : Exchange → Exchange → Prop where
  | nothing (exchange : Exchange) : Media address exchange exchange
  | arrived {before after : Exchange} (earlier : Media address before after)
      {destination : Endpoint} (elsewhere : destination ≠ address)
      (datagrams : List (Endpoint × Payload)) :
      Media address before (after.receivingAll destination datagrams)
  | taken {before after : Exchange} (earlier : Media address before after) {other : Endpoint}
      (elsewhere : other ≠ address) :
      Media address before
        { after with
          resources :=
            { after.resources with fabric := (after.resources.fabric.receive other).2 } }
  | bridged {before after : Exchange} (earlier : Media address before after)
      (outward : after.Outward address) (index count : Nat)
      (runs : (after.runBridge index count).table.Running) :
      Media address before (after.runBridge index count)

variable {exchange before after : Exchange} {address : Endpoint} {settings : Settings}

theorem Media.beside (media : Media address before after) : Beside before after := by
  induction media with
  | nothing => exact .nothing _
  | arrived earlier elsewhere datagrams ih => exact ih.receivingAll _ datagrams
  | taken earlier elsewhere ih => exact ih.network (.taken _ _)
  | bridged earlier outward index count runs ih => exact ih.bridged index count

section Bridging

variable (sound : exchange.Sound) (attained : Gateway.Attained ⟨settings, exchange⟩)
  (listens : exchange.table.control?.bind Session.socket = some address)
  (outward : exchange.Outward address)
include sound attained listens outward

/-- The engine of a leg sends from the socket of the leg to its remote endpoint, neither of which is
where signaling is taken. -/
theorem Sound.avoids_of_engine {index engine : Nat} {session : Session}
    (found : exchange.table.session? index = some session)
    (has : session.engine = some engine) : exchange.resources.Avoids address engine := by
  obtain ⟨slot, place, rfl⟩ := Table.slot_of_session? found
  obtain ⟨live, isLeg⟩ :=
    sound.table.isLeg_of_isEngaged place (by simp [Session.isEngaged, has])
  obtain ⟨_, _, established⟩ := sound.table.paired.established isLeg
  obtain ⟨state, socket, present, bound, _, aimed⟩ :=
    attained.sends.1.serves _ (Table.mem_roster place) engine has
  intro other outlet foundOther ready
  cases present.symm.trans foundOther
  cases aimed.symm.trans ready
  have inTable : slot.session ∈ exchange.table.liveSessions :=
    List.mem_map_of_mem (List.mem_filter.mpr ⟨List.mem_of_getElem? place, live⟩)
  exact ⟨sound.socket_ne_of_leg listens isLeg bound,
    outward slot.session inTable established.media⟩

/-- The passes of a bridge leave the control socket alone. -/
theorem Sound.apart_runBridge (index count : Nat) :
    exchange.resources.Apart address (exchange.runBridge index count).resources := by
  rw [runBridge]
  cases found : exchange.table.session? index with
  | none => exact .refl _
  | some session =>
    dsimp only
    rw [Session.runBridge]
    cases kept : session.bridge with
    | none => exact .refl _
    | some bridge =>
      obtain ⟨place, partner, foundPartner, joins⟩ :=
        attained.audioStaysInCall.joined found kept
      refine Resources.apart_passes (fun side => ?_) count bridge.progress
      cases side with
      | inbound => exact sound.avoids_of_engine attained listens outward found joins.keeper_has
      | outbound =>
        exact sound.avoids_of_engine attained listens outward foundPartner joins.partner_has

end Bridging

/-- Passes of a bridge that does not fail leave everything at rest. -/
theorem Calm.rests_of_apart (calm : exchange.Calm) {index count : Nat}
    (apart : exchange.resources.Apart address (exchange.runBridge index count).resources)
    (runs : (exchange.runBridge index count).table.Running) :
    exchange.Rests address (exchange.runBridge index count) := by
  have passing := exchange.passing_runBridge index count
  exact {
    agrees := .of_passing passing
    capacity_eq := passing.outline.capacity_eq
    size_le := Nat.le_of_eq passing.outline.size_eq
    policy_eq := apart.policy_eq
    dispatches_eq := apart.dispatches_eq
    queue_eq := by rw [Fabric.queue, Fabric.queue, apart.socket_eq]
    calm := by
      refine ⟨fun leg member other has => ?_, runs⟩
      rw [passing.outline.gists_eq] at member
      exact apart.faultless other (calm.faultless leg member other has) }

/-- **Media leaves an exchange at rest,** and the control socket as it was. -/
theorem Media.rests (media : Media address before after) (sound : before.Sound)
    (attained : Gateway.Attained ⟨settings, before⟩) (calm : before.Calm)
    (listens : before.table.control?.bind Session.socket = some address) :
    before.Rests address after ∧
      after.resources.fabric.socket? address = before.resources.fabric.socket? address := by
  induction media with
  | nothing => exact ⟨calm.rests address, rfl⟩
  | @arrived after earlier destination elsewhere datagrams ih =>
    obtain ⟨rests, same⟩ := ih
    have still : (after.resources.fabric.deliverAll destination datagrams).socket? address =
        after.resources.fabric.socket? address :=
      Fabric.socket?_deliverAll_ne destination datagrams elsewhere.symm
    refine ⟨rests.trans (rests.calm.rests_fabric (Fabric.policy_deliverAll _ _ datagrams)
      (Fabric.holder?_deliverAll _ _ datagrams) ?_
      fun other faultless => faultless.deliverAll _ datagrams), still.trans same⟩
    rw [Fabric.queue, still, Fabric.queue]
  | @taken after earlier other elsewhere ih =>
    obtain ⟨rests, same⟩ := ih
    have still : (after.resources.fabric.receive other).2.socket? address =
        after.resources.fabric.socket? address := by
      rw [Fabric.receive, Fabric.socket?_update, if_neg elsewhere.symm]
    refine ⟨rests.trans (rests.calm.rests_fabric rfl
      (fun _ => Fabric.holder?_update other _ fun _ => rfl) ?_
      fun third faultless => faultless.receive other), still.trans same⟩
    rw [Fabric.queue, still, Fabric.queue]
  | bridged earlier outward index count runs ih =>
    obtain ⟨rests, same⟩ := ih
    have soundLater := sound.of_quiet earlier.beside.quiet
    have apart := soundLater.apart_runBridge (attained.moments earlier.beside.moments)
      (rests.agrees.listens sound soundLater listens) outward index count
    exact ⟨rests.trans (rests.calm.rests_of_apart apart runs), apart.socket_eq.trans same⟩

end Exchange

end FaxRelay
