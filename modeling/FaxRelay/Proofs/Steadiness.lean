import FaxRelay.Proofs.Transfers

/-!
# Steady traffic

What a session can draw on its resources is a matter of the pools, the supply of
engines and who holds which socket. Resources that differ in other things only,
in what waits in sockets and engines or in the journal, are alike
(`Resources.Alike`).

Media that passes through a relay is not signaling, and leaves the resources
alike: it opens and closes no socket, neither of the relay nor of anybody else
(`Resources.Steady`). The passes of a bridge, the reading of a socket and the
sending of a datagram are all steady; and none of them counts anything or shows
in the outline of the table (`Exchange.Passing`).
-/

set_option autoImplicit false

namespace FaxRelay

open FaxRelay.Media FaxRelay.Net FaxRelay.Pool FaxRelay.Signal

/-! ## Alike resources -/

namespace Resources

/-- Whatever is drawn on one of two states of the resources can be drawn on the other, in the same
way. -/
structure Alike (left right : Resources) : Prop where
  ids_eq : right.ids = left.ids
  ports_eq : right.ports = left.ports
  count_eq : right.engines.length = left.engines.length
  supply_eq : right.supply = left.supply
  makes_eq : right.makeAttempts = left.makeAttempts
  attaches_eq : right.attachAttempts = left.attachAttempts
  settings_eq : right.engineSettings = left.engineSettings
  mediaIp_eq : right.mediaIp = left.mediaIp
  bindFault_eq : right.fabric.policy.bindFault = left.fabric.policy.bindFault
  holder_eq : ∀ address, right.fabric.holder? address = left.fabric.holder? address

namespace Alike

variable {first second third : Resources}

theorem refl (resources : Resources) : resources.Alike resources :=
  ⟨rfl, rfl, rfl, rfl, rfl, rfl, rfl, rfl, rfl, fun _ => rfl⟩

theorem symm (alike : first.Alike second) : second.Alike first :=
  ⟨alike.ids_eq.symm, alike.ports_eq.symm, alike.count_eq.symm, alike.supply_eq.symm,
    alike.makes_eq.symm, alike.attaches_eq.symm, alike.settings_eq.symm, alike.mediaIp_eq.symm,
    alike.bindFault_eq.symm, fun address => (alike.holder_eq address).symm⟩

theorem trans (earlier : first.Alike second) (later : second.Alike third) : first.Alike third :=
  ⟨later.ids_eq.trans earlier.ids_eq, later.ports_eq.trans earlier.ports_eq,
    later.count_eq.trans earlier.count_eq, later.supply_eq.trans earlier.supply_eq,
    later.makes_eq.trans earlier.makes_eq, later.attaches_eq.trans earlier.attaches_eq,
    later.settings_eq.trans earlier.settings_eq, later.mediaIp_eq.trans earlier.mediaIp_eq,
    later.bindFault_eq.trans earlier.bindFault_eq, fun address =>
      (later.holder_eq address).trans (earlier.holder_eq address)⟩

end Alike

/-! ## Steady resources -/

/-- Between two states no signaling was taken in, and the resources remained alike. -/
structure Steady (before after : Resources) : Prop where
  signalings_eq : signalings after.journal = signalings before.journal
  alike : before.Alike after

namespace Steady

variable {first second third : Resources}

theorem refl (resources : Resources) : resources.Steady resources := ⟨rfl, .refl resources⟩

theorem trans (earlier : first.Steady second) (later : second.Steady third) :
    first.Steady third :=
  ⟨later.signalings_eq.trans earlier.signalings_eq, earlier.alike.trans later.alike⟩

/-- Every socket remained in the hands in which it was. -/
theorem holder_eq (steady : first.Steady second) (address : Endpoint) :
    second.fabric.holder? address = first.fabric.holder? address :=
  steady.alike.holder_eq address

end Steady

section Operations

variable (resources : Resources)

theorem steady_note {event : Event} (unheard : event.signaled? = none) :
    resources.Steady (resources.note event) := by
  refine ⟨?_, { Alike.refl resources with }⟩
  show signalings ([event] ++ resources.journal) = _
  rw [signalings_append]
  simp [signalings, unheard]

theorem steady_fabric {fabric : Fabric}
    (policy : fabric.policy.bindFault = resources.fabric.policy.bindFault)
    (same : ∀ address, fabric.holder? address = resources.fabric.holder? address) :
    resources.Steady { resources with fabric := fabric } :=
  ⟨rfl, { Alike.refl resources with bindFault_eq := policy, holder_eq := same }⟩

theorem steady_drain (address : Endpoint) :
    resources.Steady { resources with fabric := (resources.fabric.drain address).2 } :=
  resources.steady_fabric rfl fun other => Fabric.holder?_update address other fun _ => rfl

theorem steady_deliver (address : Endpoint) (arrival : Arrival) :
    resources.Steady { resources with fabric := resources.fabric.deliver address arrival } :=
  resources.steady_fabric rfl fun other => Fabric.holder?_update address other fun _ => rfl

theorem steady_changeEngine (engine : Nat) (change : Engine → Engine) :
    resources.Steady (resources.changeEngine engine change) :=
  ⟨rfl, { Alike.refl resources with count_eq := List.length_modify .. }⟩

theorem steady_transmit (transmission : Transmission) :
    resources.Steady (resources.transmit transmission).2 := by
  rw [transmit]
  split
  · next fabric sent =>
    rw [Fabric.send] at sent
    split at sent
    · cases sent
    · cases sent
      exact (resources.steady_deliver transmission.destination _).trans (steady_note _ rfl)
  · exact resources.steady_note rfl

theorem steady_hear (engine : Nat) (payload : Payload) :
    resources.Steady (resources.hear engine payload) :=
  (resources.steady_changeEngine engine _).trans (steady_note _ rfl)

theorem steady_produce (engine : Nat) : resources.Steady (resources.produce engine).2 :=
  (resources.steady_changeEngine engine _).trans (steady_note _ rfl)

theorem steady_relay (engine : Nat) (frame : Frame) :
    resources.Steady (resources.relay engine frame).2 := by
  rw [relay]
  split
  · exact Steady.refl resources
  · split
    · exact Steady.refl resources
    · exact Steady.refl resources
    · exact resources.steady_transmit _

theorem steady_take (engine : Nat) (frame : Frame) :
    resources.Steady (resources.take engine frame).2 := by
  have relayed := resources.steady_relay engine frame
  rw [take]
  split
  · next same =>
    rw [same] at relayed
    exact relayed.trans (steady_note _ rfl)
  · next same =>
    rw [same] at relayed
    exact relayed.trans (steady_note _ rfl)

end Operations

section Bridges

variable (inbound outbound : Nat)

theorem steady_forward (source : Direction) (progress : Progress) (resources : Resources) :
    resources.Steady (forward (sides inbound outbound) source progress resources).2 := by
  have produced : resources.Steady ((sides inbound outbound).produce source resources).2 := by
    cases source <;> exact resources.steady_produce _
  rw [Media.forward]
  dsimp only
  split
  · exact produced
  · cases source <;> exact produced.trans (steady_take _ _ _)

theorem steady_pass (progress : Progress) (resources : Resources) :
    resources.Steady (pass (sides inbound outbound) progress resources).2 := by
  have first := resources.steady_forward inbound outbound .inbound progress
  rw [Media.pass]
  split
  · exact Steady.refl resources
  dsimp only
  split
  · exact first
  · exact first.trans (steady_forward ..)

theorem steady_passes (count : Nat) (progress : Progress) (resources : Resources) :
    resources.Steady (passes (sides inbound outbound) count progress resources).2 := by
  induction count generalizing progress resources with
  | zero => exact Steady.refl resources
  | succ count ih => exact (steady_pass inbound outbound progress resources).trans (ih _ _)

end Bridges

end Resources

namespace Session

variable (session : Session) (resources : Resources)

theorem steady_send (payload : Payload) :
    resources.Steady (session.send payload resources).2 := by
  rw [send]
  split
  · exact Resources.Steady.refl resources
  · exact Resources.Steady.refl resources
  · next address remote _ _ =>
    have sent := resources.steady_transmit ⟨address, remote, payload⟩
    split
    · next same => rwa [same] at sent
    · next same => rwa [same] at sent

theorem steady_hearAll (size : Nat) (datagrams : List (Endpoint × Payload)) :
    resources.Steady (session.hearAll size datagrams resources).2 := by
  induction datagrams generalizing session resources with
  | nil => exact Resources.Steady.refl resources
  | cons datagram rest ih =>
    have heard : resources.Steady (session.hear size datagram.1 datagram.2 resources).2 := by
      rw [hear]
      dsimp only
      cases (session.heardFrom datagram.1).engine with
      | none => exact Resources.Steady.refl resources
      | some engine =>
        exact (resources.steady_changeEngine engine _).trans (Resources.steady_hear _ _ _)
    exact heard.trans (ih _ _)

theorem steady_onReadable (size : Nat) :
    resources.Steady (session.onReadable size resources).2.2 := by
  rw [onReadable]
  split
  · exact Resources.Steady.refl resources
  next address _ =>
  have heard := (resources.steady_drain address).trans (session.steady_hearAll _ size
    (resources.fabric.drain address).1.datagrams)
  dsimp only
  split
  · exact heard
  · exact heard

theorem steady_runBridge (count : Nat) :
    resources.Steady (session.runBridge count resources).2 := by
  rw [runBridge]
  split
  · exact Resources.Steady.refl resources
  · next bridge _ =>
    exact Resources.steady_passes bridge.inbound bridge.outbound count bridge.progress resources

end Session

/-! ## Passing traffic -/

namespace Exchange

/-- Between two exchanges media was passed on, or a socket was read. -/
structure Passing (before after : Exchange) : Prop where
  outline : before.table.SameOutline after.table
  counters_eq : after.counters = before.counters
  steady : before.resources.Steady after.resources

variable (exchange : Exchange)

theorem passing_settle (address : Endpoint) :
    exchange.Passing
      { exchange with
        resources :=
          { exchange.resources with fabric := exchange.resources.fabric.settle address } } :=
  ⟨.refl _, rfl, exchange.resources.steady_fabric rfl fun other =>
    Fabric.holder?_update address other fun _ => rfl⟩

theorem passing_drain (address : Endpoint) :
    exchange.Passing
      { exchange with
        resources :=
          { exchange.resources with fabric := (exchange.resources.fabric.drain address).2 } } :=
  ⟨.refl _, rfl, exchange.resources.steady_drain address⟩

theorem passing_reply (message : Message) : exchange.Passing (exchange.reply message) := by
  rw [reply]
  split
  · next payload control _ _ =>
    exact ⟨.refl _, rfl, control.steady_send exchange.resources payload⟩
  · exact ⟨.refl _, rfl, .refl _⟩

theorem passing_runBridge (index count : Nat) :
    exchange.Passing (exchange.runBridge index count) := by
  rw [runBridge]
  split
  · exact ⟨.refl _, rfl, .refl _⟩
  · next session found =>
    obtain ⟨gist, _⟩ := session.traffic_runBridge exchange.resources count
    exact ⟨Table.sameOutline_setSession found gist, rfl,
      session.steady_runBridge exchange.resources count⟩

/-- The exchange after the session in a slot was handed what waited for it. -/
def readAt (size index : Nat) (session : Session) : Exchange :=
  { exchange with
    table := exchange.table.setSession index (session.onReadable size exchange.resources).2.1
    resources := (session.onReadable size exchange.resources).2.2 }

theorem passing_readAt (size : Nat) {index : Nat} {session : Session}
    (found : exchange.table.session? index = some session) :
    exchange.Passing (exchange.readAt size index session) :=
  ⟨Table.sameOutline_setSession found (session.traffic_onReadable exchange.resources size).1, rfl,
    session.steady_onReadable exchange.resources size⟩

/-- Handling the media of a slot reads it; and when the socket fails, the call is counted as lost
and destroyed. -/
theorem handleMedia_cases (size : Nat) {index : Nat} {session : Session}
    (found : exchange.table.session? index = some session) :
    exchange.handleMedia size index = exchange.readAt size index session ∨
      exchange.handleMedia size index =
        ((exchange.readAt size index session).countMediaError.destroyCall index).2 := by
  rw [handleMedia, found]
  dsimp only
  split
  · exact .inl rfl
  · exact .inr rfl

end Exchange

end FaxRelay
