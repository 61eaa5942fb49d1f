import FaxRelay.Exchange
import FaxRelay.Proofs.Ledger
import FaxRelay.Proofs.Outline

/-!
# Traffic

Media and signaling that pass through a relay change what waits in sockets, the
contents of engines and the journal, but neither what is taken of the resources
nor the outline of the table, and close no socket of the relay
(`Exchange.Quiet`). Reading a socket, handing datagrams to engines, the passes
of a bridge and the sending of replies are all of this kind.
-/

set_option autoImplicit false

namespace FaxRelay

open FaxRelay.Media FaxRelay.Net FaxRelay.Pool FaxRelay.Signal

/-! ## Traffic in the resources -/

namespace Resources

/-- Between two states of the resources there was only traffic. -/
structure Traffic (before after : Resources) : Prop where
  ids_eq : after.ids = before.ids
  ports_eq : after.ports = before.ports
  count_eq : after.engines.length = before.engines.length
  fixed_eq : after.fixed = before.fixed
  keeps : before.fabric.Keeps after.fabric
  history : ∃ events, after.journal = events ++ before.journal ∧
    ∀ event ∈ events, event.IsTraffic

namespace Traffic

variable {first second third : Resources}

theorem refl (resources : Resources) : resources.Traffic resources :=
  ⟨rfl, rfl, rfl, rfl, .refl _, [], rfl, fun _ member => by cases member⟩

theorem trans (earlier : first.Traffic second) (later : second.Traffic third) :
    first.Traffic third := by
  obtain ⟨before, journal, quiet⟩ := earlier.history
  obtain ⟨after, journal', quiet'⟩ := later.history
  refine ⟨later.ids_eq.trans earlier.ids_eq, later.ports_eq.trans earlier.ports_eq,
    later.count_eq.trans earlier.count_eq, later.fixed_eq.trans earlier.fixed_eq,
    earlier.keeps.trans later.keeps, after ++ before, ?_, fun event member => ?_⟩
  · rw [journal', journal, List.append_assoc]
  · rcases List.mem_append.mp member with member | member
    · exact quiet' event member
    · exact quiet event member

end Traffic

theorem traffic_fabric (resources : Resources) {fabric : Fabric}
    (keeps : resources.fabric.Keeps fabric) :
    resources.Traffic { resources with fabric := fabric } :=
  ⟨rfl, rfl, rfl, rfl, keeps, [], rfl, fun _ member => by cases member⟩

theorem traffic_note (resources : Resources) {event : Event} (quiet : event.IsTraffic) :
    resources.Traffic (resources.note event) := by
  refine ⟨rfl, rfl, rfl, rfl, .refl _, [event], rfl, fun other member => ?_⟩
  cases List.mem_singleton.mp member
  exact quiet

theorem traffic_changeEngine (resources : Resources) (engine : Nat) (change : Engine → Engine) :
    resources.Traffic (resources.changeEngine engine change) :=
  ⟨rfl, rfl, List.length_modify .., rfl, .refl _, [], rfl, fun _ member => by cases member⟩

theorem traffic_transmit (resources : Resources) (transmission : Transmission) :
    resources.Traffic (resources.transmit transmission).2 := by
  rw [transmit]
  split
  · next sent =>
    exact (resources.traffic_fabric (Fabric.keeps_send sent)).trans
      (traffic_note _ ⟨rfl, rfl, rfl⟩)
  · exact traffic_note _ ⟨rfl, rfl, rfl⟩

theorem traffic_hear (resources : Resources) (engine : Nat) (payload : Payload) :
    resources.Traffic (resources.hear engine payload) :=
  (resources.traffic_changeEngine engine _).trans (traffic_note _ ⟨rfl, rfl, rfl⟩)

theorem traffic_produce (resources : Resources) (engine : Nat) :
    resources.Traffic (resources.produce engine).2 :=
  (resources.traffic_changeEngine engine _).trans (traffic_note _ ⟨rfl, rfl, rfl⟩)

theorem traffic_relay (resources : Resources) (engine : Nat) (frame : Frame) :
    resources.Traffic (resources.relay engine frame).2 := by
  rw [relay]
  split
  · exact Traffic.refl resources
  · split
    · exact Traffic.refl resources
    · exact Traffic.refl resources
    · exact resources.traffic_transmit _

theorem traffic_take (resources : Resources) (engine : Nat) (frame : Frame) :
    resources.Traffic (resources.take engine frame).2 := by
  have relayed := resources.traffic_relay engine frame
  rw [take]
  split
  · next same =>
    rw [same] at relayed
    exact relayed.trans (traffic_note _ ⟨rfl, rfl, rfl⟩)
  · next same =>
    rw [same] at relayed
    exact relayed.trans (traffic_note _ ⟨rfl, rfl, rfl⟩)

/-! ### Bridges -/

section Bridges

variable (inbound outbound : Nat)

theorem traffic_forward (source : Direction) (progress : Progress) (resources : Resources) :
    resources.Traffic (forward (sides inbound outbound) source progress resources).2 := by
  have produced : resources.Traffic ((sides inbound outbound).produce source resources).2 := by
    cases source <;> exact resources.traffic_produce _
  rw [Media.forward]
  dsimp only
  split
  · exact produced
  · cases source <;> exact produced.trans (traffic_take _ _ _)

theorem traffic_pass (progress : Progress) (resources : Resources) :
    resources.Traffic (pass (sides inbound outbound) progress resources).2 := by
  have first := resources.traffic_forward inbound outbound .inbound progress
  rw [Media.pass]
  split
  · exact Traffic.refl resources
  dsimp only
  split
  · exact first
  · exact first.trans (traffic_forward ..)

theorem traffic_passes (count : Nat) (progress : Progress) (resources : Resources) :
    resources.Traffic (passes (sides inbound outbound) count progress resources).2 := by
  induction count generalizing progress resources with
  | zero => exact Traffic.refl resources
  | succ count ih => exact (traffic_pass inbound outbound progress resources).trans (ih _ _)

end Bridges

/-- Traffic leaves what is taken as it was. -/
theorem Taken.traffic {ids : List SessionId} {ports : List UInt16} {engines : List Nat}
    {before after : Resources} (taken : before.Taken ids ports engines)
    (traffic : before.Traffic after) : after.Taken ids ports engines where
  sound := ⟨traffic.ids_eq ▸ taken.sound.ids, traffic.ports_eq ▸ taken.sound.ports⟩
  ids_iff := traffic.ids_eq ▸ taken.ids_iff
  ids_nodup := taken.ids_nodup
  ports_iff := traffic.ports_eq ▸ taken.ports_iff
  ports_nodup := taken.ports_nodup
  settled := by
    obtain ⟨events, journal, quiet⟩ := traffic.history
    rw [journal, traffic.count_eq]
    exact taken.settled.append (Settled.of_traffic (Nat.le_refl _) quiet)
  engines_ordered := taken.engines_ordered

end Resources

/-! ## Traffic of a session -/

namespace Session

variable (session : Session) (resources : Resources)

theorem traffic_send (payload : Payload) :
    resources.Traffic (session.send payload resources).2 := by
  rw [send]
  split
  · exact Resources.Traffic.refl resources
  · exact Resources.Traffic.refl resources
  · next address remote _ _ =>
    have sent := resources.traffic_transmit ⟨address, remote, payload⟩
    split
    · next same => rwa [same] at sent
    · next same => rwa [same] at sent

theorem traffic_hear (size : Nat) (sender : Endpoint) (payload : Payload) :
    (session.hear size sender payload resources).1.gist = session.gist ∧
      resources.Traffic (session.hear size sender payload resources).2 := by
  refine ⟨session.gist_heardFrom sender, ?_⟩
  rw [hear]
  dsimp only
  cases (session.heardFrom sender).engine with
  | none => exact Resources.Traffic.refl resources
  | some engine =>
    exact (resources.traffic_changeEngine engine _).trans (Resources.traffic_hear _ _ _)

theorem traffic_hearAll (size : Nat) (datagrams : List (Endpoint × Payload)) :
    (session.hearAll size datagrams resources).1.gist = session.gist ∧
      resources.Traffic (session.hearAll size datagrams resources).2 := by
  induction datagrams generalizing session resources with
  | nil => exact ⟨rfl, Resources.Traffic.refl resources⟩
  | cons datagram rest ih =>
    obtain ⟨gist, traffic⟩ := session.traffic_hear resources size datagram.1 datagram.2
    obtain ⟨gist', traffic'⟩ := ih (session.hear size datagram.1 datagram.2 resources).1
      (session.hear size datagram.1 datagram.2 resources).2
    exact ⟨gist'.trans gist, traffic.trans traffic'⟩

theorem traffic_onReadable (size : Nat) :
    (session.onReadable size resources).2.1.gist = session.gist ∧
      resources.Traffic (session.onReadable size resources).2.2 := by
  rw [onReadable]
  split
  · exact ⟨rfl, Resources.Traffic.refl resources⟩
  next address _ =>
  obtain ⟨gist, traffic⟩ := session.traffic_hearAll
    { resources with fabric := (resources.fabric.drain address).2 } size
    (resources.fabric.drain address).1.datagrams
  have heard := (resources.traffic_fabric (Fabric.keeps_drain _ address)).trans traffic
  dsimp only
  split
  · exact ⟨gist, heard⟩
  · exact ⟨gist, heard⟩

theorem traffic_runBridge (count : Nat) :
    (session.runBridge count resources).1.gist = session.gist ∧
      resources.Traffic (session.runBridge count resources).2 := by
  rw [runBridge]
  split
  · exact ⟨rfl, Resources.Traffic.refl resources⟩
  next bridge kept =>
  refine ⟨?_, Resources.traffic_passes bridge.inbound bridge.outbound count bridge.progress
    resources⟩
  simp only [gist, kept, Option.map_some]

end Session

/-! ## Traffic of an exchange -/

namespace Exchange

/-- Between two states of an exchange there was only traffic. -/
structure Quiet (before after : Exchange) : Prop where
  outline : before.table.SameOutline after.table
  traffic : before.resources.Traffic after.resources

namespace Quiet

variable {first second third : Exchange}

theorem refl (exchange : Exchange) : exchange.Quiet exchange :=
  ⟨Table.SameOutline.refl _, Resources.Traffic.refl _⟩

theorem trans (earlier : first.Quiet second) (later : second.Quiet third) : first.Quiet third :=
  ⟨earlier.outline.trans later.outline, earlier.traffic.trans later.traffic⟩

end Quiet

variable (exchange : Exchange)

theorem quiet_fabric {fabric : Fabric} (keeps : exchange.resources.fabric.Keeps fabric) :
    exchange.Quiet { exchange with resources := { exchange.resources with fabric := fabric } } :=
  ⟨Table.SameOutline.refl _, exchange.resources.traffic_fabric keeps⟩

theorem quiet_clearReadable (index : Nat) :
    exchange.Quiet { exchange with table := exchange.table.clearReadable index } :=
  ⟨Table.sameOutline_clearReadable _ index, Resources.Traffic.refl _⟩

theorem quiet_markReadable (token : SessionId) :
    exchange.Quiet { exchange with table := (exchange.table.markReadable token).2 } :=
  ⟨Table.sameOutline_markReadable _ token, Resources.Traffic.refl _⟩

theorem quiet_reply (message : Message) : exchange.Quiet (exchange.reply message) := by
  rw [reply]
  split
  · next payload control _ _ =>
    exact ⟨Table.SameOutline.refl _, control.traffic_send exchange.resources payload⟩
  · exact Quiet.refl exchange

theorem quiet_runBridge (index count : Nat) : exchange.Quiet (exchange.runBridge index count) := by
  rw [runBridge]
  split
  · exact Quiet.refl exchange
  · next session found =>
    obtain ⟨gist, traffic⟩ := session.traffic_runBridge exchange.resources count
    exact ⟨Table.sameOutline_setSession found gist, traffic⟩

end Exchange

end FaxRelay
