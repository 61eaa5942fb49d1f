import FaxRelay.Proofs.HeldSockets
import FaxRelay.Proofs.MediaLeg
import FaxRelay.Proofs.Steadiness

/-!
# What was drawn

An account of everything that was drawn on the resources since some moment: the
numbers and ports that are issued besides those that were issued then, the
sockets that the relay has open besides those that it had, and the engines that
were attached and not retired (`Resources.Drawn`).

Each way to draw on a supply enters one thing into the account, and each way to
give something back strikes it out. Traffic, and whatever others do to the
network, leaves it as it is.

The supplies, apart from the engines, are accounted for in the same way: what
has a property now is what had it before and, besides, what is listed
(`Besides`).
-/

set_option autoImplicit false

namespace FaxRelay

open FaxRelay.Media FaxRelay.Net FaxRelay.Pool FaxRelay.Signal

/-! ## What there is besides -/

/-- What has a property now is what had it before and, besides, the listed values, which had it
not; each is listed once. -/
structure Besides {α : Type} (extra : List α) (before now : α → Prop) : Prop where
  iff : ∀ value, now value ↔ value ∈ extra ∨ before value
  fresh : ∀ value ∈ extra, ¬before value
  nodup : extra.Nodup

namespace Besides

variable {α : Type} {extra other : List α} {before now later : α → Prop} {value : α}

theorem nothing (same : ∀ value, now value ↔ before value) : Besides [] before now where
  iff value := by simp [same]
  fresh _ member := by cases member
  nodup := List.nodup_nil

theorem perm (besides : Besides extra before now) (same : extra.Perm other) :
    Besides other before now where
  iff value := by rw [besides.iff, same.mem_iff]
  fresh value member := besides.fresh value (same.mem_iff.mpr member)
  nodup := same.nodup_iff.mp besides.nodup

theorem of_iff (besides : Besides extra before now) (same : ∀ value, later value ↔ now value) :
    Besides extra before later where
  iff value := (same value).trans (besides.iff value)
  fresh := besides.fresh
  nodup := besides.nodup

theorem add (besides : Besides extra before now) (free : ¬now value)
    (added : ∀ other, later other ↔ other = value ∨ now other) :
    Besides (value :: extra) before later where
  iff other := by rw [added, besides.iff, List.mem_cons, or_assoc]
  fresh other member had := by
    rcases List.mem_cons.mp member with rfl | member
    · exact free ((besides.iff other).mpr (.inr had))
    · exact besides.fresh other member had
  nodup := List.nodup_cons.mpr
    ⟨fun member => free ((besides.iff value).mpr (.inl member)), besides.nodup⟩

theorem remove (besides : Besides (value :: extra) before now)
    (removed : ∀ other, later other ↔ other ≠ value ∧ now other) :
    Besides extra before later where
  iff other := by
    obtain ⟨absent, _⟩ := List.nodup_cons.mp besides.nodup
    rw [removed, besides.iff, List.mem_cons]
    constructor
    · rintro ⟨differs, (same | member) | had⟩
      · exact absurd same differs
      · exact .inl member
      · exact .inr had
    · rintro (member | had)
      · exact ⟨fun same => absent (same ▸ member), .inl (.inr member)⟩
      · exact ⟨fun same => besides.fresh value List.mem_cons_self (same ▸ had), .inr had⟩
  fresh other member := besides.fresh other (List.mem_cons_of_mem _ member)
  nodup := (List.nodup_cons.mp besides.nodup).2

theorem restored (besides : Besides [] before now) (value : α) : now value ↔ before value := by
  simp [besides.iff]

/-- What is listed has the property now. -/
theorem has_head (besides : Besides (value :: extra) before now) : now value :=
  (besides.iff value).mpr (.inl List.mem_cons_self)

end Besides

namespace Resources

/-! ## The account -/

section Properties

variable (resources : Resources)

/-- A number is issued. -/
def HasId (id : SessionId) : Prop := resources.ids.isAllocated id = true

/-- A port is issued. -/
def HasPort (port : UInt16) : Prop := resources.ports.isAllocated port = true

/-- The relay has a socket open. -/
def HasSocket (address : Endpoint) : Prop := resources.fabric.holder? address = some .relay

end Properties

/-- `after` has exactly these numbers, ports and sockets besides what `before` has; and of the
engines that were attached in between exactly these were not retired, and no pool refused what was
given back. -/
structure Drawn (ids : List SessionId) (ports : List UInt16) (sockets : List Endpoint)
    (engines : List Nat) (before after : Resources) : Prop where
  sound : after.Sound
  ids_besides : Besides ids before.HasId after.HasId
  ports_besides : Besides ports before.HasPort after.HasPort
  sockets_besides : Besides sockets before.HasSocket after.HasSocket
  history : ∃ events, after.journal = events ++ before.journal ∧
    Settled engines before.engines.length after.engines.length events

namespace Drawn

variable {ids : List SessionId} {ports : List UInt16} {sockets : List Endpoint}
variable {engines newer : List Nat} {before after later : Resources}

theorem refl {resources : Resources} (sound : resources.Sound) :
    Drawn [] [] [] [] resources resources where
  sound := sound
  ids_besides := .nothing fun _ => Iff.rfl
  ports_besides := .nothing fun _ => Iff.rfl
  sockets_besides := .nothing fun _ => Iff.rfl
  history := ⟨[], rfl, Settled.nil (Nat.le_refl _)⟩

/-- What neither draws on a supply nor opens or closes a socket of the relay adds at most engines
to the account. -/
theorem transport (drawn : Drawn ids ports sockets engines before after)
    (ids_eq : later.ids = after.ids) (ports_eq : later.ports = after.ports)
    (holders : ∀ address, later.HasSocket address ↔ after.HasSocket address)
    (history : ∃ events, later.journal = events ++ after.journal ∧
      Settled newer after.engines.length later.engines.length events) :
    Drawn ids ports sockets (newer ++ engines) before later where
  sound := ⟨ids_eq ▸ drawn.sound.ids, ports_eq ▸ drawn.sound.ports⟩
  ids_besides := drawn.ids_besides.of_iff fun id => by rw [HasId, HasId, ids_eq]
  ports_besides := drawn.ports_besides.of_iff fun port => by rw [HasPort, HasPort, ports_eq]
  sockets_besides := drawn.sockets_besides.of_iff holders
  history := by
    obtain ⟨earlier, journal, settled⟩ := drawn.history
    obtain ⟨events, journal', settled'⟩ := history
    exact ⟨events ++ earlier, by rw [journal', journal, List.append_assoc],
      settled.append settled'⟩

theorem traffic (drawn : Drawn ids ports sockets engines before after)
    (traffic : after.Traffic later) (steady : after.Steady later) :
    Drawn ids ports sockets engines before later := by
  obtain ⟨events, journal, quiet⟩ := traffic.history
  refine drawn.transport traffic.ids_eq traffic.ports_eq (fun address => ?_)
    ⟨events, journal, Settled.of_traffic (Nat.le_of_eq traffic.count_eq.symm) quiet⟩
  rw [HasSocket, HasSocket, steady.holder_eq]

theorem outside (drawn : Drawn ids ports sockets engines before after) {fabric : Fabric}
    (moved : after.fabric.Outside fabric) :
    Drawn ids ports sockets engines before { after with fabric := fabric } where
  sound := ⟨drawn.sound.ids, drawn.sound.ports⟩
  ids_besides := drawn.ids_besides
  ports_besides := drawn.ports_besides
  sockets_besides := drawn.sockets_besides.of_iff fun address =>
    ⟨fun held => moved.held held, moved.keeps address⟩
  history := drawn.history

/-! ## Drawing -/

/-- An engine that was made and attached is entered into the account; one that was refused is
not. -/
theorem grown (drawn : Drawn ids ports sockets engines before after)
    (supplies : after.SameSupplies later) (grown : Grown newer after later) :
    Drawn ids ports sockets (newer ++ engines) before later :=
  drawn.transport supplies.ids_eq supplies.ports_eq
    (fun address => by rw [HasSocket, supplies.fabric_eq, HasSocket]) grown.history

theorem allocateId (drawn : Drawn ids ports sockets engines before after)
    {direction : Direction} {id : SessionId} {rest : SessionIds}
    (issued : after.ids.allocate direction = .ok (id, rest)) :
    Drawn (id :: ids) ports sockets engines before { after with ids := rest } where
  sound := ⟨drawn.sound.ids.allocate issued, drawn.sound.ports⟩
  ids_besides := by
    refine drawn.ids_besides.add (fun had => ?_) fun other => ?_
    · rw [HasId, SessionIds.isAllocated_of_allocate drawn.sound.ids issued] at had
      cases had
    · show rest.isAllocated other = true ↔ _
      rw [SessionIds.isAllocated_allocate drawn.sound.ids issued, Bool.or_eq_true,
        decide_eq_true_iff, HasId]
  ports_besides := drawn.ports_besides
  sockets_besides := drawn.sockets_besides
  history := drawn.history

theorem allocatePort (drawn : Drawn ids ports sockets engines before after) {port : UInt16}
    {rest : MediaPorts} (issued : after.ports.allocate = .ok (port, rest)) :
    Drawn ids (port :: ports) sockets engines before { after with ports := rest } where
  sound := ⟨drawn.sound.ids, drawn.sound.ports.allocate issued⟩
  ids_besides := drawn.ids_besides
  ports_besides := by
    refine drawn.ports_besides.add (fun had => ?_) fun other => ?_
    · rw [HasPort, MediaPorts.isAllocated_of_allocate drawn.sound.ports issued] at had
      cases had
    · show rest.isAllocated other = true ↔ _
      rw [MediaPorts.isAllocated_allocate drawn.sound.ports issued, Bool.or_eq_true,
        decide_eq_true_iff, HasPort]
  sockets_besides := drawn.sockets_besides
  history := drawn.history

theorem bind (drawn : Drawn ids ports sockets engines before after) {address : Endpoint}
    {fabric : Fabric} (bound : after.fabric.bind .relay address = .ok fabric) :
    Drawn ids ports (address :: sockets) engines before { after with fabric := fabric } where
  sound := ⟨drawn.sound.ids, drawn.sound.ports⟩
  ids_besides := drawn.ids_besides
  ports_besides := drawn.ports_besides
  sockets_besides := by
    refine drawn.sockets_besides.add (fun held => ?_) fun other => ?_
    · rw [HasSocket, Fabric.holder?, (Fabric.bind_eq_ok bound).1] at held
      cases held
    · show fabric.holder? other = some .relay ↔ _
      rw [Fabric.holder?_bind bound]
      split
      · next same => simp [same]
      · next differs => simp [differs, HasSocket]
  history := drawn.history

theorem sockets_perm {others : List Endpoint}
    (drawn : Drawn ids ports sockets engines before after) (same : sockets.Perm others) :
    Drawn ids ports others engines before after :=
  { drawn with sockets_besides := drawn.sockets_besides.perm same }

/-! ## Giving back -/

theorem retireEngine {engine : Nat}
    (drawn : Drawn ids ports sockets (engine :: engines) before after) :
    Drawn ids ports sockets engines before (after.retireEngine engine) where
  sound := ⟨drawn.sound.ids, drawn.sound.ports⟩
  ids_besides := drawn.ids_besides
  ports_besides := drawn.ports_besides
  sockets_besides := drawn.sockets_besides
  history := by
    obtain ⟨events, journal, settled⟩ := drawn.history
    refine ⟨.retired engine :: events, ?_, ?_⟩
    · show .retired engine :: after.journal = _
      rw [journal]
      rfl
    · show Settled _ _ (after.engines.modify engine Engine.retire).length _
      rw [List.length_modify]
      exact settled.retire

theorem closeSocket {address : Endpoint}
    (drawn : Drawn ids ports (address :: sockets) engines before after) :
    Drawn ids ports sockets engines before (after.closeSocket address) where
  sound := ⟨drawn.sound.ids, drawn.sound.ports⟩
  ids_besides := drawn.ids_besides
  ports_besides := drawn.ports_besides
  sockets_besides := by
    refine drawn.sockets_besides.remove fun other => ?_
    show (after.fabric.close address).holder? other = some .relay ↔ _
    rw [Fabric.holder?_close]
    split
    · next same => simp [same]
    · next differs => simp [differs, HasSocket]
  history := drawn.history

theorem releasePort {port : UInt16}
    (drawn : Drawn ids (port :: ports) sockets engines before after) :
    Drawn ids ports sockets engines before (after.releasePort port) := by
  obtain ⟨rest, released⟩ := MediaPorts.release_of_isAllocated drawn.ports_besides.has_head
  have given : after.releasePort port = { after with ports := rest } := by
    rw [Resources.releasePort, released]
  rw [given]
  refine ⟨⟨drawn.sound.ids, MediaPorts.Sound.release released drawn.sound.ports⟩,
    drawn.ids_besides, drawn.ports_besides.remove fun other => ?_, drawn.sockets_besides,
    drawn.history⟩
  show rest.isAllocated other = true ↔ _
  rw [MediaPorts.isAllocated_release released]
  simp [HasPort]

theorem releaseId {id : SessionId} (drawn : Drawn (id :: ids) ports sockets engines before after) :
    Drawn ids ports sockets engines before (after.releaseId id) := by
  obtain ⟨rest, released⟩ := SessionIds.release_of_isAllocated drawn.ids_besides.has_head
  have given : after.releaseId id = { after with ids := rest } := by
    rw [Resources.releaseId, released]
  rw [given]
  refine ⟨⟨SessionIds.Sound.release released drawn.sound.ids, drawn.sound.ports⟩,
    drawn.ids_besides.remove fun other => ?_, drawn.ports_besides, drawn.sockets_besides,
    drawn.history⟩
  show rest.isAllocated other = true ↔ _
  rw [SessionIds.isAllocated_release released]
  simp [HasId]

end Drawn

end Resources

end FaxRelay
