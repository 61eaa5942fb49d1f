import FaxRelay.Proofs.Journal
import FaxRelay.Proofs.Network
import FaxRelay.Proofs.Pool.MediaPorts
import FaxRelay.Proofs.Pool.SessionIds
import FaxRelay.Session

/-!
# What a session holds

Between its creation and its end a session draws a number, a port, a socket and
an engine from the resources. `Session.Holds session before after` says that
`after` is `before` with exactly that taken which the session's own fields name.
It holds from the creation on, through every point at which opening a leg can
fail.

Destroying a session then gives everything back: nothing remains allocated or
open that was not before, and an engine that had been attached is retired
(`Resources.Unwound`). Only cursors, the list of engines made and the journal
have moved on.
-/

set_option autoImplicit false

namespace FaxRelay

open FaxRelay.Media FaxRelay.Net FaxRelay.Pool FaxRelay.Signal

namespace Resources

/-- What never changes: the supply of engines and the settings. -/
def fixed (resources : Resources) : EngineSupply × EngineSettings × Ipv4 × UInt64 :=
  (resources.supply, resources.engineSettings, resources.mediaIp, resources.bridgeIntervalMs)

/-- Between two states the engines that there were stayed as they are, and the journal grew by a
settled stretch. -/
structure Grown (held : List Nat) (before after : Resources) : Prop where
  engines : after.engines.take before.engines.length = before.engines
  history : ∃ events, after.journal = events ++ before.journal ∧
    Settled held before.engines.length after.engines.length events
  fixed_eq : after.fixed = before.fixed

/-- Whatever was drawn between two states was given back: only cursors may have moved, and what
was attached was retired. -/
structure Unwound (before after : Resources) : Prop where
  ids : before.ids.SameTaken after.ids
  ports : before.ports.SameTaken after.ports
  fabric_eq : after.fabric = before.fabric
  grown : Grown [] before after

namespace Grown

variable {held older newer : List Nat} {first second third : Resources}

theorem refl (resources : Resources) : Grown [] resources resources where
  engines := List.take_length
  history := ⟨[], rfl, Settled.nil (Nat.le_refl _)⟩
  fixed_eq := rfl

theorem trans (earlier : Grown older first second) (later : Grown newer second third) :
    Grown (newer ++ older) first third := by
  obtain ⟨before, journal, settledBefore⟩ := earlier.history
  obtain ⟨after, rest, settledAfter⟩ := later.history
  refine ⟨?_, ⟨after ++ before, ?_, settledBefore.append settledAfter⟩,
    later.fixed_eq.trans earlier.fixed_eq⟩
  · rw [← Nat.min_eq_left settledBefore.grows, ← List.take_take, later.engines, earlier.engines]
  · rw [rest, journal, List.append_assoc]

/-- An engine that is held is none of those that there were. -/
theorem held_bounds {engine : Nat} (grown : Grown held first second) (member : engine ∈ held) :
    first.engines.length ≤ engine ∧ engine < second.engines.length := by
  obtain ⟨events, _, settled⟩ := grown.history
  exact settled.recent engine (settled.attached_of_held member)

theorem retire {engine : Nat} (grown : Grown (engine :: held) first second) :
    Grown held first (second.retireEngine engine) := by
  obtain ⟨events, journal, settled⟩ := grown.history
  refine ⟨?_, ⟨.retired engine :: events, ?_, ?_⟩, grown.fixed_eq⟩
  · show (second.engines.modify engine Engine.retire).take _ = _
    rw [List.take_modify, List.modify_eq_self, grown.engines]
    exact Nat.le_trans (List.length_take_le _ _)
      (grown.held_bounds List.mem_cons_self).1
  · show .retired engine :: second.journal = _
    rw [journal]
    rfl
  · show Settled held _ (second.engines.modify engine Engine.retire).length _
    rw [List.length_modify]
    exact settled.retire

end Grown

/-- Retiring the engine that is held touches nothing else. -/
theorem retire_held {engine : Option Nat} {before after : Resources}
    (grown : Grown engine.toList before after) :
    Grown [] before (engine.elim after after.retireEngine) ∧
      (engine.elim after after.retireEngine).ids = after.ids ∧
      (engine.elim after after.retireEngine).ports = after.ports ∧
      (engine.elim after after.retireEngine).fabric = after.fabric := by
  cases engine with
  | none => exact ⟨grown, rfl, rfl, rfl⟩
  | some engine => exact ⟨grown.retire, rfl, rfl, rfl⟩

/-- Closing the socket that is held restores the network and touches nothing else. -/
theorem close_held {socket : Option Endpoint} {before after : Resources}
    (grown : Grown [] before after)
    (held : socket.elim (after.fabric = before.fabric) fun address =>
      after.fabric.close address = before.fabric) :
    Grown [] before (socket.elim after after.closeSocket) ∧
      (socket.elim after after.closeSocket).fabric = before.fabric ∧
      (socket.elim after after.closeSocket).ids = after.ids ∧
      (socket.elim after after.closeSocket).ports = after.ports := by
  cases socket with
  | none => exact ⟨grown, held, rfl, rfl⟩
  | some address => exact ⟨⟨grown.engines, grown.history, grown.fixed_eq⟩, held, rfl, rfl⟩

/-- Giving back the port that is held restores the ports and touches nothing else. -/
theorem releasePort_held {port : Option UInt16} {before after : Resources}
    (grown : Grown [] before after)
    (held : port.elim (before.ports.SameTaken after.ports) fun port =>
      before.ports.Lent port after.ports) :
    Grown [] before (port.elim after after.releasePort) ∧
      before.ports.SameTaken (port.elim after after.releasePort).ports ∧
      (port.elim after after.releasePort).ids = after.ids ∧
      (port.elim after after.releasePort).fabric = after.fabric := by
  cases port with
  | none => exact ⟨grown, held, rfl, rfl⟩
  | some port =>
    obtain ⟨ports, released, restored⟩ := held (MediaPorts.SameTaken.refl _)
    have given : after.releasePort port = { after with ports := ports } := by
      rw [releasePort, released]
    rw [Option.elim_some, given]
    exact ⟨⟨grown.engines, grown.history, grown.fixed_eq⟩, restored, rfl, rfl⟩

theorem Unwound.refl (resources : Resources) : resources.Unwound resources :=
  ⟨SessionIds.SameTaken.refl _, MediaPorts.SameTaken.refl _, rfl, Grown.refl _⟩

theorem Unwound.trans {first second third : Resources} (earlier : first.Unwound second)
    (later : second.Unwound third) : first.Unwound third :=
  ⟨earlier.ids.trans later.ids, earlier.ports.trans later.ports,
    later.fabric_eq.trans earlier.fabric_eq, earlier.grown.trans later.grown⟩

end Resources

/-! ## Holding and giving back -/

/-- `after` is `before` with exactly that taken which the fields of the session name. -/
structure Session.Holds (session : Session) (before after : Resources) : Prop where
  open_ : session.stage ≠ .complete
  owns : session.ownsId = true
  id : before.ids.Lent session.id after.ids
  port : session.port.elim (before.ports.SameTaken after.ports) fun port =>
    before.ports.Lent port after.ports
  socket : session.socket.elim (after.fabric = before.fabric) fun address =>
    after.fabric.close address = before.fabric
  grown : Resources.Grown session.engine.toList before after

namespace Session.Holds

variable {session : Session} {before after later : Resources}

/-- What others draw and give back in between does not matter. -/
theorem unwound (holds : session.Holds before after) (rest : after.Unwound later) :
    session.Holds before later where
  open_ := holds.open_
  owns := holds.owns
  id := holds.id.of_sameTaken (SessionIds.SameTaken.refl _) rest.ids
  port := by
    have port := holds.port
    cases named : session.port with
    | none =>
      rw [named] at port
      exact port.trans rest.ports
    | some number =>
      rw [named] at port
      exact port.of_sameTaken (MediaPorts.SameTaken.refl _) rest.ports
  socket := by
    rw [rest.fabric_eq]
    exact holds.socket
  grown := holds.grown.trans rest.grown

/-- **Destroying a session gives back exactly what it holds.** -/
theorem destroy (holds : session.Holds before after) :
    before.Unwound (session.destroy after).2 := by
  obtain ⟨isOpen, owns, id, port, socket, grown⟩ := holds
  simp only [Session.destroy, if_neg isOpen, owns, if_true]
  obtain ⟨grown, sameIds, samePorts, sameFabric⟩ := Resources.retire_held grown
  generalize session.engine.elim after after.retireEngine = retired at *
  rw [← sameFabric] at socket
  obtain ⟨grown, fabric_eq, sameIds', samePorts'⟩ := Resources.close_held grown socket
  generalize session.socket.elim retired retired.closeSocket = closed at *
  rw [← samePorts, ← samePorts'] at port
  obtain ⟨grown, ports, sameIds'', sameFabric'⟩ := Resources.releasePort_held grown port
  generalize session.port.elim closed closed.releasePort = returned at *
  rw [← sameIds, ← sameIds', ← sameIds''] at id
  obtain ⟨ids, released, restored⟩ := id (SessionIds.SameTaken.refl _)
  rw [Resources.releaseId, released]
  exact ⟨restored, ports, sameFabric'.trans fabric_eq, grown.engines, grown.history,
    grown.fixed_eq⟩

end Session.Holds

/-! ## Sound supplies -/

namespace Resources

/-- Supplies whose ranges fit their words and whose pools are sound. -/
structure Sound (resources : Resources) : Prop where
  ids : resources.ids.Sound
  ports : resources.ports.Sound

theorem Sound.releasePort {resources : Resources} (sound : resources.Sound) (port : UInt16) :
    (resources.releasePort port).Sound := by
  rw [Resources.releasePort]
  split
  · next ports released => exact ⟨sound.ids, MediaPorts.Sound.release released sound.ports⟩
  · exact ⟨sound.ids, sound.ports⟩

theorem Sound.releaseId {resources : Resources} (sound : resources.Sound) (id : SessionId) :
    (resources.releaseId id).Sound := by
  rw [Resources.releaseId]
  split
  · next ids released => exact ⟨SessionIds.Sound.release released sound.ids, sound.ports⟩
  · exact ⟨sound.ids, sound.ports⟩

theorem Sound.elim {α : Type} {resources : Resources} (sound : resources.Sound)
    (held : Option α) {give : α → Resources} (keeps : ∀ value, (give value).Sound) :
    (held.elim resources give).Sound := by
  cases held with
  | none => exact sound
  | some value => exact keeps value

theorem Sound.destroy {resources : Resources} (sound : resources.Sound) (session : Session) :
    (session.destroy resources).2.Sound := by
  rw [Session.destroy]
  split
  · exact sound
  · dsimp only
    have soundRetired : (session.engine.elim resources resources.retireEngine).Sound :=
      sound.elim session.engine fun _ => ⟨sound.ids, sound.ports⟩
    generalize session.engine.elim resources resources.retireEngine = retired at *
    have soundClosed : (session.socket.elim retired retired.closeSocket).Sound :=
      soundRetired.elim session.socket fun _ => ⟨soundRetired.ids, soundRetired.ports⟩
    generalize session.socket.elim retired retired.closeSocket = closed at *
    have soundReturned : (session.port.elim closed closed.releasePort).Sound :=
      soundClosed.elim session.port soundClosed.releasePort
    split
    · exact soundReturned.releaseId session.id
    · exact soundReturned

end Resources

end FaxRelay
