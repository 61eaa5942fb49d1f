import FaxRelay.Proofs.Holdings

/-!
# The ledger

The ledger of a list of sessions says that what is taken of the resources is
what these sessions have, each thing in one hand only, and that of the engines
that were ever attached exactly theirs were not retired.

A session that holds what was drawn on the resources is entered into the ledger
at the end; a session that is destroyed leaves it, from wherever it stands.
-/

set_option autoImplicit false

namespace FaxRelay

open FaxRelay.Media FaxRelay.Net FaxRelay.Pool FaxRelay.Signal

/-! ## Lists without repetition -/

section Lists

variable {α : Type} {front back list : List α} {value other : α}

theorem nodup_remove (nodup : (front ++ value :: back).Nodup) : (front ++ back).Nodup :=
  (List.nodup_cons.mp (List.perm_middle.nodup_iff.mp nodup)).2

theorem mem_remove (nodup : (front ++ value :: back).Nodup) :
    other ∈ front ++ back ↔ other ≠ value ∧ other ∈ front ++ value :: back := by
  have fresh := (List.nodup_cons.mp (List.perm_middle.nodup_iff.mp nodup)).1
  rw [List.perm_middle.mem_iff, List.mem_cons]
  constructor
  · intro member
    exact ⟨fun same => fresh (same ▸ member), .inr member⟩
  · rintro ⟨differs, same | member⟩
    · exact absurd same differs
    · exact member

theorem nodup_concat (nodup : list.Nodup) (fresh : value ∉ list) : (list ++ [value]).Nodup :=
  (List.perm_append_singleton value list).nodup_iff.mpr (List.nodup_cons.mpr ⟨fresh, nodup⟩)

end Lists

namespace Resources

/-- Exactly these numbers and ports are taken, none of them twice, and exactly these engines are
in use; the engines in the order in which they were made. -/
structure Taken (ids : List SessionId) (ports : List UInt16) (engines : List Nat)
    (resources : Resources) : Prop where
  sound : resources.Sound
  ids_iff : ∀ id, resources.ids.isAllocated id = true ↔ id ∈ ids
  ids_nodup : ids.Nodup
  ports_iff : ∀ port, resources.ports.isAllocated port = true ↔ port ∈ ports
  ports_nodup : ports.Nodup
  settled : Settled engines 0 resources.engines.length resources.journal
  engines_ordered : engines.Pairwise (· < ·)

namespace Taken

variable {ids : List SessionId} {ports : List UInt16} {engines : List Nat}
variable {resources before after : Resources}

/-! ## Giving back -/

theorem retire {front back : List Nat} {engine : Nat}
    (taken : Taken ids ports (front ++ engine :: back) resources) :
    Taken ids ports (front ++ back) (resources.retireEngine engine) where
  sound := ⟨taken.sound.ids, taken.sound.ports⟩
  ids_iff := taken.ids_iff
  ids_nodup := taken.ids_nodup
  ports_iff := taken.ports_iff
  ports_nodup := taken.ports_nodup
  settled := by
    show Settled _ 0 (resources.engines.modify engine Engine.retire).length _
    rw [List.length_modify]
    exact (taken.settled.perm List.perm_middle).retire
  engines_ordered :=
    taken.engines_ordered.sublist ((List.sublist_cons_self engine back).append_left front)

theorem closeSocket (taken : Taken ids ports engines resources) (address : Endpoint) :
    Taken ids ports engines (resources.closeSocket address) :=
  ⟨⟨taken.sound.ids, taken.sound.ports⟩, taken.ids_iff, taken.ids_nodup, taken.ports_iff,
    taken.ports_nodup, taken.settled, taken.engines_ordered⟩

theorem releasePort {front back : List UInt16} {port : UInt16}
    (taken : Taken ids (front ++ port :: back) engines resources) :
    Taken ids (front ++ back) engines (resources.releasePort port) := by
  have allocated : resources.ports.isAllocated port = true :=
    (taken.ports_iff port).mpr (List.mem_append_right _ (List.mem_cons_self ..))
  obtain ⟨rest, released⟩ := MediaPorts.release_of_isAllocated allocated
  have given : resources.releasePort port = { resources with ports := rest } := by
    rw [Resources.releasePort, released]
  rw [given]
  refine ⟨⟨taken.sound.ids, MediaPorts.Sound.release released taken.sound.ports⟩, taken.ids_iff,
    taken.ids_nodup, fun other => ?_, nodup_remove taken.ports_nodup, taken.settled,
    taken.engines_ordered⟩
  rw [mem_remove taken.ports_nodup, ← taken.ports_iff, MediaPorts.isAllocated_release released]
  simp

theorem releaseId {front back : List SessionId} {id : SessionId}
    (taken : Taken (front ++ id :: back) ports engines resources) :
    Taken (front ++ back) ports engines (resources.releaseId id) := by
  have allocated : resources.ids.isAllocated id = true :=
    (taken.ids_iff id).mpr (List.mem_append_right _ (List.mem_cons_self ..))
  obtain ⟨rest, released⟩ := SessionIds.release_of_isAllocated allocated
  have given : resources.releaseId id = { resources with ids := rest } := by
    rw [Resources.releaseId, released]
  rw [given]
  refine ⟨⟨SessionIds.Sound.release released taken.sound.ids, taken.sound.ports⟩, fun other => ?_,
    nodup_remove taken.ids_nodup, taken.ports_iff, taken.ports_nodup, taken.settled,
    taken.engines_ordered⟩
  rw [mem_remove taken.ids_nodup, ← taken.ids_iff, SessionIds.isAllocated_release released]
  simp

/-! ## Drawing -/

theorem hold_id (taken : Taken ids ports engines before) {id : SessionId}
    (held : before.ids.Lent id after.ids) :
    (∀ other, after.ids.isAllocated other = true ↔ other ∈ ids ++ [id]) ∧ (ids ++ [id]).Nodup := by
  obtain ⟨free, allocated⟩ := held.isAllocated
  have absent : id ∉ ids := by
    rw [← taken.ids_iff, free]
    exact Bool.false_ne_true
  refine ⟨fun other => ?_, nodup_concat taken.ids_nodup absent⟩
  rw [allocated, Bool.or_eq_true, decide_eq_true_iff, taken.ids_iff, List.mem_append,
    List.mem_singleton]
  exact or_comm

theorem hold_port (taken : Taken ids ports engines before) {port : Option UInt16}
    (held : port.elim (before.ports.SameTaken after.ports) fun port =>
      before.ports.Lent port after.ports) :
    (∀ other, after.ports.isAllocated other = true ↔ other ∈ ports ++ port.toList) ∧
      (ports ++ port.toList).Nodup := by
  cases port with
  | none =>
    rw [Option.toList_none, List.append_nil]
    refine ⟨fun other => ?_, taken.ports_nodup⟩
    rw [held.isAllocated]
    exact taken.ports_iff other
  | some port =>
    obtain ⟨free, allocated⟩ := MediaPorts.Lent.isAllocated held
    have absent : port ∉ ports := by
      rw [← taken.ports_iff, free]
      exact Bool.false_ne_true
    refine ⟨fun other => ?_, nodup_concat taken.ports_nodup absent⟩
    rw [allocated, Bool.or_eq_true, decide_eq_true_iff, taken.ports_iff, Option.toList_some,
      List.mem_append, List.mem_singleton]
    exact or_comm

theorem hold_engine (taken : Taken ids ports engines before) {engine : Option Nat}
    (grown : Grown engine.toList before after) :
    Settled (engines ++ engine.toList) 0 after.engines.length after.journal ∧
      (engines ++ engine.toList).Pairwise (· < ·) := by
  obtain ⟨events, journal, settled⟩ := grown.history
  constructor
  · rw [journal]
    exact (taken.settled.append settled).perm List.perm_append_comm
  · refine List.pairwise_append.mpr ⟨taken.engines_ordered, ?_, fun old member new held => ?_⟩
    · cases engine with
      | none => exact List.Pairwise.nil
      | some engine => exact List.pairwise_singleton _ _
    · -- Engines are numbered as they are made, so a new one is behind all that are in use.
      have upper := (taken.settled.recent old (taken.settled.attached_of_held member)).2
      have lower := (grown.held_bounds held).1
      omega

/-- What was drawn and given back again leaves the ledger as it was. -/
theorem unwound (taken : Taken ids ports engines before) (unwound : before.Unwound after)
    (sound : after.Sound) : Taken ids ports engines after where
  sound := sound
  ids_iff id := by
    rw [unwound.ids.isAllocated]
    exact taken.ids_iff id
  ids_nodup := taken.ids_nodup
  ports_iff port := by
    rw [unwound.ports.isAllocated]
    exact taken.ports_iff port
  ports_nodup := taken.ports_nodup
  settled := by
    obtain ⟨events, journal, settled⟩ := unwound.grown.history
    rw [journal]
    exact taken.settled.append settled
  engines_ordered := taken.engines_ordered

end Taken

end Resources

/-- What is taken of the resources is what these sessions have. -/
def Ledger (sessions : List Session) (resources : Resources) : Prop :=
  resources.Taken (sessions.map Session.id) (sessions.filterMap Session.port)
    (sessions.filterMap Session.engine)

namespace Ledger

variable {sessions : List Session} {session : Session} {resources before after : Resources}

theorem filterMap_concat {α : Type} (sessions : List Session) (session : Session)
    (field : Session → Option α) :
    (sessions ++ [session]).filterMap field =
      sessions.filterMap field ++ (field session).toList := by
  rw [List.filterMap_append]
  cases named : field session <;> simp [named]

/-- **A session that holds what was drawn is entered into the ledger.** -/
theorem enter (ledger : Ledger sessions before) (holds : session.Holds before after)
    (sound : after.Sound) : Ledger (sessions ++ [session]) after := by
  obtain ⟨ids_iff, ids_nodup⟩ := ledger.hold_id holds.id
  obtain ⟨ports_iff, ports_nodup⟩ := ledger.hold_port holds.port
  obtain ⟨settled, engines_ordered⟩ := ledger.hold_engine holds.grown
  unfold Ledger
  rw [filterMap_concat, filterMap_concat, List.map_append]
  exact ⟨sound, ids_iff, ids_nodup, ports_iff, ports_nodup, settled, engines_ordered⟩

/-- **A session that is destroyed leaves the ledger.** -/
theorem leave {front back : List Session} (ledger : Ledger (front ++ session :: back) resources)
    (isOpen : session.stage ≠ .complete) (owns : session.ownsId = true) :
    Ledger (front ++ back) (session.destroy resources).2 := by
  unfold Ledger at ledger ⊢
  simp only [Session.destroy, if_neg isOpen, owns, if_true]
  simp only [List.map_append, List.filterMap_append, List.map_cons] at ledger ⊢
  -- What is given back goes in the order of the destruction: engine, socket, port, number. Each
  -- intermediate state is forgotten once it is known what is still taken there.
  have retired : (session.engine.elim resources resources.retireEngine).Taken
      (front.map Session.id ++ session.id :: back.map Session.id)
      (front.filterMap Session.port ++ (session :: back).filterMap Session.port)
      (front.filterMap Session.engine ++ back.filterMap Session.engine) := by
    cases named : session.engine with
    | none =>
      rw [List.filterMap_cons_none named] at ledger
      exact ledger
    | some engine =>
      rw [List.filterMap_cons_some named] at ledger
      exact ledger.retire
  generalize session.engine.elim resources resources.retireEngine = freed at *
  have closed : (session.socket.elim freed freed.closeSocket).Taken
      (front.map Session.id ++ session.id :: back.map Session.id)
      (front.filterMap Session.port ++ (session :: back).filterMap Session.port)
      (front.filterMap Session.engine ++ back.filterMap Session.engine) := by
    cases session.socket with
    | none => exact retired
    | some address => exact retired.closeSocket address
  generalize session.socket.elim freed freed.closeSocket = unbound at *
  have returned : (session.port.elim unbound unbound.releasePort).Taken
      (front.map Session.id ++ session.id :: back.map Session.id)
      (front.filterMap Session.port ++ back.filterMap Session.port)
      (front.filterMap Session.engine ++ back.filterMap Session.engine) := by
    cases named : session.port with
    | none =>
      rw [List.filterMap_cons_none named] at closed
      exact closed
    | some port =>
      rw [List.filterMap_cons_some named] at closed
      exact closed.releasePort
  exact returned.releaseId

/-- Two sessions that stand together leave the ledger in either order. -/
theorem leave_pair {front back : List Session} {first second : Session}
    (ledger : Ledger (front ++ first :: second :: back) resources)
    (firstOpen : first.stage ≠ .complete) (firstOwns : first.ownsId = true)
    (secondOpen : second.stage ≠ .complete) (secondOwns : second.ownsId = true) :
    Ledger (front ++ back) (second.destroy (first.destroy resources).2).2 ∧
      Ledger (front ++ back) (first.destroy (second.destroy resources).2).2 := by
  constructor
  · exact (ledger.leave firstOpen firstOwns).leave secondOpen secondOwns
  · rw [List.append_cons front first] at ledger
    have without := ledger.leave secondOpen secondOwns
    rw [← List.append_cons] at without
    exact without.leave firstOpen firstOwns

end Ledger

end FaxRelay
