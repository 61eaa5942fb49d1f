import FaxRelay.Proofs.HangUp
import FaxRelay.Proofs.SetUp
import FaxRelay.Proofs.Traffic

/-!
# The sockets of the sessions

Every live session has a socket of its own, which the relay holds open, and the
network reports it under the number of the session (`Table.Wired`). A closed
slot has neither, so a report leads to at most one slot, and what arrives at an
endpoint is for at most one session.

An endpoint is bound only when nobody has it, so a new session shares its socket
with no other; and destroying a call closes the sockets of its two legs only.
-/

set_option autoImplicit false

namespace FaxRelay

open FaxRelay.Media FaxRelay.Net FaxRelay.Pool FaxRelay.Signal

/-- What is picked from a list without repetition is picked from one value only. -/
theorem eq_of_pick {α β : Type} {pick : α → Option β} {list : List α}
    (nodup : (list.filterMap pick).Nodup) {first second : α} {value : β} (left : first ∈ list)
    (right : second ∈ list) (leftPick : pick first = some value)
    (rightPick : pick second = some value) : first = second := by
  obtain ⟨place, leftPlace⟩ := List.getElem?_of_mem left
  obtain ⟨place', rightPlace⟩ := List.getElem?_of_mem right
  obtain rfl := place_unique nodup leftPlace rightPlace leftPick rightPick
  exact Option.some.inj (leftPlace.symm.trans rightPlace)

namespace Table

/-- The sockets of the live sessions. -/
def sockets (table : Table) : List Endpoint := table.gists.filterMap Session.socket

/-- Every live session has a socket to itself, the relay holds it open, and it is reported under
the number of the session. -/
structure Wired (table : Table) (fabric : Fabric) : Prop where
  nodup : table.sockets.Nodup
  held : ∀ address ∈ table.sockets, fabric.holder? address = some .relay
  labeled : ∀ slot ∈ table.slots, slot.isLive = true →
    slot.descriptor.token = some slot.session.id

namespace Wired

variable {table after : Table} {fabric later : Fabric}

theorem empty (capacity : Nat) (fabric : Fabric) : (Table.empty capacity).Wired fabric where
  nodup := List.Pairwise.nil
  held _ member := by cases member
  labeled _ member := by cases member

theorem of_keeps (wired : table.Wired fabric) (keeps : fabric.Keeps later) : table.Wired later :=
  ⟨wired.nodup, fun address member => keeps address (wired.held address member), wired.labeled⟩

theorem of_gists (wired : table.Wired fabric) (same : after.gists = table.gists)
    (labeled : ∀ slot ∈ after.slots, slot.isLive = true →
      slot.descriptor.token = some slot.session.id) : after.Wired fabric := by
  have sockets : after.sockets = table.sockets := congrArg (List.filterMap Session.socket) same
  exact ⟨sockets ▸ wired.nodup, sockets ▸ wired.held, labeled⟩

theorem of_sameOutline (wired : table.Wired fabric) (same : table.SameOutline after) :
    after.Wired fabric := by
  refine wired.of_gists same.gists_eq fun slot member live => ?_
  obtain ⟨place, found⟩ := List.getElem?_of_mem member
  obtain ⟨old, foundOld, outline⟩ := same.slot_before found
  obtain ⟨gist, lives⟩ := Slot.of_outline_eq outline
  have token : slot.descriptor.token = old.descriptor.token :=
    congrArg (fun slot => slot.descriptor.token) outline
  have id : slot.session.id = old.session.id := by
    show slot.session.gist.id = old.session.gist.id
    rw [gist]
  rw [token, id]
  exact wired.labeled old (List.mem_of_getElem? foundOld) (lives ▸ live)

/-- No two live sessions have the same socket. -/
theorem gist_eq (wired : table.Wired fabric) {first second : Session} {address : Endpoint}
    (left : first ∈ table.gists) (right : second ∈ table.gists)
    (leftHas : first.socket = some address) (rightHas : second.socket = some address) :
    first = second := eq_of_pick wired.nodup left right leftHas rightHas

/-! ## Filling and closing slots -/

/-- A session on an endpoint that was just bound may be appended. -/
theorem append (wired : table.Wired fabric) {session : Session} {address : Endpoint}
    (has : session.socket = some address) (bound : fabric.bind .relay address = .ok later) :
    (table.append session).Wired later := by
  have sockets : (table.append session).sockets = table.sockets ++ [address] := by
    rw [Table.sockets, gists_append, List.filterMap_append, Table.sockets]
    exact congrArg (table.sockets ++ ·) (List.filterMap_cons_some has)
  refine ⟨?_, ?_, ?_⟩
  · rw [sockets]
    refine nodup_concat wired.nodup fun member => ?_
    have held := wired.held address member
    rw [Fabric.holder?, (Fabric.bind_eq_ok bound).1] at held
    cases held
  · intro other member
    rw [sockets] at member
    rw [Fabric.holder?_bind bound]
    split
    · rfl
    · next differs =>
      rcases List.mem_append.mp member with member | member
      · exact wired.held other member
      · exact absurd (List.mem_singleton.mp member) differs
  · intro slot member live
    rcases List.mem_append.mp member with member | member
    · exact wired.labeled slot member live
    · cases List.mem_singleton.mp member
      simp [Descriptor.opened, Session.token?, has]

/-- The sockets of a call that was hung up are no longer those of a live session. -/
theorem socket_hangUp (wired : table.Wired fabric) {callId : CallId} {leg : Session}
    {address : Endpoint} (member : leg ∈ table.gists) (names : leg.callId = some callId)
    (has : leg.socket = some address) : address ∉ (table.hangUp callId).sockets := by
  intro still
  obtain ⟨other, otherMember, otherHas⟩ := List.mem_filterMap.mp still
  rw [gists_hangUp] at otherMember
  obtain ⟨otherMember, stranger⟩ := List.mem_filter.mp otherMember
  obtain rfl := wired.gist_eq member otherMember has otherHas
  exact of_decide_eq_true stranger names

theorem mem_sockets_hangUp {callId : CallId} {address : Endpoint}
    (member : address ∈ (table.hangUp callId).sockets) : address ∈ table.sockets := by
  obtain ⟨leg, legMember, has⟩ := List.mem_filterMap.mp member
  rw [gists_hangUp] at legMember
  exact List.mem_filterMap.mpr ⟨leg, (List.mem_filter.mp legMember).1, has⟩

/-- When a call is hung up, sockets may be closed that no session has any more. -/
theorem hangUp (wired : table.Wired fabric) (callId : CallId)
    (spares : ∀ address ∈ (table.hangUp callId).sockets,
      later.holder? address = fabric.holder? address) : (table.hangUp callId).Wired later where
  nodup := by
    refine wired.nodup.sublist ?_
    rw [sockets, gists_hangUp]
    exact List.filter_sublist.filterMap _
  held address member := by
    rw [spares address member]
    exact wired.held address (mem_sockets_hangUp member)
  labeled slot member live := by
    obtain ⟨old, oldMember, rfl⟩ := List.mem_map.mp member
    rw [Slot.hangUp] at live ⊢
    by_cases isOf : old.isOf callId = true
    · rw [if_pos isOf] at live
      cases live
    · rw [if_neg isOf] at live ⊢
      exact wired.labeled old oldMember live

end Wired

end Table

/-! ## Destroying a session -/

namespace Resources

variable (resources : Resources)

theorem fabric_releasePort (port : UInt16) :
    (resources.releasePort port).fabric = resources.fabric := by
  rw [releasePort]
  split <;> rfl

theorem fabric_releaseId (id : SessionId) :
    (resources.releaseId id).fabric = resources.fabric := by
  rw [releaseId]
  split <;> rfl

theorem fabric_elim {α : Type} (held : Option α) {give : α → Resources}
    (keeps : ∀ value, (give value).fabric = resources.fabric) :
    (held.elim resources give).fabric = resources.fabric := by
  cases held with
  | none => rfl
  | some value => exact keeps value

/-- Giving back a port and a number concerns the pools only. -/
theorem fabric_giveBack (port : Option UInt16) (owns : Bool) (id : SessionId) :
    (if owns = true then (port.elim resources resources.releasePort).releaseId id
      else port.elim resources resources.releasePort).fabric = resources.fabric := by
  have returned := resources.fabric_elim port resources.fabric_releasePort
  split
  · rw [fabric_releaseId, returned]
  · exact returned

end Resources

/-- Destroying a session closes no socket but its own. -/
theorem Session.fabric_destroy (session : Session) (resources : Resources) :
    (session.destroy resources).2.fabric = resources.fabric ∨
      ∃ address, session.socket = some address ∧
        (session.destroy resources).2.fabric = resources.fabric.close address := by
  rw [destroy]
  split
  · exact .inl rfl
  dsimp only
  have retired : (session.engine.elim resources resources.retireEngine).fabric =
      resources.fabric := resources.fabric_elim session.engine fun _ => rfl
  generalize session.engine.elim resources resources.retireEngine = freed at *
  rw [Resources.fabric_giveBack, ← retired]
  cases session.socket with
  | none => exact .inl rfl
  | some address => exact .inr ⟨address, rfl, rfl⟩

section Destroying

variable (session : Session) (resources : Resources) {address : Endpoint}
variable (apart : session.socket ≠ some address)
include apart

theorem Session.holder?_destroy :
    (session.destroy resources).2.fabric.holder? address = resources.fabric.holder? address := by
  rcases session.fabric_destroy resources with same | ⟨own, has, closed⟩
  · rw [same]
  · have differs : address ≠ own := by
      rintro rfl
      exact apart has
    rw [closed, Fabric.holder?_close, if_neg differs]

theorem Session.queue_destroy :
    (session.destroy resources).2.fabric.queue address = resources.fabric.queue address := by
  rcases session.fabric_destroy resources with same | ⟨own, has, closed⟩
  · rw [same]
  · have differs : address ≠ own := by
      rintro rfl
      exact apart has
    rw [closed, Fabric.queue_close_ne differs]

end Destroying

/-! ## Opening legs -/

/-- A leg that was opened has the socket that was bound for it. -/
theorem Session.openMedia_socket {id : SessionId} {role : Role} {direction : Direction}
    {index : Nat} {callId : CallId} {remote : Option Endpoint} {before after : Resources}
    {session : Session}
    (opened : (Session.fresh id role direction index).openMedia callId remote before =
      (.ok (), session, after)) :
    ∃ address, session.socket = some address ∧
      before.fabric.bind .relay address = .ok after.fabric := by
  rw [Session.openMedia] at opened
  split at opened
  · cases opened
  split at opened
  · cases opened
  dsimp only at opened
  split at opened
  · cases opened
  next port ports _ =>
  rcases Session.bindSocket_cases { Session.fresh id role direction index with
      callId := some callId, remote := remote, port := some port } rfl
    ⟨before.mediaIp, port⟩ { before with ports := ports } with
    ⟨fault, refused⟩ | ⟨fabric, free, bound⟩
  · rw [refused] at opened
    cases opened
  rw [bound] at opened
  dsimp only at opened
  rcases Session.equip_cases _ callId ⟨before.mediaIp, port⟩
      { before with ports := ports, fabric := fabric } with
    ⟨fault, equipped, refused, _⟩ | ⟨equipped, accepted, ⟨_, _, fabric_eq⟩, _⟩
  · rw [refused] at opened
    cases opened
  · rw [accepted] at opened
    cases opened
    exact ⟨_, rfl, fabric_eq ▸ free⟩

namespace Exchange

theorem openLeg_socket {role : Role} {index : Nat} {direction : Direction} {callId : CallId}
    {remote : Option Endpoint} {before after : Resources} {session : Session}
    (made : openLeg role index direction callId remote before = (.ok session, after)) :
    ∃ address, session.socket = some address ∧
      before.fabric.bind .relay address = .ok after.fabric := by
  rw [openLeg] at made
  split at made
  · cases made
  next created =>
  obtain ⟨_, id, ids, _, rfl, rfl⟩ := Session.create_eq_ok created
  split at made
  · next opened =>
    cases made
    obtain ⟨address, has, bound⟩ := Session.openMedia_socket opened
    exact ⟨address, has, bound⟩
  · cases made

/-- The two legs of a call have the sockets that were bound for them one after the other. -/
theorem openLegs_sockets {role : Role} {base : Nat} {setup : Setup} {before after : Resources}
    {inbound outbound : Session}
    (made : openLegs role base setup before = (.ok (inbound, outbound), after)) :
    ∃ first second middle, inbound.socket = some first ∧ outbound.socket = some second ∧
      before.fabric.bind .relay first = .ok middle ∧
      middle.bind .relay second = .ok after.fabric := by
  rw [openLegs] at made
  split at made
  · cases made
  next opened =>
  obtain ⟨first, has, bound⟩ := openLeg_socket opened
  split at made
  · cases made
  next opened' =>
  obtain ⟨second, has', bound'⟩ := openLeg_socket opened'
  split at made
  · next legs joined =>
    cases made
    rw [join, Session.link] at joined
    split at joined
    · cases joined
    next linked =>
    split at linked
    · cases linked
    cases linked
    rw [Session.startBridge] at joined
    split at joined
    · cases joined
    split at joined
    · cases joined
    split at joined
    · cases joined
      exact ⟨first, second, _, has, has', bound, bound'⟩
    · cases joined
  · cases made

end Exchange

end FaxRelay
