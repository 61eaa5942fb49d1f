import FaxRelay.Proofs.Invariants

/-!
# The sockets that the relay holds

The relay holds no socket but those of its live sessions, apart from what it
held before the gateway started (`Exchange.Holds`). A setup that succeeds enters
both sockets that it opens into the table, with the legs that have them; one
that fails has closed what it opened; and when a call is destroyed, both of its
sockets are closed.

Together with the wiring of the table, where every live session has a socket of
its own, this says that there are exactly as many sockets as live sessions.
-/

set_option autoImplicit false

namespace FaxRelay

open FaxRelay.Media FaxRelay.Net FaxRelay.Pool FaxRelay.Signal

/-! ## Closing sockets -/

/-- Destroying an open session closes its socket. -/
theorem Session.holder?_destroy_self {session : Session} {address : Endpoint}
    (isOpen : session.stage ≠ .complete) (has : session.socket = some address)
    (resources : Resources) :
    (session.destroy resources).2.fabric.holder? address = none := by
  rw [destroy, if_neg isOpen]
  dsimp only
  rw [Resources.fabric_giveBack, has]
  exact (Fabric.holder?_close address address).trans (if_pos rfl)

/-- Destroying a session opens no socket. -/
theorem Session.held_of_destroy {session : Session} {resources : Resources} {address : Endpoint}
    {holder : Holder}
    (held : (session.destroy resources).2.fabric.holder? address = some holder) :
    resources.fabric.holder? address = some holder := by
  rcases session.fabric_destroy resources with same | ⟨own, _, closed⟩
  · rwa [same] at held
  · rw [closed, Fabric.holder?_close] at held
    split at held
    · cases held
    · exact held

/-- Others do not open sockets for the relay. -/
theorem Net.Fabric.Outside.held {before after : Fabric} (moved : before.Outside after)
    {address : Endpoint} (held : after.holder? address = some .relay) :
    before.holder? address = some .relay := by
  cases moved with
  | policy => exact held
  | opened bound =>
    rw [Fabric.holder?_bind bound] at held
    split at held
    · cases held
    · exact held
  | closed found foreign =>
    rw [Fabric.holder?_close] at held
    split at held
    · cases held
    · exact held
  | arrived other arrival =>
    have same : (before.deliver other arrival).holder? address = before.holder? address :=
      Fabric.holder?_update other address fun _ => rfl
    exact same.symm.trans held
  | taken other =>
    have same : (before.receive other).2.holder? address = before.holder? address :=
      Fabric.holder?_update other address fun _ => rfl
    exact same.symm.trans held

/-! ## Whose sockets are open -/

namespace Exchange

/-- The relay holds no socket but those of its live sessions, and those that it held before. -/
def Holds (earlier : Fabric) (exchange : Exchange) : Prop :=
  ∀ address, exchange.resources.fabric.holder? address = some .relay →
    address ∈ exchange.table.sockets ∨ earlier.holder? address = some .relay

variable {exchange : Exchange} {earlier : Fabric}

/-- Destroying the call of a live leg closes the sockets of its two legs. -/
theorem Sound.held_destroyCall (sound : exchange.Sound) {index : Nat} {slot : Slot}
    (found : exchange.table.slots[index]? = some slot) (behind : 0 < index)
    (live : slot.isLive = true) {address : Endpoint}
    (held : (exchange.destroyCall index).2.resources.fabric.holder? address = some .relay) :
    exchange.resources.fabric.holder? address = some .relay ∧
      (address ∈ exchange.table.sockets →
        address ∈ (exchange.destroyCall index).2.table.sockets) := by
  obtain ⟨callId, partner, before, after, established, established', others, legs, destroyed⟩ :=
    sound.table.destroyCall_leg sound.ledger.ids_nodup found behind live
  have ended : (exchange.destroyCall index).2 =
      { exchange with
        table := exchange.table.hangUp callId
        resources :=
          (partner.destroy (slot.session.gist.destroy exchange.resources).2).2 } := by
    rw [Exchange.destroyCall, destroyed]
  rw [ended] at held ⊢
  dsimp only at held ⊢
  have heldBetween := Session.held_of_destroy held
  refine ⟨Session.held_of_destroy heldBetween, fun member => ?_⟩
  obtain ⟨leg, legMember, has⟩ := List.mem_filterMap.mp member
  refine List.mem_filterMap.mpr ⟨leg, ?_, has⟩
  rw [Table.gists_hangUp]
  refine List.mem_filter.mpr ⟨legMember, decide_eq_true fun names => ?_⟩
  -- A session that names the call is one of its two legs, and the socket of either is closed.
  have isLeg : leg = slot.session.gist ∨ leg = partner := by
    obtain ⟨control, signaling, gists⟩ := sound.table.gists_eq
    rw [gists] at legMember
    rcases List.mem_cons.mp legMember with rfl | legMember
    · rw [signaling.no_call] at names
      cases names
    have stranger : leg ∉ before ++ after := fun member => others leg member names
    rcases legs with legs | legs
    · rw [legs] at legMember
      exact eq_of_mem_pair legMember stranger
    · rw [legs] at legMember
      exact (eq_of_mem_pair legMember stranger).symm
  rcases isLeg with rfl | rfl
  · rw [Session.holder?_destroy_self established.isOpen has] at heldBetween
    cases heldBetween
  · rw [Session.holder?_destroy_self established'.isOpen has] at held
    cases held

theorem Holds.destroyCall (holds : exchange.Holds earlier) (sound : exchange.Sound) {index : Nat}
    {slot : Slot} (found : exchange.table.slots[index]? = some slot) (behind : 0 < index)
    (live : slot.isLive = true) : (exchange.destroyCall index).2.Holds earlier := by
  intro address held
  obtain ⟨heldBefore, stays⟩ := sound.held_destroyCall found behind live held
  exact (holds address heldBefore).imp_left stays

theorem Holds.of_gists {after : Exchange} (holds : exchange.Holds earlier)
    (gists : after.table.gists = exchange.table.gists)
    (holder : ∀ address, after.resources.fabric.holder? address =
      exchange.resources.fabric.holder? address) : after.Holds earlier := by
  intro address held
  rw [holder] at held
  rw [Table.sockets, gists]
  exact holds address held

theorem Holds.release (holds : exchange.Holds earlier) (sound : exchange.Sound)
    (callId : CallId) : (exchange.release callId).2.Holds earlier := by
  rw [Exchange.release]
  split
  · exact holds
  next index present =>
  obtain ⟨slot, found, behind, isOf⟩ := Table.findCall?_eq_some present
  have ended := holds.destroyCall sound found behind (Slot.isOf_iff.mp isOf).1
  split
  · next same => rwa [same] at ended
  · next same => rwa [same] at ended

theorem Holds.setUp (holds : exchange.Holds earlier) (sound : exchange.Sound) (setup : Setup) :
    (exchange.setUp setup).2.Holds earlier := by
  cases result : exchange.setUp setup with
  | mk outcome after =>
    cases outcome with
    | error fault =>
      obtain ⟨table, _, unwound, _⟩ := setUp_error sound.ledger.sound result
      exact holds.of_gists (congrArg Table.gists table) fun address => by rw [unwound.fabric_eq]
    | ok address =>
      obtain ⟨_, inbound, outbound, _, _, _, opened, _, rfl⟩ :=
        setUp_ok sound.ledger.sound result
      obtain ⟨first, second, middle, has, has', bound, bound'⟩ := openLegs_sockets opened
      intro other held
      have sockets : Table.sockets ((exchange.table.append inbound).append outbound) =
          exchange.table.sockets ++ [first, second] := by
        have firstSocket : inbound.gist.socket = some first := has
        have secondSocket : outbound.gist.socket = some second := has'
        rw [Table.sockets, Table.gists_append, Table.gists_append, List.append_assoc,
          List.filterMap_append]
        simp [Table.sockets, firstSocket, secondSocket]
      show other ∈ Table.sockets ((exchange.table.append inbound).append outbound) ∨ _
      rw [sockets]
      rw [Fabric.holder?_bind bound', Fabric.holder?_bind bound] at held
      split at held
      · next same => simp [same]
      split at held
      · next same => simp [same]
      · exact (holds other held).imp_left (List.mem_append_left _)

/-- **The relay never holds a socket that no live session has,** apart from those that it held
before. -/
theorem invariant_holds (earlier : Fabric) (size : Nat) : Invariant size (Holds earlier) where
  rearranged := by
    intro before after rearranged holds
    exact holds.of_gists rearranged.gists_eq fun address => by rw [rearranged.resources_eq]
  passing := by
    intro before after passing holds
    exact holds.of_gists passing.outline.gists_eq passing.steady.holder_eq
  network moved holds address held := holds address (moved.held held)
  lost := by
    intro exchange index slot sound behind found live holds
    have counted : exchange.countMediaError.Holds earlier := holds
    exact counted.destroyCall (sound.counters _) found behind live
  signaled := by
    intro exchange sound datagram holds
    have quiet := quiet_heard exchange datagram.1 (datagram.2.take size)
    have soundHeard := sound.of_quiet quiet
    have heard : Holds earlier _ := holds.of_gists quiet.outline.gists_eq fun _ => rfl
    have handled : (Exchange.handleDatagram (datagram.2.take size)
        { exchange with
          table := exchange.table.changeSession 0 fun session => session.heardFrom datagram.1
          resources := exchange.resources.note
            (.signaled datagram.1 (datagram.2.take size)) }).2.Holds earlier := by
      rw [Exchange.handleDatagram]
      split
      · exact heard
      · next setup _ =>
        have made := heard.setUp soundHeard setup
        dsimp only [answerSetup]
        split
        · next same => rwa [same] at made
        · next same =>
          rw [same] at made
          exact made
      · exact heard.release soundHeard _
      · exact heard
      · exact heard
    rw [Exchange.signal]
    split
    · next message middle same =>
      rw [same] at handled
      have passing := passing_reply middle message
      exact handled.of_gists passing.outline.gists_eq passing.steady.holder_eq
    · next same =>
      rw [same] at handled
      exact handled

end Exchange

end FaxRelay
