import FaxRelay.Proofs.Rounds
import Mathlib.Logic.ExistsUnique

/-!
# What always holds

Two properties of every state that a gateway can reach, whatever is sent to it
and whatever fails: the pools know exactly what the live sessions have
(`Exchange.Balanced`), and the live sessions are the control session followed by
the pairs of the established calls, in the order in which these were made
(`Exchange.InPairs`). Both are read off the soundness of the state, where gists
take the place of sessions.
-/

set_option autoImplicit false

namespace FaxRelay

open FaxRelay.Net FaxRelay.Pool FaxRelay.Signal

/-! ## What is taken -/

namespace Table

/-- A slot holds a live session that has a number. -/
def HoldsId (table : Table) (id : SessionId) (index : Nat) : Prop :=
  ∃ slot : Slot, table.slots[index]? = some slot ∧ slot.isLive = true ∧ slot.session.id = id

/-- A slot holds a live session that has a port. -/
def HoldsPort (table : Table) (port : UInt16) (index : Nat) : Prop :=
  ∃ slot : Slot, table.slots[index]? = some slot ∧ slot.isLive = true ∧
    slot.session.port = some port

theorem mem_gists_iff {table : Table} {gist : Session} :
    gist ∈ table.gists ↔ ∃ (index : Nat) (slot : Slot), table.slots[index]? = some slot ∧
      slot.isLive = true ∧ slot.session.gist = gist := by
  constructor
  · intro member
    obtain ⟨slot, member, picked⟩ := List.mem_filterMap.mp member
    obtain ⟨index, found⟩ := List.getElem?_of_mem member
    rw [Slot.gist?] at picked
    split at picked
    · next live => exact ⟨index, slot, found, live, Option.some.inj picked⟩
    · cases picked
  · rintro ⟨index, slot, found, live, rfl⟩
    exact List.mem_filterMap.mpr
      ⟨slot, List.mem_of_getElem? found, Slot.gist?_of_isLive live⟩

/-- Every live session owns its number. -/
theorem Sound.owns {table : Table} (sound : table.Sound) {index : Nat} {slot : Slot}
    (found : table.slots[index]? = some slot) (live : slot.isLive = true) :
    slot.session.ownsId = true := by
  obtain ⟨control, signaling, gists⟩ := sound.gists_eq
  have member := mem_gists_iff.mpr ⟨index, slot, found, live, rfl⟩
  rw [gists] at member
  rcases List.mem_cons.mp member with same | member
  · have owns : slot.session.gist.ownsId = true := same ▸ signaling.owns
    exact owns
  · obtain ⟨_, _, established⟩ := sound.paired.established member
    exact established.owns

end Table

/-- The pools know exactly what the live sessions have: what is allocated is in one hand, nothing
is in two, live sessions own their numbers, closed slots have nothing, and no pool ever refused what
a session gave back. -/
structure Exchange.Balanced (exchange : Exchange) : Prop where
  ids : ∀ id, exchange.resources.ids.isAllocated id = true ↔
    ∃! index, exchange.table.HoldsId id index
  ids_once : ∀ id first second, exchange.table.HoldsId id first →
    exchange.table.HoldsId id second → first = second
  ports : ∀ port, exchange.resources.ports.isAllocated port = true ↔
    ∃! index, exchange.table.HoldsPort port index
  ports_once : ∀ port first second, exchange.table.HoldsPort port first →
    exchange.table.HoldsPort port second → first = second
  live : ∀ slot ∈ exchange.table.slots, slot.isLive = true → slot.session.ownsId = true
  closed : ∀ slot ∈ exchange.table.slots, slot.isLive = false →
    slot.session.ownsId = false ∧ slot.session.port = none
  accepted : ∀ event ∈ exchange.resources.journal, event.isRefusal = false

/-- A sound exchange is balanced. -/
theorem Exchange.Sound.balanced {exchange : Exchange} (sound : exchange.Sound) :
    exchange.Balanced := by
  have idsOnce : ∀ id first second, exchange.table.HoldsId id first →
      exchange.table.HoldsId id second → first = second := by
    rintro id first second ⟨left, leftPlace, leftLive, rfl⟩ ⟨right, rightPlace, rightLive, same⟩
    exact Table.place_of_id sound.ledger.ids_nodup leftPlace rightPlace leftLive rightLive same.symm
  have portsOnce : ∀ port first second, exchange.table.HoldsPort port first →
      exchange.table.HoldsPort port second → first = second := by
    rintro port first second ⟨left, leftPlace, leftLive, leftHas⟩
      ⟨right, rightPlace, rightLive, rightHas⟩
    exact Table.place_of_field sound.ledger.ports_nodup leftPlace rightPlace leftLive rightLive
      leftHas rightHas
  refine ⟨fun id => ?_, idsOnce, fun port => ?_, portsOnce, fun slot member live => ?_,
    fun slot member closed => ?_, sound.ledger.settled.accepted⟩
  · rw [sound.ledger.ids_iff]
    constructor
    · intro member
      obtain ⟨gist, gistMember, rfl⟩ := List.mem_map.mp member
      obtain ⟨index, slot, found, live, rfl⟩ := Table.mem_gists_iff.mp gistMember
      have holds : exchange.table.HoldsId slot.session.gist.id index :=
        ⟨slot, found, live, rfl⟩
      exact ⟨index, holds, fun other holdsToo => idsOnce _ _ _ holdsToo holds⟩
    · rintro ⟨index, ⟨slot, found, live, rfl⟩, _⟩
      have member := Table.mem_gists_iff.mpr ⟨index, slot, found, live, rfl⟩
      exact List.mem_map.mpr ⟨slot.session.gist, member, rfl⟩
  · rw [sound.ledger.ports_iff]
    constructor
    · intro member
      obtain ⟨gist, member, has⟩ := List.mem_filterMap.mp member
      obtain ⟨index, slot, found, live, rfl⟩ := Table.mem_gists_iff.mp member
      have holds : exchange.table.HoldsPort port index := ⟨slot, found, live, has⟩
      exact ⟨index, holds, fun other holdsToo => portsOnce _ _ _ holdsToo holds⟩
    · rintro ⟨index, ⟨slot, found, live, has⟩, _⟩
      have member := Table.mem_gists_iff.mpr ⟨index, slot, found, live, rfl⟩
      exact List.mem_filterMap.mpr ⟨slot.session.gist, member, has⟩
  · obtain ⟨index, found⟩ := List.getElem?_of_mem member
    exact sound.table.owns found live
  · obtain ⟨gone, _⟩ := sound.table.closed slot member closed
    exact ⟨gone.disowned, gone.no_port⟩

/-- **The pools always know exactly what the live sessions have:** in every state that a gateway
can reach, after every datagram of signaling that it handles there, and after every round. -/
theorem Gateway.Reachable.pools_balanced {gateway : Gateway} (reached : gateway.Reachable) :
    gateway.exchange.Balanced ∧
      (∀ datagram, (gateway.exchange.signal gateway.settings.bufferSize.toNat
        datagram).Balanced) ∧
      gateway.poll.2.exchange.Balanced :=
  ⟨reached.sound.balanced, fun datagram => (reached.sound.signal _ datagram).balanced,
    reached.poll.sound.balanced⟩

/-- After a request for a call to a terminal, three slots are filled. -/
theorem Gateway.pools_balanced_first_setup :
    idle.Reachable ∧
      (idle.exchange.signal 2048 (⟨Ipv4.loopback, 5000⟩,
        textBytes "SETUP 0 GT 127.0.0.1:4000".toList)).table.size = 3 ∧
      (idle.exchange.signal 2048 (⟨Ipv4.loopback, 5000⟩,
        textBytes "SETUP 0 GT 127.0.0.1:4000".toList)).Balanced :=
  ⟨reachable_idle, rfl, (Reachable.pools_balanced reachable_idle).2.1 _⟩

/-! ## Pairs -/

/-- The two legs of a call as they stand in a table. -/
structure Table.Pair (table : Table) (inbound outbound : Session) : Prop where
  inbound_role : inbound.role = .gateway
  inbound_direction : inbound.direction = .inbound
  outbound_role : outbound.role ≠ .control
  outbound_direction : outbound.direction = .outbound
  same_call : ∃ callId, inbound.callId = some callId ∧ outbound.callId = some callId
  inbound_peer : inbound.peer = some outbound.id
  outbound_peer : outbound.peer = some inbound.id
  outbound_resolves : (table.indexOf? outbound.id).bind table.session? = some outbound
  inbound_resolves : (table.indexOf? inbound.id).bind table.session? = some inbound
  stages : inbound.stage = .progress ∧ outbound.stage = .progress
  active : inbound.bridgeActive = true ∧ outbound.bridgeActive = true
  ports : inbound.port.isSome = true ∧ outbound.port.isSome = true
  sockets : inbound.socket.isSome = true ∧ outbound.socket.isSome = true
  engines : inbound.engine.isSome = true ∧ outbound.engine.isSome = true

/-- The live sessions behind the first slot. -/
def Table.liveLegs (table : Table) : List Session :=
  (table.slots.tail.filter Slot.isLive).map Slot.session

/-- The control session comes first and is nobody's peer; behind it the live sessions are the pairs
of calls with different identifiers, in the order in which their engines were attached. -/
structure Exchange.InPairs (exchange : Exchange) : Prop where
  control : ∃ slot, exchange.table.slots[0]? = some slot ∧ slot.isLive = true ∧
    slot.session.isControl = true ∧ slot.session.peer = none
  pairs : ∃ pairs : List (Session × Session),
    exchange.table.liveLegs = pairs.flatMap (fun pair => [pair.1, pair.2]) ∧
    (∀ pair ∈ pairs, exchange.table.Pair pair.1 pair.2) ∧
    pairs.Pairwise fun earlier later => earlier.1.callId ≠ later.1.callId
  order : (exchange.table.liveLegs.filterMap Session.engine).Sublist
    (attachments exchange.resources.journal).reverse

namespace Table

theorem filterMap_gist? (slots : List Slot) :
    slots.filterMap Slot.gist? =
      ((slots.filter Slot.isLive).map Slot.session).map Session.gist := by
  induction slots with
  | nil => rfl
  | cons slot rest ih =>
    by_cases live : slot.isLive = true
    · rw [List.filterMap_cons_some (Slot.gist?_of_isLive live), List.filter_cons_of_pos live, ih]
      rfl
    · rw [List.filterMap_cons_none (Slot.gist?_eq_none (Bool.eq_false_iff.mpr live)),
        List.filter_cons_of_neg live, ih]

theorem gists_eq_liveSessions (table : Table) :
    table.gists = table.liveSessions.map Session.gist := filterMap_gist? table.slots

theorem legs_eq_liveLegs (table : Table) : table.legs = table.liveLegs.map Session.gist :=
  filterMap_gist? table.slots.tail

end Table

/-- Sessions whose gists are paired are a sequence of pairs themselves. -/
theorem Paired.pairs {sessions : List Session} (paired : Paired (sessions.map Session.gist)) :
    ∃ pairs : List (Session × Session),
      sessions = pairs.flatMap (fun pair => [pair.1, pair.2]) ∧
      (∀ pair ∈ pairs, ∃ callId, Bridged callId pair.1.gist pair.2.gist) ∧
      pairs.Pairwise fun earlier later => earlier.1.callId ≠ later.1.callId := by
  generalize same : sessions.map Session.gist = gists at paired
  induction paired generalizing sessions with
  | nil =>
    rw [List.map_eq_nil_iff] at same
    exact ⟨[], same, fun _ member => (List.not_mem_nil member).elim, List.Pairwise.nil⟩
  | @cons callId _ _ _ bridged fresh _ ih =>
    obtain ⟨inbound, others, rfl, rfl, sameOthers⟩ := List.map_eq_cons_iff.mp same
    obtain ⟨outbound, rest, rfl, rfl, sameRest⟩ := List.map_eq_cons_iff.mp sameOthers
    obtain ⟨pairs, flat, bridges, differ⟩ := ih sameRest
    refine ⟨(inbound, outbound) :: pairs, by rw [List.flatMap_cons, ← flat]; rfl, ?_, ?_⟩
    · intro pair member
      rcases List.mem_cons.mp member with rfl | member
      · exact ⟨callId, bridged⟩
      · exact bridges pair member
    · refine List.pairwise_cons.mpr ⟨fun pair member equal => ?_, differ⟩
      have names : inbound.callId = some callId := bridged.inbound_leg.names_call
      have inRest : pair.1 ∈ rest := by
        rw [flat]
        exact List.mem_flatMap.mpr ⟨pair, member, List.mem_cons_self ..⟩
      have gistInRest := List.mem_map_of_mem (f := Session.gist) inRest
      rw [sameRest] at gistInRest
      exact fresh _ gistInRest (equal.symm.trans names)

/-- In a sound exchange the number of a live leg leads to it. -/
theorem Exchange.Sound.resolves {exchange : Exchange} (sound : exchange.Sound) {leg : Session}
    (member : leg ∈ exchange.table.liveLegs) :
    (exchange.table.indexOf? leg.id).bind exchange.table.session? = some leg := by
  obtain ⟨slot, slotMember, rfl⟩ := List.mem_map.mp member
  obtain ⟨inTail, live⟩ := List.mem_filter.mp slotMember
  obtain ⟨index, found⟩ := List.getElem?_of_mem (List.mem_of_mem_tail inTail)
  rw [sound.indexOf?_eq found live, Option.bind_some, Table.session?, found]
  rfl

/-- In a sound exchange the live sessions are in pairs. -/
theorem Exchange.Sound.inPairs {exchange : Exchange} (sound : exchange.Sound) :
    exchange.InPairs := by
  refine ⟨?_, ?_, ?_⟩
  · obtain ⟨slot, rest, slots, live, signaling⟩ := sound.table.control
    exact ⟨slot, by rw [slots]; rfl, live, signaling.control, signaling.no_peer⟩
  · have paired := sound.table.paired
    rw [Table.legs_eq_liveLegs] at paired
    obtain ⟨pairs, flat, bridges, differ⟩ := paired.pairs
    refine ⟨pairs, flat, fun pair member => ?_, differ⟩
    obtain ⟨callId, bridged⟩ := bridges pair member
    have inboundMember : pair.1 ∈ exchange.table.liveLegs := by
      rw [flat]
      exact List.mem_flatMap.mpr ⟨pair, member, List.mem_cons_self ..⟩
    have outboundMember : pair.2 ∈ exchange.table.liveLegs := by
      rw [flat]
      exact List.mem_flatMap.mpr ⟨pair, member, List.mem_cons_of_mem _ (List.mem_cons_self ..)⟩
    obtain ⟨inbound, outbound, role, direction, direction', _, _⟩ := bridged
    exact {
      inbound_role := role
      inbound_direction := direction
      outbound_role := of_decide_eq_false outbound.media
      outbound_direction := direction'
      same_call := ⟨callId, inbound.names_call, outbound.names_call⟩
      inbound_peer := inbound.names_peer
      outbound_peer := outbound.names_peer
      outbound_resolves := sound.resolves outboundMember
      inbound_resolves := sound.resolves inboundMember
      stages := ⟨inbound.stage_eq, outbound.stage_eq⟩
      active := ⟨inbound.active, outbound.active⟩
      ports := ⟨inbound.has_port, outbound.has_port⟩
      sockets := ⟨inbound.has_socket, outbound.has_socket⟩
      engines := ⟨inbound.has_engine, outbound.has_engine⟩ }
  · obtain ⟨control, signaling, gists⟩ := sound.table.gists_eq
    have settled := sound.ledger.settled
    have ordered := sound.ledger.engines_ordered
    rw [gists, List.filterMap_cons_none signaling.no_engine, Table.legs_eq_liveLegs,
      List.filterMap_map] at settled ordered
    exact settled.held_sublist ordered

/-- **The live sessions are always the control session and the pairs of the established calls,** in
the order in which these were made: in every state that a gateway can reach, and in particular
after every round. -/
theorem Gateway.Reachable.legs_in_pairs {gateway : Gateway} (reached : gateway.Reachable) :
    gateway.exchange.InPairs ∧ gateway.poll.2.exchange.InPairs :=
  ⟨reached.sound.inPairs, reached.poll.sound.inPairs⟩

/-- After a request for a call to a terminal, there is one pair. -/
theorem Gateway.legs_in_pairs_first_setup :
    Reachable ⟨{}, idle.exchange.signal 2048 (⟨Ipv4.loopback, 5000⟩,
        textBytes "SETUP 0 GT 127.0.0.1:4000".toList)⟩ ∧
      (idle.exchange.signal 2048 (⟨Ipv4.loopback, 5000⟩,
        textBytes "SETUP 0 GT 127.0.0.1:4000".toList)).table.liveLegs.length = 2 ∧
      (idle.exchange.signal 2048 (⟨Ipv4.loopback, 5000⟩,
        textBytes "SETUP 0 GT 127.0.0.1:4000".toList)).InPairs := by
  have reached : Reachable ⟨{}, idle.exchange.signal 2048 (⟨Ipv4.loopback, 5000⟩,
      textBytes "SETUP 0 GT 127.0.0.1:4000".toList)⟩ :=
    reachable_idle.advanced (.signaled idle.exchange _)
  exact ⟨reached, rfl, (Reachable.legs_in_pairs reached).1⟩

end FaxRelay
