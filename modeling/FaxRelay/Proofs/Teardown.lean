import FaxRelay.Proofs.Moments
import FaxRelay.Proofs.ShutDown

/-!
# Tearing calls down

A call ends because it is destroyed, because its bridge has failed, or because a
media socket has. Each of these closes the two slots of exactly the calls meant
and gives back what the legs in them had taken; no other slot changes, and none
is added or removed (`Exchange.TearsDown`).

The calls whose bridges have failed are found before the first of them ends, by
the places of their slots. That the later ones are still met there is because
slots stay where they are, and that none is met twice is because a call keeps one
bridge.
-/

set_option autoImplicit false

namespace FaxRelay

open FaxRelay.Net FaxRelay.Pool FaxRelay.Signal

/-! ## Several calls -/

namespace Slot

/-- Whether a slot holds a live leg of one of several calls. -/
def isAmong (callIds : List CallId) (slot : Slot) : Bool :=
  callIds.any fun callId => slot.isOf callId

/-- A slot after several calls were hung up. -/
def hangUpAll (callIds : List CallId) (slot : Slot) : Slot :=
  if slot.isAmong callIds then ⟨slot.session.ended, Descriptor.shut⟩ else slot

variable {callIds : List CallId} {slot : Slot}

theorem isAmong_iff :
    slot.isAmong callIds = true ↔ ∃ callId ∈ callIds, slot.isOf callId = true :=
  List.any_eq_true

theorem isLive_of_isAmong (among : slot.isAmong callIds = true) : slot.isLive = true := by
  obtain ⟨callId, _, isOf⟩ := isAmong_iff.mp among
  exact (isOf_iff.mp isOf).1

theorem hangUpAll_of_isAmong (among : slot.isAmong callIds = true) :
    slot.hangUpAll callIds = ⟨slot.session.ended, Descriptor.shut⟩ := if_pos among

theorem hangUpAll_of_not_isAmong (spared : slot.isAmong callIds = false) :
    slot.hangUpAll callIds = slot := if_neg (by rw [spared]; exact Bool.false_ne_true)

/-- A call that was hung up has no slots any more. -/
theorem hangUpAll_hangUp (callId : CallId) (callIds : List CallId) (slot : Slot) :
    (slot.hangUp callId).hangUpAll callIds = slot.hangUpAll (callId :: callIds) := by
  cases isOf : slot.isOf callId with
  | true =>
    have closed : ∀ session : Session, isAmong callIds ⟨session, Descriptor.shut⟩ = false :=
      fun session => by simp [isAmong, Slot.isOf, isLive, Descriptor.shut]
    have among : slot.isAmong (callId :: callIds) = true :=
      isAmong_iff.mpr ⟨callId, List.mem_cons_self, isOf⟩
    rw [hangUp, if_pos isOf, hangUpAll_of_not_isAmong (closed _), hangUpAll_of_isAmong among]
  | false =>
    have same : slot.isAmong (callId :: callIds) = slot.isAmong callIds := by
      simp [isAmong, isOf]
    have spared : slot.hangUp callId = slot := if_neg (by simp [isOf])
    rw [spared, hangUpAll, hangUpAll, same]

end Slot

namespace Table

/-- A table after several calls were hung up. -/
def hangUpAll (callIds : List CallId) (table : Table) : Table :=
  { table with slots := table.slots.map (Slot.hangUpAll callIds) }

theorem hangUpAll_nil (table : Table) : table.hangUpAll [] = table := by
  have slots : table.slots.map (Slot.hangUpAll []) = table.slots :=
    (List.map_congr_left fun slot _ => rfl).trans (List.map_id _)
  exact congrArg (fun slots => Table.mk slots table.capacity) slots

theorem hangUpAll_hangUp (callId : CallId) (callIds : List CallId) (table : Table) :
    (table.hangUp callId).hangUpAll callIds = table.hangUpAll (callId :: callIds) := by
  have slots : (table.slots.map (Slot.hangUp callId)).map (Slot.hangUpAll callIds) =
      table.slots.map (Slot.hangUpAll (callId :: callIds)) := by
    rw [List.map_map]
    exact List.map_congr_left fun slot _ => slot.hangUpAll_hangUp callId callIds
  exact congrArg (fun slots => Table.mk slots table.capacity) slots

theorem hangUp_eq_hangUpAll (callId : CallId) (table : Table) :
    table.hangUp callId = table.hangUpAll [callId] := by
  rw [← hangUpAll_hangUp, hangUpAll_nil]

theorem size_hangUpAll (callIds : List CallId) (table : Table) :
    (table.hangUpAll callIds).size = table.size := List.length_map ..

theorem getElem?_hangUpAll (callIds : List CallId) {table : Table} {index : Nat} {slot : Slot}
    (found : table.slots[index]? = some slot) :
    (table.hangUpAll callIds).slots[index]? = some (slot.hangUpAll callIds) := by
  rw [hangUpAll, List.getElem?_map, found]
  rfl

end Table

namespace Exchange

/-! ## Selective ends -/

/-- A call with its two slots. -/
def HasTwoSlots (table : Table) (callId : CallId) : Prop :=
  ∃ first second, first ≠ second ∧ ∀ index : Nat,
    (∃ slot : Slot, table.slots[index]? = some slot ∧ slot.isOf callId = true) ↔
      index = first ∨ index = second

/-- Several calls end, and nothing else does. -/
structure TearsDown (callIds : List CallId) (before after : Exchange) : Prop where
  /-- No slot is added or removed. -/
  size_eq : after.table.size = before.table.size
  /-- Each of the calls has two slots. -/
  two : ∀ callId ∈ callIds, HasTwoSlots before.table callId
  /-- The slots of the calls are closed, and nothing is left in them. -/
  closes : ∀ (index : Nat) (slot : Slot), before.table.slots[index]? = some slot →
    slot.isAmong callIds = true → ∃ session, after.table.slots[index]? =
      some ⟨session, Descriptor.shut⟩ ∧ session.IsGone ∧ session.id = slot.session.id ∧
        session.callId = slot.session.callId
  /-- Every other slot is as it was. -/
  spares : ∀ (index : Nat) (slot : Slot), before.table.slots[index]? = some slot →
    slot.isAmong callIds = false → after.table.slots[index]? = some slot
  /-- The legs of the calls had taken their numbers and ports. -/
  taken : ∀ slot ∈ before.table.slots, slot.isAmong callIds = true →
    before.resources.ids.isAllocated slot.session.id = true ∧
      ∃ port, slot.session.port = some port ∧ before.resources.ports.isAllocated port = true
  /-- Their numbers are given back, and no others. -/
  ids : ∀ id, after.resources.ids.isAllocated id = true ↔
    before.resources.ids.isAllocated id = true ∧
      ¬ ∃ slot ∈ before.table.slots, slot.isAmong callIds = true ∧ slot.session.id = id
  /-- Their ports are given back, and no others. -/
  ports : ∀ port, after.resources.ports.isAllocated port = true ↔
    before.resources.ports.isAllocated port = true ∧
      ¬ ∃ slot ∈ before.table.slots, slot.isAmong callIds = true ∧
        slot.session.port = some port

namespace Balanced

variable {exchange : Exchange} (balanced : exchange.Balanced)
include balanced

theorem isAllocated_id_iff (id : SessionId) :
    exchange.resources.ids.isAllocated id = true ↔ ∃ index, exchange.table.HoldsId id index := by
  refine (balanced.ids id).trans ⟨fun unique => unique.exists, fun ⟨index, holds⟩ => ?_⟩
  exact ⟨index, holds, fun other holdsToo => balanced.ids_once id other index holdsToo holds⟩

theorem isAllocated_port_iff (port : UInt16) :
    exchange.resources.ports.isAllocated port = true ↔
      ∃ index, exchange.table.HoldsPort port index := by
  refine (balanced.ports port).trans ⟨fun unique => unique.exists, fun ⟨index, holds⟩ => ?_⟩
  exact ⟨index, holds, fun other holdsToo => balanced.ports_once port other index holdsToo holds⟩

end Balanced

section Ends

variable {before after : Exchange} {callIds : List CallId}

/-- What the live sessions have after several calls ended is what they had before, less what the
legs of these calls had. -/
theorem holds_iff_of_spares (has : Session → Prop)
    (once : ∀ (first second : Nat) (left right : Slot), before.table.slots[first]? = some left →
      before.table.slots[second]? = some right → left.isLive = true → right.isLive = true →
      has left.session → has right.session → first = second)
    (size_eq : after.table.size = before.table.size)
    (closes : ∀ (index : Nat) (slot : Slot), before.table.slots[index]? = some slot →
      slot.isAmong callIds = true → ∃ later, after.table.slots[index]? = some later ∧
        later.isLive = false)
    (spares : ∀ (index : Nat) (slot : Slot), before.table.slots[index]? = some slot →
      slot.isAmong callIds = false → after.table.slots[index]? = some slot) :
    (∃ (index : Nat) (slot : Slot), after.table.slots[index]? = some slot ∧ slot.isLive = true ∧
        has slot.session) ↔
      (∃ (index : Nat) (slot : Slot), before.table.slots[index]? = some slot ∧ slot.isLive = true ∧
        has slot.session) ∧
      ¬ ∃ slot ∈ before.table.slots, slot.isAmong callIds = true ∧ has slot.session := by
  constructor
  · rintro ⟨index, slot, found, live, holds⟩
    have inside : index < before.table.slots.length := by
      have bound : index < after.table.size := (List.getElem?_eq_some_iff.mp found).1
      rwa [size_eq] at bound
    have place := List.getElem?_eq_getElem inside
    generalize before.table.slots[index] = old at place
    cases among : old.isAmong callIds with
    | true =>
      obtain ⟨later, foundLater, closed⟩ := closes index old place among
      cases found.symm.trans foundLater
      cases live.symm.trans closed
    | false =>
      cases found.symm.trans (spares index old place among)
      refine ⟨⟨index, slot, place, live, holds⟩, ?_⟩
      rintro ⟨other, member, otherAmong, otherHolds⟩
      obtain ⟨spot, foundOther⟩ := List.getElem?_of_mem member
      obtain rfl := once index spot slot other place foundOther live
        (Slot.isLive_of_isAmong otherAmong) holds otherHolds
      cases place.symm.trans foundOther
      cases among.symm.trans otherAmong
  · rintro ⟨⟨index, slot, found, live, holds⟩, none⟩
    refine ⟨index, slot, spares index slot found ?_, live, holds⟩
    refine Bool.eq_false_iff.mpr fun among => none ⟨slot, List.mem_of_getElem? found, among, holds⟩

/-- A call that has a live slot has two. -/
theorem Sound.hasTwoSlots (sound : before.Sound) {callId : CallId} {index : Nat} {slot : Slot}
    (found : before.table.slots[index]? = some slot) (isOf : slot.isOf callId = true) :
    HasTwoSlots before.table callId := by
  obtain ⟨live, names⟩ := Slot.isOf_iff.mp isOf
  obtain ⟨same, other, partner, _, _, foundPartner, partnerLive, apart, established,
    established', _, _, only⟩ := sound.table.partner_slot sound.ledger.ids_nodup found
      (sound.table.behind_of_call found names) live
  obtain rfl := Option.some.inj (names.symm.trans established.names_call)
  refine ⟨index, other, apart, fun place => ⟨fun ⟨third, foundThird, thirdIsOf⟩ =>
    only place third foundThird thirdIsOf, ?_⟩⟩
  rintro (rfl | rfl)
  · exact ⟨slot, found, isOf⟩
  · exact ⟨partner, foundPartner, Slot.isOf_iff.mpr ⟨partnerLive, established'.names_call⟩⟩

/-- Between two sound exchanges, what happens to the slots decides what is given back. -/
theorem Sound.tearsDown (sound : before.Sound) (soundAfter : after.Sound)
    (named : ∀ callId ∈ callIds, ∃ (index : Nat) (slot : Slot),
      before.table.slots[index]? = some slot ∧ slot.isOf callId = true)
    (size_eq : after.table.size = before.table.size)
    (closes : ∀ (index : Nat) (slot : Slot), before.table.slots[index]? = some slot →
      slot.isAmong callIds = true → ∃ session, after.table.slots[index]? =
        some ⟨session, Descriptor.shut⟩ ∧ session.id = slot.session.id ∧
          session.callId = slot.session.callId)
    (spares : ∀ (index : Nat) (slot : Slot), before.table.slots[index]? = some slot →
      slot.isAmong callIds = false → after.table.slots[index]? = some slot) :
    TearsDown callIds before after := by
  have shut : ∀ (index : Nat) (slot : Slot), before.table.slots[index]? = some slot →
      slot.isAmong callIds = true → ∃ later, after.table.slots[index]? = some later ∧
        later.isLive = false := by
    intro index slot found among
    obtain ⟨session, foundLater, _⟩ := closes index slot found among
    exact ⟨_, foundLater, rfl⟩
  refine ⟨size_eq, fun callId member => ?_, fun index slot found among => ?_, spares,
    fun slot member among => ?_, fun id => ?_, fun port => ?_⟩
  · obtain ⟨index, slot, found, isOf⟩ := named callId member
    exact sound.hasTwoSlots found isOf
  · obtain ⟨session, foundLater, id, callId⟩ := closes index slot found among
    have gone := soundAfter.table.closed _ (List.mem_of_getElem? foundLater) rfl
    exact ⟨session, foundLater, gone.session, id, callId⟩
  · obtain ⟨index, found⟩ := List.getElem?_of_mem member
    obtain ⟨callId, _, isOf⟩ := Slot.isAmong_iff.mp among
    obtain ⟨live, names⟩ := Slot.isOf_iff.mp isOf
    obtain ⟨_, _, established⟩ := sound.table.paired.established
      (Table.gist_mem_legs found (sound.table.behind_of_call found names) live)
    obtain ⟨port, has⟩ := Option.isSome_iff_exists.mp established.has_port
    exact ⟨(sound.balanced.isAllocated_id_iff _).mpr ⟨index, slot, found, live, rfl⟩, port, has,
      (sound.balanced.isAllocated_port_iff port).mpr ⟨index, slot, found, live, has⟩⟩
  · rw [soundAfter.balanced.isAllocated_id_iff, sound.balanced.isAllocated_id_iff]
    exact holds_iff_of_spares (fun session => session.id = id)
      (fun first second left right foundLeft foundRight liveLeft liveRight hasLeft hasRight =>
        sound.balanced.ids_once id first second ⟨left, foundLeft, liveLeft, hasLeft⟩
          ⟨right, foundRight, liveRight, hasRight⟩) size_eq shut spares
  · rw [soundAfter.balanced.isAllocated_port_iff, sound.balanced.isAllocated_port_iff]
    exact holds_iff_of_spares (fun session => session.port = some port)
      (fun first second left right foundLeft foundRight liveLeft liveRight hasLeft hasRight =>
        sound.balanced.ports_once port first second ⟨left, foundLeft, liveLeft, hasLeft⟩
          ⟨right, foundRight, liveRight, hasRight⟩) size_eq shut spares

/-- Hanging up several calls tears them down. -/
theorem Sound.tearsDown_hangUpAll (sound : before.Sound) (soundAfter : after.Sound)
    (named : ∀ callId ∈ callIds, ∃ (index : Nat) (slot : Slot),
      before.table.slots[index]? = some slot ∧ slot.isOf callId = true)
    (table : after.table = before.table.hangUpAll callIds) : TearsDown callIds before after := by
  refine sound.tearsDown soundAfter named (table ▸ before.table.size_hangUpAll callIds)
    (fun index slot found among => ?_) fun index slot found spared => ?_
  · refine ⟨slot.session.ended, ?_, rfl, rfl⟩
    rw [table, Table.getElem?_hangUpAll callIds found, Slot.hangUpAll_of_isAmong among]
  · rw [table, Table.getElem?_hangUpAll callIds found, Slot.hangUpAll_of_not_isAmong spared]

end Ends

/-! ## The three ways to end -/

variable {exchange : Exchange}

/-- **Destroying the call of a live leg tears down that call.** -/
theorem Sound.destroyCall_tearsDown (sound : exchange.Sound) {index : Nat} {slot : Slot}
    (found : exchange.table.slots[index]? = some slot) (behind : 0 < index)
    (live : slot.isLive = true) :
    ∃ callId after, slot.session.callId = some callId ∧
      exchange.destroyCall index = (.ok (), after) ∧ after.counters = exchange.counters ∧
      TearsDown [callId] exchange after := by
  obtain ⟨callId, after, names, destroyed, table, counters, soundAfter⟩ :=
    sound.destroyCall_leg found behind live
  refine ⟨callId, after, names, destroyed, counters,
    sound.tearsDown_hangUpAll soundAfter (fun other member => ?_)
      (table.trans (exchange.table.hangUp_eq_hangUpAll callId))⟩
  obtain rfl := List.mem_singleton.mp member
  exact ⟨index, slot, found, Slot.isOf_iff.mpr ⟨live, names⟩⟩

/-- When the socket of a slot fails, it is read, and its call is destroyed. -/
theorem handleMedia_of_failed {size index : Nat} {session : Session} {fault : Fault}
    (found : exchange.table.session? index = some session)
    (failed : (session.onReadable size exchange.resources).1 = .error fault) :
    exchange.handleMedia size index =
      ((exchange.readAt size index session).countMediaError.destroyCall index).2 := by
  rw [handleMedia, found]
  dsimp only
  split
  · next same =>
    rw [failed] at same
    cases same
  · rfl

/-- Reading a slot changes no other. -/
theorem getElem?_readAt (size : Nat) {index place : Nat} (session : Session)
    (apart : index ≠ place) :
    (exchange.readAt size index session).table.slots[place]? = exchange.table.slots[place]? := by
  show (exchange.table.slots.modify index _)[place]? = _
  rw [List.getElem?_modify]
  simp [apart]

/-- **When the socket of a live leg fails, its call is torn down** and counted as lost. -/
theorem Sound.handleMedia_tearsDown (sound : exchange.Sound) {size index : Nat} {slot : Slot}
    {fault : Fault} (found : exchange.table.slots[index]? = some slot) (behind : 0 < index)
    (live : slot.isLive = true)
    (failed : (slot.session.onReadable size exchange.resources).1 = .error fault) :
    ∃ callId, slot.session.callId = some callId ∧
      (exchange.handleMedia size index).counters = exchange.countMediaError.counters ∧
      TearsDown [callId] exchange (exchange.handleMedia size index) := by
  have place := Table.session?_of_slot found
  let read := exchange.readAt size index slot.session
  let later := (slot.session.onReadable size exchange.resources).2.1
  obtain ⟨same, traffic⟩ : later.gist = slot.session.gist ∧ _ :=
    slot.session.traffic_onReadable exchange.resources size
  have quiet : exchange.Quiet read := ⟨Table.sameOutline_setSession place same, traffic⟩
  have soundRead : read.countMediaError.Sound := (sound.of_quiet quiet).counters _
  have here : read.table.slots[index]? = some { slot with session := later } := by
    show (exchange.table.slots.modify index _)[index]? = _
    rw [List.getElem?_modify, found]
    simp [later]
  obtain ⟨callId, after, namesLater, destroyed, table, counters, soundAfter⟩ :=
    soundRead.destroyCall_leg here behind live
  have hungUp : after.table = read.table.hangUpAll [callId] :=
    table.trans (read.table.hangUp_eq_hangUpAll callId)
  have names : slot.session.callId = some callId := by
    show slot.session.gist.callId = some callId
    rw [← same]
    exact namesLater
  have among : ∀ session : Session, session.callId = some callId →
      Slot.isAmong [callId] { slot with session := session } = true := fun session names =>
    Slot.isAmong_iff.mpr ⟨callId, List.mem_cons_self, Slot.isOf_iff.mpr ⟨live, names⟩⟩
  rw [handleMedia_of_failed place failed, destroyed]
  refine ⟨callId, names, counters, sound.tearsDown soundAfter (fun other member => ?_) ?_
    (fun spot other foundOther isAmong => ?_) fun spot other foundOther spared => ?_⟩
  · obtain rfl := List.mem_singleton.mp member
    exact ⟨index, slot, found, Slot.isOf_iff.mpr ⟨live, names⟩⟩
  · rw [hungUp, Table.size_hangUpAll]
    exact quiet.outline.size_eq
  · by_cases apart : index = spot
    · subst apart
      cases found.symm.trans foundOther
      have id : later.gist.id = slot.session.gist.id := by rw [same]
      refine ⟨later.ended, ?_, id, namesLater.trans names.symm⟩
      rw [hungUp, Table.getElem?_hangUpAll _ here,
        Slot.hangUpAll_of_isAmong (among later namesLater)]
    · refine ⟨other.session.ended, ?_, rfl, rfl⟩
      rw [hungUp,
        Table.getElem?_hangUpAll _ ((getElem?_readAt size slot.session apart).trans foundOther),
        Slot.hangUpAll_of_isAmong isAmong]
  · have apart : index ≠ spot := by
      rintro rfl
      cases found.symm.trans foundOther
      cases (among slot.session names).symm.trans spared
    rw [hungUp,
      Table.getElem?_hangUpAll _ ((getElem?_readAt size slot.session apart).trans foundOther),
      Slot.hangUpAll_of_not_isAmong spared]

/-- The slots whose bridges have failed. -/
theorem mem_failedBridges_iff {table : Table} {index : Nat} :
    index ∈ table.failedBridges ↔ ∃ slot : Slot, table.slots[index]? = some slot ∧
      slot.isLive = true ∧ slot.session.bridgeFailed = true := by
  constructor
  · intro failed
    obtain ⟨⟨slot, place⟩, member, rfl⟩ := List.mem_map.mp failed
    obtain ⟨member, holds⟩ := List.mem_filter.mp member
    rw [Bool.and_eq_true] at holds
    exact ⟨slot, List.mem_zipIdx_iff_getElem?.mp member, holds⟩
  · rintro ⟨slot, found, live, failed⟩
    refine List.mem_map.mpr ⟨(slot, index), List.mem_filter.mpr
      ⟨List.mem_zipIdx_iff_getElem?.mpr found, ?_⟩, rfl⟩
    rw [live, failed]
    rfl

/-- A slot that is live after a call was hung up was there before, and is of another call. -/
theorem slot_of_hangUp {table : Table} {callId : CallId} {index : Nat} {slot : Slot}
    (found : (table.hangUp callId).slots[index]? = some slot) (live : slot.isLive = true) :
    table.slots[index]? = some slot ∧ slot.session.callId ≠ some callId := by
  rw [Table.hangUp, List.getElem?_map] at found
  obtain ⟨old, foundOld, rfl⟩ := Option.map_eq_some_iff.mp found
  cases isOf : old.isOf callId with
  | true =>
    rw [Slot.hangUp, if_pos isOf] at live
    cases live
  | false =>
    have spared : old.hangUp callId = old := if_neg (by simp [isOf])
    rw [spared] at live ⊢
    exact ⟨foundOld, fun names => by simp [Slot.isOf_iff.mpr ⟨live, names⟩] at isOf⟩

/-- The calls whose bridges have failed end one after the other, each of them once. -/
theorem Sound.reapSlots (sound : exchange.Sound) (indices : List Nat) (count : Nat)
    (nodup : indices.Nodup) (keep : ∀ index ∈ indices, exchange.table.KeepsBridge index) :
    ∃ callIds : List CallId, callIds.Nodup ∧
      indices.map (fun index => (exchange.table.session? index).bind Session.callId) =
        callIds.map some ∧
      let reaped := indices.foldl Exchange.reapSlot (count, exchange)
      reaped.1 = count + callIds.length ∧
        reaped.2.counters = { exchange.counters with
          mediaErrors := exchange.counters.mediaErrors + callIds.length } ∧
        reaped.2.table = exchange.table.hangUpAll callIds ∧ reaped.2.Sound := by
  induction indices generalizing count exchange with
  | nil =>
    exact ⟨[], List.nodup_nil, rfl, rfl, rfl, exchange.table.hangUpAll_nil.symm, sound⟩
  | cons index rest ih =>
    obtain ⟨fresh, nodupRest⟩ := List.nodup_cons.mp nodup
    have keeps := keep index List.mem_cons_self
    have behind := keeps.behind sound.table
    obtain ⟨slot, found, live, kept⟩ := keeps
    have place := Table.session?_of_slot found
    obtain ⟨callId, after, names, destroyed, table, counters, soundAfter⟩ :=
      Sound.destroyCall_leg (show exchange.countMediaError.Sound from sound.counters _)
        found behind live
    have hungUp : after.table = exchange.table.hangUp callId := table
    have reaped : Exchange.reapSlot (count, exchange) index = (count + 1, after) := by
      simp only [Exchange.reapSlot, place, Option.isNone_some, destroyed]
      rfl
    have others : ∀ other ∈ rest, after.table.KeepsBridge other := by
      intro other member
      have differs : index ≠ other := fun same => fresh (same ▸ member)
      rw [hungUp]
      exact (keep other (List.mem_cons_of_mem _ member)).hangUp sound.table
        sound.ledger.ids_nodup found live kept names differs
    -- A slot that still keeps a bridge is of another call, and its session is as it was.
    have still : ∀ other ∈ rest, ∃ session, exchange.table.session? other = some session ∧
        after.table.session? other = some session ∧ session.callId ≠ some callId := by
      intro other member
      obtain ⟨third, foundThird, liveThird, _⟩ := others other member
      obtain ⟨foundBefore, differs⟩ := slot_of_hangUp (hungUp ▸ foundThird) liveThird
      exact ⟨third.session, Table.session?_of_slot foundBefore, Table.session?_of_slot foundThird,
        differs⟩
    obtain ⟨callIds, nodupIds, named, counted, errors, torn, soundRest⟩ :=
      ih soundAfter (count + 1) nodupRest others
    have namedBefore : rest.map (fun other =>
        (exchange.table.session? other).bind Session.callId) = callIds.map some := by
      rw [← named]
      refine List.map_congr_left fun other member => ?_
      obtain ⟨session, placeBefore, placeAfter, _⟩ := still other member
      rw [placeBefore, placeAfter]
    have absent : callId ∉ callIds := by
      intro member
      have listed : some callId ∈ callIds.map some := List.mem_map_of_mem member
      rw [← namedBefore] at listed
      obtain ⟨other, memberRest, same⟩ := List.mem_map.mp listed
      obtain ⟨session, placeBefore, _, differs⟩ := still other memberRest
      rw [placeBefore] at same
      exact differs same
    refine ⟨callId :: callIds, List.nodup_cons.mpr ⟨absent, nodupIds⟩, ?_, ?_⟩
    · rw [List.map_cons, List.map_cons, namedBefore, place]
      exact congrArg (· :: callIds.map some) names
    · dsimp only at counted errors torn soundRest ⊢
      rw [List.foldl_cons, reaped]
      refine ⟨by rw [counted, List.length_cons]; omega, ?_, ?_, soundRest⟩
      · rw [errors, counters, List.length_cons, Nat.add_comm callIds.length, ← Nat.add_assoc]
        rfl
      · rw [torn, hungUp, Table.hangUpAll_hangUp]

/-- **The calls whose bridges have failed are torn down together,** and each is counted once. -/
theorem Sound.reap_tearsDown (sound : exchange.Sound) :
    ∃ callIds : List CallId, callIds.Nodup ∧
      (∀ callId, callId ∈ callIds ↔ ∃ slot ∈ exchange.table.slots,
        slot.isOf callId = true ∧ slot.session.bridgeFailed = true) ∧
      exchange.reap.1 = callIds.length ∧
      exchange.reap.2.counters = { exchange.counters with
        mediaErrors := exchange.counters.mediaErrors + callIds.length } ∧
      TearsDown callIds exchange exchange.reap.2 := by
  obtain ⟨callIds, nodup, named, counted, errors, torn, soundAfter⟩ :=
    sound.reapSlots exchange.table.failedBridges 0 exchange.table.nodup_failedBridges
      fun _ failed => Table.keepsBridge_of_failed failed
  have calls : ∀ callId, callId ∈ callIds ↔ ∃ slot ∈ exchange.table.slots,
      slot.isOf callId = true ∧ slot.session.bridgeFailed = true := by
    intro callId
    have listed : callId ∈ callIds ↔ some callId ∈ callIds.map some := by simp
    rw [listed, ← named, List.mem_map]
    constructor
    · rintro ⟨index, member, names⟩
      obtain ⟨slot, found, live, failed⟩ := mem_failedBridges_iff.mp member
      rw [Table.session?_of_slot found] at names
      exact ⟨slot, List.mem_of_getElem? found, Slot.isOf_iff.mpr ⟨live, names⟩, failed⟩
    · rintro ⟨slot, member, isOf, failed⟩
      obtain ⟨index, found⟩ := List.getElem?_of_mem member
      obtain ⟨live, names⟩ := Slot.isOf_iff.mp isOf
      refine ⟨index, mem_failedBridges_iff.mpr ⟨slot, found, live, failed⟩, ?_⟩
      rw [Table.session?_of_slot found]
      exact names
  refine ⟨callIds, nodup, calls, counted.trans (Nat.zero_add _), errors,
    sound.tearsDown_hangUpAll soundAfter (fun callId member => ?_) torn⟩
  obtain ⟨slot, member, isOf, _⟩ := (calls callId).mp member
  obtain ⟨index, found⟩ := List.getElem?_of_mem member
  exact ⟨index, slot, found, isOf⟩

/-- The three ways in which calls end in an exchange are selective. -/
structure Selective (size : Nat) (exchange : Exchange) : Prop where
  /-- The call of a live leg may be destroyed. -/
  destroyed : ∀ (index : Nat) (slot : Slot), exchange.table.slots[index]? = some slot → 0 < index →
    slot.isLive = true → ∃ callId after, slot.session.callId = some callId ∧
      exchange.destroyCall index = (.ok (), after) ∧ after.counters = exchange.counters ∧
      TearsDown [callId] exchange after
  /-- Any of the bridges may fail before the calls of the failed ones are destroyed. -/
  reaped : ∀ failing : List Nat,
    let struck := failing.foldl (fun exchange index => exchange.failBridge index) exchange
    ∃ callIds : List CallId, callIds.Nodup ∧
      (∀ callId, callId ∈ callIds ↔ ∃ slot ∈ struck.table.slots,
        slot.isOf callId = true ∧ slot.session.bridgeFailed = true) ∧
      struck.reap.1 = callIds.length ∧
      struck.reap.2.counters = { struck.counters with
        mediaErrors := struck.counters.mediaErrors + callIds.length } ∧
      TearsDown callIds struck struck.reap.2
  /-- The socket of a live leg may fail. -/
  lost : ∀ (index : Nat) (slot : Slot) (fault : Fault),
    exchange.table.slots[index]? = some slot → 0 < index → slot.isLive = true →
    (slot.session.onReadable size exchange.resources).1 = .error fault →
    ∃ callId, slot.session.callId = some callId ∧
      (exchange.handleMedia size index).counters = exchange.countMediaError.counters ∧
      TearsDown [callId] exchange (exchange.handleMedia size index)

theorem Sound.selective (sound : exchange.Sound) (size : Nat) : exchange.Selective size where
  destroyed _ _ found behind live := sound.destroyCall_tearsDown found behind live
  reaped failing := by
    have struck :
        (failing.foldl (fun exchange index => exchange.failBridge index) exchange).Sound :=
      List.foldlRecOn _ _ sound fun _ sound index _ => sound.of_quiet (quiet_failBridge index _)
    exact struck.reap_tearsDown
  lost _ _ _ found behind live failed := sound.handleMedia_tearsDown found behind live failed

theorem TearsDown.nothing (exchange : Exchange) : TearsDown [] exchange exchange where
  size_eq := rfl
  two _ member := by cases member
  closes _ _ _ among := by cases among
  spares _ _ found _ := found
  taken _ _ among := by cases among
  ids _ := ⟨fun allocated => ⟨allocated, fun ⟨_, _, among, _⟩ => by cases among⟩, And.left⟩
  ports _ := ⟨fun allocated => ⟨allocated, fun ⟨_, _, among, _⟩ => by cases among⟩, And.left⟩

/-- Where there are no sessions, there is nothing to tear down. -/
theorem selective_of_empty (empty : exchange.table.slots = []) (size : Nat) :
    exchange.Selective size where
  destroyed index slot found := by
    rw [empty] at found
    cases found
  reaped failing := by
    intro struck
    have still : struck.table.slots = [] := by
      refine List.foldlRecOn _ _ (motive := fun exchange : Exchange => exchange.table.slots = [])
        empty fun exchange empty index _ => ?_
      show exchange.table.slots.modify index _ = []
      rw [empty]
      exact List.modify_nil ..
    have none : struck.reap = (0, struck) := by
      rw [reap, Table.failedBridges, still]
      rfl
    refine ⟨[], List.nodup_nil, fun callId => ?_, ?_, ?_, ?_⟩
    · rw [still]
      simp
    all_goals rw [none]
    · rfl
    · rfl
    · exact .nothing struck
  lost index slot fault found := by
    rw [empty] at found
    cases found

end Exchange

namespace Gateway

/-- **Calls are torn down selectively** in every state that a gateway can reach, and in every
state to which steps lead after it was shut down. -/
theorem Reachable.teardown_selective {gateway : Gateway} (reached : gateway.Reachable)
    (size : Nat) :
    gateway.exchange.Selective size ∧
      ∀ later, gateway.shutDown.Leads later → later.exchange.Selective size := by
  refine ⟨reached.sound.selective size, fun later leads => Exchange.selective_of_empty ?_ size⟩
  rw [(leads.of_empty rfl).1]
  rfl

/-- When the bridges of both calls of `requested` have failed, both are torn down, and the slots of
the call that was released before stay closed. -/
theorem teardown_selective_requested :
    Reachable ⟨{}, requested⟩ ∧ requested.Selective 2048 ∧
      ((requested.failBridge 3).failBridge 5).reap.1 = 2 ∧
      ((requested.failBridge 3).failBridge 5).reap.2.table.slots.map Slot.isLive =
        [true, false, false, false, false, false, false] := by
  have reached : Reachable ⟨{}, requested⟩ :=
    Reachable.foldl (fun exchange line => .signaled exchange _) _ reachable_idle
  exact ⟨reached, (Reachable.teardown_selective reached 2048).1, by decide +kernel⟩

end Gateway

end FaxRelay
