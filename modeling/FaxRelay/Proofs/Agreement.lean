import FaxRelay.Proofs.Alike
import FaxRelay.Proofs.Replies

/-!
# Exchanges that agree

Two exchanges agree when they have the same live sessions, alike resources and
the same counts (`Exchange.Agrees`). Closed slots and traffic may be different.
A datagram of signaling is handled in the same way by both: they give the same
reply, do the same to their tables (`Table.Edit`), and still agree afterwards.

Closed slots take up room until they are dropped. So when the datagram is a
request for a call, both tables are supposed to have room for it, or neither.
-/

set_option autoImplicit false

namespace FaxRelay

open FaxRelay.Media FaxRelay.Net FaxRelay.Pool FaxRelay.Signal

/-! ## What is done to a table -/

namespace Table

/-- No slot keeps a bridge that has failed. -/
def Running (table : Table) : Prop := ∀ slot ∈ table.slots, slot.session.bridgeFailed = false

/-- What a datagram of signaling may do to a table: nothing, enter the legs of a call whose bridge
runs, or hang up a call. -/
inductive Edit where
  | keep
  | enter (inbound outbound : Session)
      (running : inbound.bridgeFailed = false ∧ outbound.bridgeFailed = false)
  | hangUp (callId : CallId)

/-- A table after something was done to it. -/
def Edit.apply (table : Table) : Edit → Table
  | .keep => table
  | .enter inbound outbound _ => (table.append inbound).append outbound
  | .hangUp callId => table.hangUp callId

/-- How many calls are entered. -/
def Edit.calls : Edit → Nat
  | .enter _ _ _ => 1
  | _ => 0

theorem Edit.capacity_apply (table : Table) (edit : Edit) :
    (edit.apply table).capacity = table.capacity := by
  cases edit <;> rfl

/-- Hanging up leaves the slots where they are, so that a table only grows. -/
theorem Edit.size_apply (table : Table) (edit : Edit) :
    (edit.apply table).size = table.size + 2 * edit.calls := by
  cases edit with
  | keep => rfl
  | enter inbound outbound running => simp [apply, append, size, calls]
  | hangUp callId => simp [apply, Table.hangUp, size, calls]

/-- No bridge fails through it. -/
theorem Edit.running_apply {table : Table} (running : table.Running) (edit : Edit) :
    (edit.apply table).Running := by
  intro slot member
  cases edit with
  | keep => exact running slot member
  | enter inbound outbound both =>
    rcases List.mem_append.mp member with member | member
    · rcases List.mem_append.mp member with member | member
      · exact running slot member
      · cases List.mem_singleton.mp member
        exact both.1
    · cases List.mem_singleton.mp member
      exact both.2
  | hangUp callId =>
    obtain ⟨old, oldMember, rfl⟩ := List.mem_map.mp member
    rw [Slot.hangUp]
    split
    · rfl
    · exact running old oldMember

/-- The same done to tables with the same live sessions leaves them with the same live sessions. -/
theorem Edit.gists_apply {left right : Table} (same : right.gists = left.gists) (edit : Edit) :
    (edit.apply right).gists = (edit.apply left).gists := by
  cases edit with
  | keep => exact same
  | enter inbound outbound running =>
    simp only [apply, gists_append, same]
  | hangUp callId =>
    simp only [apply, gists_hangUp, same]

/-- The control session stays what it is. -/
theorem Edit.control?_apply {table : Table} (sound : table.Sound) (edit : Edit) :
    (edit.apply table).control? = table.control? := by
  obtain ⟨control, rest, slots, _, signaling⟩ := sound.control
  cases edit with
  | keep => rfl
  | enter inbound outbound running =>
    simp only [apply, control?, session?, append, slots, List.cons_append,
      List.getElem?_cons_zero]
  | hangUp callId =>
    have spared : control.hangUp callId = control :=
      if_neg fun isOf => by cases signaling.no_call.symm.trans (Slot.isOf_iff.mp isOf).2
    simp only [apply, control?, session?, Table.hangUp, slots, List.map_cons,
      List.getElem?_cons_zero, spared]

/-! ## Looking for a call -/

variable {table : Table} {callId : CallId}

/-- The slot in which a call is found holds its first leg. -/
theorem Sound.find?_gists (sound : table.Sound) {index : Nat}
    (present : table.findCall? callId = some index) {slot : Slot}
    (found : table.slots[index]? = some slot) :
    table.gists.find? (fun leg => leg.callId = some callId) = some slot.session.gist := by
  obtain ⟨⟨other, place⟩, search, rfl⟩ := Option.map_eq_some_iff.mp present
  obtain ⟨holds, front, back, split, earlier⟩ := List.find?_eq_some_iff_append.mp search
  have places : ∀ entry ∈ front ++ (other, place) :: back, table.slots[entry.2]? = some entry.1 :=
    fun entry member => List.mem_zipIdx_iff_getElem?.mp (split ▸ member)
  cases found.symm.trans
    (places (other, place) (List.mem_append_right _ (List.mem_cons_self ..)))
  simp only [Bool.and_eq_true, decide_eq_true_eq] at holds
  obtain ⟨⟨_, live⟩, names⟩ := holds
  have slots : table.slots = front.map Prod.fst ++ other :: back.map Prod.fst := by
    have firsts := congrArg (List.map Prod.fst) split
    rwa [List.zipIdx_map_fst, List.map_append, List.map_cons] at firsts
  rw [gists, slots, List.filterMap_append, List.filterMap_cons_some (Slot.gist?_of_isLive live)]
  refine List.find?_eq_some_iff_append.mpr
    ⟨decide_eq_true names, _, _, rfl, fun leg member => ?_⟩
  obtain ⟨_, slotMember, picked⟩ := List.mem_filterMap.mp member
  obtain ⟨⟨third, index⟩, entryMember, rfl⟩ := List.mem_map.mp slotMember
  have skipped := earlier _ entryMember
  have foundThird := places _ (List.mem_append_left _ entryMember)
  rw [Slot.gist?] at picked
  split at picked
  case isFalse => cases picked
  next liveThird =>
  cases picked
  -- Whatever names the call stands behind the control session, so it would have been found.
  refine Bool.not_eq_true' _ |>.mpr (decide_eq_false fun namesThird => ?_)
  have behind := sound.behind_of_call foundThird namesThird
  have namesToo : third.session.callId = some callId := namesThird
  simp [behind, liveThird, namesToo] at skipped

/-- Tables with the same live sessions have the same legs. -/
theorem Sound.legs_eq_of_gists {left right : Table} (sound : left.Sound) (sound' : right.Sound)
    (same : right.gists = left.gists) : right.legs = left.legs := by
  obtain ⟨_, _, gists⟩ := sound.gists_eq
  obtain ⟨_, _, gists'⟩ := sound'.gists_eq
  rw [gists, gists'] at same
  exact (List.cons.inj same).2

/-- No call is found exactly if no leg names it. -/
theorem Sound.findCall?_eq_none_iff (sound : table.Sound) :
    table.findCall? callId = none ↔ ∀ leg ∈ table.legs, leg.callId ≠ some callId := by
  constructor
  · intro missing
    exact fresh_of_absent (sound.findCall?_eq_none missing)
  · intro fresh
    cases present : table.findCall? callId with
    | none => rfl
    | some index =>
      obtain ⟨slot, found, behind, isOf⟩ := findCall?_eq_some present
      obtain ⟨live, names⟩ := Slot.isOf_iff.mp isOf
      exact absurd names (fresh slot.session.gist (gist_mem_legs found behind live))

end Table

namespace Exchange

/-! ## Agreement -/

/-- Two exchanges with the same live sessions, alike resources and the same counts. -/
structure Agrees (left right : Exchange) : Prop where
  gists_eq : right.table.gists = left.table.gists
  alike : left.resources.Alike right.resources
  counters_eq : right.counters = left.counters

namespace Agrees

variable {first second third : Exchange}

theorem refl (exchange : Exchange) : exchange.Agrees exchange := ⟨rfl, .refl _, rfl⟩

theorem symm (agrees : first.Agrees second) : second.Agrees first :=
  ⟨agrees.gists_eq.symm, agrees.alike.symm, agrees.counters_eq.symm⟩

theorem trans (earlier : first.Agrees second) (later : second.Agrees third) :
    first.Agrees third :=
  ⟨later.gists_eq.trans earlier.gists_eq, earlier.alike.trans later.alike,
    later.counters_eq.trans earlier.counters_eq⟩

/-- An exchange agrees with what traffic makes of it. -/
theorem of_passing (passing : first.Passing second) : first.Agrees second :=
  ⟨passing.outline.gists_eq, passing.steady.alike, passing.counters_eq⟩

/-- An exchange agrees with itself after its slots were rearranged. -/
theorem of_rearranged (rearranged : first.Rearranged second) : first.Agrees second :=
  ⟨rearranged.gists_eq, rearranged.resources_eq ▸ .refl _, rearranged.counters_eq⟩

end Agrees

/-- Where signaling is taken is a matter of the live sessions. -/
theorem Sound.listens_of_gists {before after : Exchange} (sound : before.Sound)
    (sound' : after.Sound) (same : after.table.gists = before.table.gists) {address : Endpoint}
    (listens : before.table.control?.bind Session.socket = some address) :
    after.table.control?.bind Session.socket = some address := by
  obtain ⟨control, _, bound, member, signals, _⟩ := sound.control_of_listens listens
  obtain ⟨other, present', bound'⟩ := sound.control_socket_eq sound' same member signals bound
  rw [present', Option.bind_some, bound']

/-- Two exchanges that agree and were changed in the same way, so that they still agree; at most a
given number of calls was entered. -/
structure Alongside (calls : Nat) (left right left' right' : Exchange) : Prop where
  agrees : left'.Agrees right'
  edited : ∃ edit : Table.Edit, edit.calls ≤ calls ∧ left'.table = edit.apply left.table ∧
    right'.table = edit.apply right.table

section Agreement

variable {left right : Exchange} (agrees : left.Agrees right)
include agrees

/-- What leaves the tables alone. -/
theorem Agrees.kept {left' right' : Exchange} (calls : Nat) (table : left'.table = left.table)
    (table' : right'.table = right.table) (alike : left'.resources.Alike right'.resources)
    (counters : right'.counters = left'.counters) : Alongside calls left right left' right' :=
  ⟨⟨by rw [table, table']; exact agrees.gists_eq, alike, counters⟩, .keep, Nat.zero_le _, table,
    table'⟩

variable (sound : left.Sound) (sound' : right.Sound)
include sound sound'

/-- A call that both find is ended in the same way. -/
theorem Agrees.destroyCall {callId : CallId} {index index' : Nat}
    (present : left.table.findCall? callId = some index)
    (present' : right.table.findCall? callId = some index') :
    ∃ after after', left.destroyCall index = (.ok (), after) ∧
      right.destroyCall index' = (.ok (), after') ∧ after.table = left.table.hangUp callId ∧
      after'.table = right.table.hangUp callId ∧ after.resources.Alike after'.resources ∧
      after.counters = left.counters ∧ after'.counters = right.counters := by
  obtain ⟨slot, found, behind, isOf⟩ := Table.findCall?_eq_some present
  obtain ⟨slot', found', behind', isOf'⟩ := Table.findCall?_eq_some present'
  obtain ⟨live, names⟩ := Slot.isOf_iff.mp isOf
  obtain ⟨live', names'⟩ := Slot.isOf_iff.mp isOf'
  have sameLeg : slot'.session.gist = slot.session.gist := by
    have first := sound.table.find?_gists present found
    have first' := sound'.table.find?_gists present' found'
    rw [agrees.gists_eq, first] at first'
    exact (Option.some.inj first').symm
  obtain ⟨other, partner, front, back, established, _, _, legs, destroyed⟩ :=
    sound.table.destroyCall_leg sound.ledger.ids_nodup found behind live
  obtain ⟨other', partner', front', back', established', _, _, legs', destroyed'⟩ :=
    sound'.table.destroyCall_leg sound'.ledger.ids_nodup found' behind' live'
  cases names.symm.trans established.names_call
  cases names'.symm.trans established'.names_call
  have samePartner : partner' = partner := by
    have peer : slot.session.gist.peer = some partner.id := established.names_peer
    have peer' : slot'.session.gist.peer = some partner'.id := established'.names_peer
    rw [sameLeg, peer] at peer'
    have member : partner ∈ left.table.legs := by
      rcases legs with legs | legs <;> rw [legs] <;> simp
    have member' : partner' ∈ left.table.legs := by
      rw [← sound.table.legs_eq_of_gists sound'.table agrees.gists_eq]
      rcases legs' with legs' | legs' <;> rw [legs'] <;> simp
    obtain ⟨_, _, gists⟩ := sound.table.gists_eq
    have distinct := sound.ledger.ids_nodup
    rw [gists, ← List.filterMap_eq_map] at distinct
    exact eq_of_pick distinct (List.mem_cons_of_mem _ member') (List.mem_cons_of_mem _ member)
      peer'.symm rfl
  refine ⟨{ left with
      table := left.table.hangUp callId
      resources := (partner.destroy (slot.session.gist.destroy left.resources).2).2 },
    { right with
      table := right.table.hangUp callId
      resources := (partner'.destroy (slot'.session.gist.destroy right.resources).2).2 },
    ?_, ?_, rfl, rfl, ?_, rfl, rfl⟩
  · rw [Exchange.destroyCall, destroyed]
  · rw [Exchange.destroyCall, destroyed']
  · rw [sameLeg, samePartner]
    exact (agrees.alike.destroy slot.session.gist _).destroy partner _

/-- Both find the same calls. -/
theorem Agrees.findCall?_eq_none_iff (callId : CallId) :
    right.table.findCall? callId = none ↔ left.table.findCall? callId = none := by
  rw [sound.table.findCall?_eq_none_iff, sound'.table.findCall?_eq_none_iff,
    sound.table.legs_eq_of_gists sound'.table agrees.gists_eq]

theorem Agrees.release (callId : CallId) :
    Alongside 0 left right (left.release callId).2 (right.release callId).2 := by
  have same := agrees.findCall?_eq_none_iff sound sound' callId
  rw [Exchange.release, Exchange.release]
  cases present : left.table.findCall? callId with
  | none =>
    rw [same.mpr present]
    exact agrees.kept _ rfl rfl agrees.alike agrees.counters_eq
  | some index =>
    cases present' : right.table.findCall? callId with
    | none => cases present.symm.trans (same.mp present')
    | some index' =>
      obtain ⟨after, after', destroyed, destroyed', table, table', alike, counters, counters'⟩ :=
        agrees.destroyCall sound sound' present present'
      dsimp only
      rw [destroyed, destroyed']
      refine ⟨⟨?_, alike, ?_⟩, .hangUp callId, Nat.le_refl _, table, table'⟩
      · show after'.table.gists = after.table.gists
        rw [table, table']
        exact Table.Edit.gists_apply agrees.gists_eq (.hangUp callId)
      · dsimp only
        rw [counters, counters', agrees.counters_eq]

/-- Where there is room in both tables or in neither, neither objects when the other does not. -/
theorem Agrees.objection?_eq_none
    (room : left.table.remaining < 2 ↔ right.table.remaining < 2) {callId : CallId}
    (welcome : objection? left.table callId = none) : objection? right.table callId = none := by
  obtain ⟨_, space, absent⟩ := Exchange.objection?_eq_none welcome
  obtain ⟨control, _, present, _⟩ := sound'.control_socket
  have space' : ¬ right.table.remaining < 2 := fun tight => by
    have tight := room.mpr tight
    omega
  have absent' := (agrees.findCall?_eq_none_iff sound sound' callId).mpr absent
  rw [objection?, present, absent', if_neg space']
  rfl

omit agrees sound sound' in
/-- A setup to which there is no objection succeeds when its legs can be had. -/
theorem setUp_of_openLegs {exchange : Exchange} {setup : Setup} {role : Role}
    {inbound outbound : Session} {later : Resources} {address : Endpoint}
    (served : outboundRole? setup.mode = some role)
    (welcome : objection? exchange.table setup.callId = none)
    (opened : openLegs role exchange.table.size setup exchange.resources =
      (.ok (inbound, outbound), later)) (inboundMedia : inbound.isControl = false)
    (outboundMedia : outbound.isControl = false) (has : inbound.localAddress = some address) :
    exchange.setUp setup = (.ok address,
      { table := (exchange.table.append inbound).append outbound
        resources := later
        counters :=
          { exchange.counters with established := exchange.counters.established + 1 } }) := by
  obtain ⟨control, space, _⟩ := Exchange.objection?_eq_none welcome
  simp only [Exchange.setUp, served, welcome, opened, has,
    enter_eq_ok control space inboundMedia outboundMedia]

/-- **Both make the same call,** or neither makes one. -/
theorem Agrees.setUp (setup : Setup)
    (room : left.table.remaining < 2 ↔ right.table.remaining < 2) :
    (∃ fault fault' later later',
      left.setUp setup = (.error fault, { left with resources := later }) ∧
      right.setUp setup = (.error fault', { right with resources := later' }) ∧
      later.Alike later') ∨
    ∃ address inbound outbound later later',
      (inbound.bridgeFailed = false ∧ outbound.bridgeFailed = false) ∧
      left.setUp setup = (.ok address,
        { table := (left.table.append inbound).append outbound
          resources := later
          counters := { left.counters with established := left.counters.established + 1 } }) ∧
      right.setUp setup = (.ok address,
        { table := (right.table.append inbound).append outbound
          resources := later'
          counters := { right.counters with established := right.counters.established + 1 } }) ∧
      later.Alike later' := by
  cases served : outboundRole? setup.mode with
  | none =>
    rw [Exchange.setUp, Exchange.setUp, served]
    exact .inl ⟨_, _, _, _, rfl, rfl, agrees.alike⟩
  | some role =>
    cases welcome : objection? left.table setup.callId with
    | some fault =>
      cases welcome' : objection? right.table setup.callId with
      | none =>
        cases welcome.symm.trans
          (agrees.symm.objection?_eq_none sound' sound room.symm welcome')
      | some fault' =>
        rw [Exchange.setUp, Exchange.setUp, served]
        dsimp only
        rw [welcome, welcome']
        exact .inl ⟨_, _, _, _, rfl, rfl, agrees.alike⟩
    | none =>
      have welcome' := agrees.objection?_eq_none sound sound' room welcome
      obtain ⟨outcome, later, later', opens, opens', alike⟩ :=
        openLegs_alike agrees.alike role setup left.table.size right.table.size
      cases outcome with
      | error fault =>
        refine .inl ⟨fault, fault, later, later', ?_, ?_, alike⟩
        · simp only [Exchange.setUp, served, welcome, opens]
        · simp only [Exchange.setUp, served, welcome', opens', Except.map]
      | ok legs =>
        obtain ⟨inbound, outbound⟩ := legs
        have notControl := outboundRole?_ne_control served
        obtain ⟨_, _, _, _, _, _, id, port, id', port', rfl, rfl⟩ :=
          openLegs_ok notControl sound.ledger.sound opens
        have media := decide_eq_false notControl
        -- Entered into a table, a leg learns its place there, wherever it was opened.
        have made := setUp_of_openLegs served welcome opens rfl media rfl
        have made' := setUp_of_openLegs served welcome' opens' rfl media rfl
        exact .inr ⟨_, _, _, later, later', ⟨rfl, rfl⟩, made, made', alike⟩

theorem Agrees.answerSetup (setup : Setup)
    (room : left.table.remaining < 2 ↔ right.table.remaining < 2) :
    (left.answerSetup setup).1 = (right.answerSetup setup).1 ∧
      Alongside 1 left right (left.answerSetup setup).2 (right.answerSetup setup).2 := by
  rw [Exchange.answerSetup, Exchange.answerSetup]
  rcases agrees.setUp sound sound' setup room with
    ⟨fault, fault', later, later', failed, failed', alike⟩ |
    ⟨address, inbound, outbound, later, later', running, made, made', alike⟩
  · rw [failed, failed']
    refine ⟨rfl, agrees.kept _ rfl rfl alike ?_⟩
    dsimp only
    rw [agrees.counters_eq]
  · rw [made, made']
    refine ⟨rfl, ⟨?_, alike, ?_⟩, .enter inbound outbound running, Nat.le_refl _, rfl, rfl⟩
    · exact Table.Edit.gists_apply agrees.gists_eq (.enter inbound outbound running)
    · dsimp only
      rw [agrees.counters_eq]

/-- **Exchanges that agree handle a datagram in the same way.** -/
theorem Agrees.handleDatagram (datagram : Payload)
    (room : asksForCall datagram = true →
      (left.table.remaining < 2 ↔ right.table.remaining < 2)) :
    (left.handleDatagram datagram).1 = (right.handleDatagram datagram).1 ∧
      Alongside (if asksForCall datagram then 1 else 0) left right
        (left.handleDatagram datagram).2 (right.handleDatagram datagram).2 := by
  rw [Exchange.handleDatagram, Exchange.handleDatagram]
  cases read : Message.ofDatagram datagram with
  | error fault =>
    refine ⟨rfl, agrees.kept _ rfl rfl agrees.alike ?_⟩
    dsimp only
    rw [agrees.counters_eq]
  | ok message =>
    cases message with
    | setup setup =>
      have asks : asksForCall datagram = true := by rw [asksForCall, read]
      obtain ⟨reply, alongside⟩ := agrees.answerSetup sound sound' setup (room asks)
      rw [if_pos asks]
      exact ⟨congrArg some reply, alongside⟩
    | release callId =>
      have none : asksForCall datagram = false := by rw [asksForCall, read]
      rw [none]
      exact ⟨rfl, agrees.release sound sound' callId⟩
    | ok callId address => exact ⟨rfl, agrees.kept _ rfl rfl agrees.alike agrees.counters_eq⟩
    | error callId complaint => exact ⟨rfl, agrees.kept _ rfl rfl agrees.alike agrees.counters_eq⟩

/-! ## Answering -/

/-- Both take signaling at the same endpoint. -/
theorem Agrees.listens {address : Endpoint}
    (listens : left.table.control?.bind Session.socket = some address) :
    right.table.control?.bind Session.socket = some address :=
  sound.listens_of_gists sound' agrees.gists_eq listens

omit sound sound' in
theorem Agrees.noting (sender : Endpoint) (payload : Payload) :
    (left.noting sender payload).Agrees (right.noting sender payload) where
  gists_eq := (quiet_heard right sender payload).outline.gists_eq.trans
    (agrees.gists_eq.trans (quiet_heard left sender payload).outline.gists_eq.symm)
  alike := agrees.alike.note _ _
  counters_eq := agrees.counters_eq

/-- **Exchanges that agree answer a datagram with the same reply,** and still agree once it is sent,
whether it was refused or not. -/
theorem Agrees.signal (size : Nat) (datagram : Endpoint × Payload)
    (room : asksForCall (datagram.2.take size) = true →
      (left.table.remaining < 2 ↔ right.table.remaining < 2)) :
    (left.handling size datagram).1 = (right.handling size datagram).1 ∧
      Alongside (if asksForCall (datagram.2.take size) then 1 else 0)
        (left.noting datagram.1 (datagram.2.take size))
        (right.noting datagram.1 (datagram.2.take size)) (left.signal size datagram)
        (right.signal size datagram) := by
  obtain ⟨address, listens⟩ := sound.exists_listens
  have listens' := agrees.listens sound sound' listens
  have noted := agrees.noting datagram.1 (datagram.2.take size)
  obtain ⟨reply, alongside⟩ := noted.handleDatagram
    (sound.noting datagram.1 (datagram.2.take size))
    (sound'.noting datagram.1 (datagram.2.take size)) (datagram.2.take size)
    (by simpa only [Exchange.noting, Table.remaining, Table.size, Table.changeSession,
      Table.changeSlot, List.length_modify] using room)
  refine ⟨reply, ?_⟩
  change (left.handling size datagram).1 = (right.handling size datagram).1 at reply
  rcases sound.signal_cases listens size datagram with
    ⟨none, signaled⟩ | ⟨message, line, some, _, _, signaled⟩
  · rcases sound'.signal_cases listens' size datagram with
      ⟨_, signaled'⟩ | ⟨_, _, some', _⟩
    · rw [signaled, signaled']
      exact alongside
    · rw [none, some'] at reply
      cases reply
  · rcases sound'.signal_cases listens' size datagram with
      ⟨none', _⟩ | ⟨message', line', some', _, _, signaled'⟩
    · rw [some, none'] at reply
      cases reply
    · rw [signaled, signaled']
      obtain ⟨⟨gists, alike, counters⟩, edited⟩ := alongside
      have steady := Resources.steady_transmit (left.handling size datagram).2.resources
        ⟨address, datagram.1, line⟩
      have steady' := Resources.steady_transmit (right.handling size datagram).2.resources
        ⟨address, datagram.1, line'⟩
      exact ⟨⟨gists, (steady.alike.symm.trans alike).trans steady'.alike, counters⟩, edited⟩

end Agreement

variable {exchange : Exchange}

/-- What a datagram of signaling does to the table that has taken note of it. -/
theorem Sound.edited_signal (sound : exchange.Sound) (size : Nat) (datagram : Endpoint × Payload) :
    ∃ edit : Table.Edit, edit.calls ≤ (if asksForCall (datagram.2.take size) then 1 else 0) ∧
      (exchange.signal size datagram).table =
        edit.apply (exchange.noting datagram.1 (datagram.2.take size)).table := by
  obtain ⟨_, _, edit, calls, table, _⟩ :=
    (Agrees.refl exchange).signal sound sound size datagram fun _ => Iff.rfl
  exact ⟨edit, calls, table⟩

/-- Wherever a datagram leads, the control session listens where it did. -/
theorem Sound.listens_signal (sound : exchange.Sound) {address : Endpoint}
    (listens : exchange.table.control?.bind Session.socket = some address) (size : Nat)
    (datagram : Endpoint × Payload) :
    (exchange.signal size datagram).table.control?.bind Session.socket = some address := by
  obtain ⟨control, _, listens', present, bound, _⟩ :=
    sound.control_noting datagram.1 (datagram.2.take size)
  cases listens.symm.trans listens'
  obtain ⟨edit, _, table⟩ := sound.edited_signal size datagram
  rw [table, edit.control?_apply (sound.noting ..).table, present, Option.bind_some, bound]

theorem Sound.listens_signals (sound : exchange.Sound) {address : Endpoint}
    (listens : exchange.table.control?.bind Session.socket = some address) (size : Nat)
    (datagrams : List (Endpoint × Payload)) :
    (datagrams.foldl (Exchange.signal size) exchange).table.control?.bind Session.socket =
      some address := by
  induction datagrams generalizing exchange with
  | nil => exact listens
  | cons datagram rest ih =>
    exact ih (sound.signal size datagram) (sound.listens_signal listens size datagram)

end Exchange

end FaxRelay
