import FaxRelay.Proofs.Sockets

/-!
# Sound exchanges

An exchange is sound when its table is, when what is taken of its resources is
what its live sessions have, and when each of these has an open socket of its
own (`Exchange.Sound`). Whatever an exchange does
between two slots of a compaction keeps it sound: a setup adds a whole call or
nothing, the end of a call takes exactly its two legs away, and the rest is
traffic.
-/

set_option autoImplicit false

namespace FaxRelay

open FaxRelay.Media FaxRelay.Net FaxRelay.Pool FaxRelay.Signal

/-- A session holds what its gist holds. -/
theorem Session.Holds.gist {session : Session} {before after : Resources}
    (holds : session.Holds before after) : session.gist.Holds before after :=
  holds.of_fields holds.open_ rfl rfl rfl rfl rfl

namespace Exchange

/-- An exchange whose table is sound and whose live sessions have what is taken, each of them with
an open socket of its own. -/
structure Sound (exchange : Exchange) : Prop where
  table : exchange.table.Sound
  ledger : Ledger exchange.table.gists exchange.resources
  wired : exchange.table.Wired exchange.resources.fabric

namespace Sound

variable {exchange : Exchange}

theorem of_quiet {after : Exchange} (sound : exchange.Sound) (quiet : exchange.Quiet after) :
    after.Sound where
  table := sound.table.of_sameOutline quiet.outline
  ledger := by
    rw [quiet.outline.gists_eq]
    exact Resources.Taken.traffic sound.ledger quiet.traffic
  wired := (sound.wired.of_sameOutline quiet.outline).of_keeps quiet.traffic.keeps

/-- In a sound exchange the number of a live session leads to it. -/
theorem indexOf?_eq (sound : exchange.Sound) {index : Nat} {slot : Slot}
    (found : exchange.table.slots[index]? = some slot) (live : slot.isLive = true) :
    exchange.table.indexOf? slot.session.id = some index := by
  refine Table.findSlot?_of_unique found (by simp [live]) fun other slot' foundOther holds => ?_
  rw [Bool.and_eq_true, decide_eq_true_iff] at holds
  exact Table.place_of_id sound.ledger.ids_nodup foundOther found holds.1 live holds.2

/-! ## Ending a call -/

/-- Destroying the call of a slot that is closed already shuts the slot once more. -/
theorem destroyCall_shut (sound : exchange.Sound) {index : Nat} {slot : Slot}
    (found : exchange.table.slots[index]? = some slot) (closed : slot.isLive = false) :
    exchange.destroyCall index = (.ok (),
      { exchange with
        table := exchange.table.changeSlot index fun _ => ⟨slot.session, Descriptor.shut⟩ }) := by
  obtain ⟨gone, _⟩ := sound.table.closed slot (List.mem_of_getElem? found) closed
  have place : exchange.table.session? index = some slot.session := by
    rw [Table.session?, found]
    rfl
  have slots : exchange.table.callSlots index slot.session = [index] := by
    rw [Table.callSlots, gone.no_peer]
    rfl
  have stopped : exchange.table.changeSession index Session.stopBridge = exchange.table := by
    refine Table.changeSession_eq_self fun session found => ?_
    cases place.symm.trans found
    exact gone.stopBridge_eq
  have destroyed : slot.session.destroy exchange.resources =
      (slot.session, exchange.resources) := if_pos gone.stage_eq
  simp only [Exchange.destroyCall, Table.destroyCall, place, gone.media, slots, List.foldl_cons,
    List.foldl_nil, stopped, Table.closeSlot, destroyed]
  rfl

/-- Destroying the call of a slot that is closed already changes nothing that matters. -/
theorem destroyCall_closed (sound : exchange.Sound) {index : Nat} {slot : Slot}
    (found : exchange.table.slots[index]? = some slot) (closed : slot.isLive = false) :
    ∃ after, exchange.destroyCall index = (.ok (), after) ∧ exchange.Quiet after ∧
      after.counters = exchange.counters := by
  obtain ⟨_, token⟩ := sound.table.closed slot (List.mem_of_getElem? found) closed
  refine ⟨_, sound.destroyCall_shut found closed,
    ⟨Table.sameOutline_changeSlot _ index _ fun other foundOther => ?_,
      Resources.Traffic.refl _⟩, rfl⟩
  cases found.symm.trans foundOther
  have shut : slot.descriptor.closed = true := by simpa [Slot.isLive] using closed
  simp only [Slot.outline, Descriptor.shut, token, shut]

/-- **Destroying the call of a live leg hangs it up**, and the two legs leave the ledger. -/
theorem destroyCall_leg (sound : exchange.Sound) {index : Nat} {slot : Slot}
    (found : exchange.table.slots[index]? = some slot) (behind : 0 < index)
    (live : slot.isLive = true) :
    ∃ callId after, slot.session.callId = some callId ∧
      exchange.destroyCall index = (.ok (), after) ∧
      after.table = exchange.table.hangUp callId ∧ after.counters = exchange.counters ∧
      after.Sound := by
  obtain ⟨callId, partner, front, back, established, established', others, legs, destroyed⟩ :=
    sound.table.destroyCall_leg sound.ledger.ids_nodup found behind live
  have hungUp : exchange.destroyCall index = (.ok (),
      { exchange with
        table := exchange.table.hangUp callId
        resources :=
          (partner.destroy (slot.session.gist.destroy exchange.resources).2).2 }) := by
    rw [destroyCall, destroyed]
  obtain ⟨control, signaling, gists⟩ := sound.table.gists_eq
  have members : slot.session.gist ∈ exchange.table.gists ∧ partner ∈ exchange.table.gists := by
    rw [gists]
    rcases legs with legs | legs <;> rw [legs] <;> simp
  have wired : (exchange.table.hangUp callId).Wired
      (partner.destroy (slot.session.gist.destroy exchange.resources).2).2.fabric := by
    refine sound.wired.hangUp callId fun address member => ?_
    rw [partner.holder?_destroy _ fun has =>
        sound.wired.socket_hangUp members.2 established'.names_call has member,
      slot.session.gist.holder?_destroy _ fun has =>
        sound.wired.socket_hangUp members.1 established.names_call has member]
  refine ⟨callId, _, established.names_call, hungUp, rfl, rfl, sound.table.hangUp callId, ?_, wired⟩
  have ledger := sound.ledger
  rw [gists] at ledger
  show Ledger (exchange.table.hangUp callId).gists _
  rw [Table.gists_hangUp, gists, List.filter_cons_of_pos (by simp [signaling.no_call])]
  -- A call may be ended from either of its legs, so the one that is destroyed first stands before
  -- its partner or behind it.
  rcases legs with legs | legs
  · rw [legs] at ledger ⊢
    rw [filter_pair established.names_call established'.names_call others]
    rw [← List.cons_append] at ledger ⊢
    exact (ledger.leave_pair established.isOpen established.owns established'.isOpen
      established'.owns).1
  · rw [legs] at ledger ⊢
    rw [filter_pair established'.names_call established.names_call others]
    rw [← List.cons_append] at ledger ⊢
    exact (ledger.leave_pair established'.isOpen established'.owns established.isOpen
      established.owns).2

/-- Wherever a call is destroyed, the exchange remains sound and no closed slot opens. -/
theorem destroyCall (sound : exchange.Sound) (index : Nat) :
    (exchange.destroyCall index).2.Sound ∧
      exchange.table.Closing (exchange.destroyCall index).2.table := by
  have unchanged : exchange.table.Closing exchange.table :=
    .of_sameOutline (Table.SameOutline.refl _)
  cases found : exchange.table.slots[index]? with
  | none =>
    have missing : exchange.table.session? index = none := by rw [Table.session?, found]; rfl
    simp only [Exchange.destroyCall, Table.destroyCall, missing]
    exact ⟨sound, unchanged⟩
  | some slot =>
    by_cases live : slot.isLive = true
    · by_cases behind : 0 < index
      · obtain ⟨callId, after, _, destroyed, table, _, soundAfter⟩ :=
          sound.destroyCall_leg found behind live
        rw [destroyed]
        exact ⟨soundAfter, table ▸ .hangUp exchange.table callId⟩
      · obtain ⟨control, rest, slots, _, signaling⟩ := sound.table.control
        have place : exchange.table.session? index = some control.session := by
          rw [Table.session?, Nat.eq_zero_of_not_pos behind, slots]
          rfl
        simp only [Exchange.destroyCall, Table.destroyCall, place, signaling.control, if_true]
        exact ⟨sound, unchanged⟩
    · obtain ⟨after, destroyed, quiet, _⟩ :=
        sound.destroyCall_closed found (Bool.eq_false_iff.mpr live)
      rw [destroyed]
      exact ⟨sound.of_quiet quiet, .of_sameOutline quiet.outline⟩

end Sound

variable {exchange : Exchange}

/-- **A release hangs up the call** that it names, if there is one. -/
theorem Sound.release (sound : exchange.Sound) (callId : CallId) :
    (exchange.release callId).2.table = exchange.table.hangUp callId ∧
      (exchange.release callId).2.Sound := by
  rw [Exchange.release]
  split
  · next missing =>
    rw [Table.hangUp_of_absent (sound.table.findCall?_eq_none missing)]
    exact ⟨rfl, sound⟩
  · next index present =>
    obtain ⟨slot, found, behind, isOf⟩ := Table.findCall?_eq_some present
    obtain ⟨live, names⟩ := Slot.isOf_iff.mp isOf
    obtain ⟨other, after, names', destroyed, table, _, soundAfter⟩ :=
      sound.destroyCall_leg found behind live
    cases names.symm.trans names'
    rw [destroyed]
    exact ⟨table, soundAfter.table, soundAfter.ledger, soundAfter.wired⟩

/-! ## Making a call -/

/-- The two legs that a setup makes are bridged. -/
theorem bridged_of_openLegs {setup : Setup} {role : Role} {base : Nat} {before after : Resources}
    {inbound outbound : Session} (notControl : role ≠ .control) (sound : before.Sound)
    (made : openLegs role base setup before = (.ok (inbound, outbound), after)) :
    Bridged setup.callId inbound.gist outbound.gist := by
  obtain ⟨middle, _, _, _, _, aimed, id, port, id', port', rfl, rfl⟩ :=
    openLegs_ok notControl sound made
  refine ⟨⟨rfl, rfl, rfl, rfl, rfl, rfl, rfl, rfl, rfl, fun _ => rfl⟩,
    ⟨decide_eq_false notControl, rfl, rfl, rfl, rfl, rfl, rfl, rfl, rfl, fun isGateway => ?_⟩,
    rfl, rfl, rfl, ⟨_, _, _, rfl, rfl, rfl⟩, rfl⟩
  have sameRole : role = .gateway := isGateway
  show (if role = .gateway then setup.destination else none).isSome = true
  rw [if_pos sameRole]
  exact aimed sameRole

/-- **A setup keeps the exchange sound**, whether it succeeds or fails. -/
theorem Sound.setUp (sound : exchange.Sound) (setup : Setup) :
    (exchange.setUp setup).2.Sound := by
  cases result : exchange.setUp setup with
  | mk outcome after =>
    cases outcome with
    | error fault =>
      obtain ⟨table, _, unwound, soundAfter⟩ := setUp_error sound.ledger.sound result
      refine ⟨table ▸ sound.table, ?_, ?_⟩
      · show Ledger after.table.gists after.resources
        rw [table]
        exact Resources.Taken.unwound sound.ledger unwound soundAfter
      · show after.table.Wired after.resources.fabric
        rw [table, unwound.fabric_eq]
        exact sound.wired
    | ok address =>
      obtain ⟨role, inbound, outbound, resources, served, welcome, opened, _, rfl⟩ :=
        setUp_ok sound.ledger.sound result
      have notControl := outboundRole?_ne_control served
      obtain ⟨_, _, absent⟩ := objection?_eq_none welcome
      obtain ⟨_, _, _, has, has', bound, bound'⟩ := openLegs_sockets opened
      refine ⟨sound.table.append_pair (bridged_of_openLegs notControl sound.ledger.sound opened)
        (Table.fresh_of_absent (sound.table.findCall?_eq_none absent)), ?_,
        (sound.wired.append has bound).append has' bound'⟩
      obtain ⟨middle, inboundHolds, outboundHolds, soundMiddle, soundAfter, _⟩ :=
        openLegs_ok notControl sound.ledger.sound opened
      show Ledger ((exchange.table.append inbound).append outbound).gists resources
      rw [Table.gists_append, Table.gists_append]
      exact (sound.ledger.enter inboundHolds.gist soundMiddle).enter outboundHolds.gist soundAfter

/-! ## Signaling -/

theorem Sound.counters (sound : exchange.Sound) (counters : Counters) :
    Sound { exchange with counters := counters } := ⟨sound.table, sound.ledger, sound.wired⟩

/-- One datagram keeps the exchange sound. -/
theorem Sound.handleDatagram (sound : exchange.Sound) (datagram : Payload) :
    (exchange.handleDatagram datagram).2.Sound := by
  rw [Exchange.handleDatagram]
  split
  · exact sound.counters _
  · next setup _ =>
    have soundAfter := sound.setUp setup
    dsimp only [answerSetup]
    split
    · next same => rwa [same] at soundAfter
    · next same =>
      rw [same] at soundAfter
      exact soundAfter.counters _
  · next callId _ => exact (sound.release callId).2
  · exact sound
  · exact sound

/-- Before a datagram is handled, its sender is taken note of. -/
theorem quiet_heard (exchange : Exchange) (sender : Endpoint) (payload : Payload) :
    exchange.Quiet
      { exchange with
        table := exchange.table.changeSession 0 fun session => session.heardFrom sender
        resources := exchange.resources.note (.signaled sender payload) } :=
  ⟨Table.sameOutline_changeSession _ _ _ fun session _ => session.gist_heardFrom sender,
    Resources.traffic_note _ ⟨rfl, rfl, rfl⟩⟩

/-- **Handling a datagram of signaling and answering it keeps the exchange sound.** -/
theorem Sound.signal (sound : exchange.Sound) (size : Nat) (datagram : Endpoint × Payload) :
    (exchange.signal size datagram).Sound := by
  have heard := sound.of_quiet (quiet_heard exchange datagram.1 (datagram.2.take size))
  have handled := heard.handleDatagram (datagram.2.take size)
  rw [Exchange.signal]
  split
  · next message _ same =>
    rw [same] at handled
    exact handled.of_quiet (quiet_reply _ message)
  · next same =>
    rw [same] at handled
    exact handled

/-! ## Media -/

/-- **Handling the media of a slot keeps the exchange sound** and opens no closed slot. -/
theorem Sound.handleMedia (sound : exchange.Sound) (size index : Nat) :
    (exchange.handleMedia size index).Sound ∧
      exchange.table.Closing (exchange.handleMedia size index).table := by
  rw [Exchange.handleMedia]
  split
  · exact ⟨sound, .of_sameOutline (Table.SameOutline.refl _)⟩
  next session found =>
  obtain ⟨gist, traffic⟩ := session.traffic_onReadable exchange.resources size
  generalize session.onReadable size exchange.resources = read at gist traffic
  obtain ⟨outcome, later, resources⟩ := read
  have quiet : exchange.Quiet
      { exchange with table := exchange.table.setSession index later, resources := resources } :=
    ⟨Table.sameOutline_setSession found gist, traffic⟩
  have soundHeard := sound.of_quiet quiet
  cases outcome with
  | ok count => exact ⟨soundHeard, .of_sameOutline quiet.outline⟩
  | error fault =>
    obtain ⟨soundAfter, closing⟩ := (soundHeard.counters _).destroyCall index
    exact ⟨soundAfter, (Table.Closing.of_sameOutline quiet.outline).trans closing⟩

theorem Sound.reapSlot (sound : exchange.Sound) (count index : Nat) :
    (Exchange.reapSlot (count, exchange) index).2.Sound := by
  have soundAfter := ((sound.counters { exchange.counters with
    mediaErrors := exchange.counters.mediaErrors + 1 }).destroyCall index).1
  rw [Exchange.reapSlot]
  split
  · exact sound
  · change (exchange.countMediaError.destroyCall index).2.Sound at soundAfter
    split
    · next same => rwa [same] at soundAfter
    · next same => rwa [same] at soundAfter

end Exchange

end FaxRelay
