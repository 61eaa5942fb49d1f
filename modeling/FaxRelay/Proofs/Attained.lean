import FaxRelay.Proofs.Moments

/-!
# Attained states

Every step of a round is made of moments when it begins in a sound exchange
(`Exchange.Sound.moments_of_step`), and so is shutting down
(`Exchange.Sound.moments_destroyAll`). The states to which moments lead from the
start of a gateway are those that it attains (`Gateway.Attained`). Among them
are all that it reaches, but also those in between, in which a call is half
destroyed or a frame has just been moved.

What holds at the start and is kept by every moment holds at all of them, so it
holds at every point of every run.
-/

set_option autoImplicit false

namespace FaxRelay

open FaxRelay.Media FaxRelay.Net FaxRelay.Pool FaxRelay.Signal

/-- A slot that is closed stays closed. -/
theorem Table.Closing.closed_at {before after : Table} (closing : before.Closing after)
    {index : Nat} (closed : ∀ slot, before.slots[index]? = some slot → slot.isLive = false)
    {later : Slot} (found : after.slots[index]? = some later) : later.isLive = false := by
  have inside : index < before.slots.length :=
    Nat.lt_of_lt_of_eq (List.getElem?_eq_some_iff.mp found).1 closing.size_eq
  have place := List.getElem?_eq_getElem inside
  obtain ⟨slot, present, still⟩ := closing.stays index _ place (closed _ place)
  cases present.symm.trans found
  exact still

namespace Exchange

variable {exchange : Exchange} {size : Nat}

/-! ## Signaling -/

theorem Sound.moments_release (sound : exchange.Sound) (callId : CallId) :
    Moments size exchange (exchange.release callId).2 := by
  rw [Exchange.release]
  split
  · exact .refl
  next index _ =>
  have ended : Moments size _ _ := sound.moments_destroyCall index
  split
  · next same => rwa [same] at ended
  · next same =>
    rw [same] at ended
    exact ended.tail (.counted _ _)

theorem Sound.moments_handleDatagram (sound : exchange.Sound) (datagram : Payload) :
    Moments size exchange (exchange.handleDatagram datagram).2 := by
  rw [Exchange.handleDatagram]
  split
  · exact .single (.counted exchange _)
  · next setup _ =>
    have made : Moment size _ _ := .setUp exchange setup
    dsimp only [answerSetup]
    split
    · next same =>
      rw [same] at made
      exact .single made
    · next same =>
      rw [same] at made
      exact .tail (.single made) (.counted _ _)
  · next callId _ => exact sound.moments_release callId
  · exact .refl
  · exact .refl

/-- Handling a datagram of signaling and answering it. -/
theorem Sound.moments_signal (sound : exchange.Sound) (cut : Nat)
    (datagram : Endpoint × Payload) : Moments size exchange (exchange.signal cut datagram) := by
  obtain ⟨control, rest, slots, _, signaling⟩ := sound.table.control
  have first : exchange.table.session? 0 = some control.session := by
    rw [Table.session?, slots]
    rfl
  have heard := sound.of_quiet (quiet_heard exchange datagram.1 (datagram.2.take cut))
  have noted : Moment size _ _ :=
    .noted exchange first signaling datagram.1 (datagram.2.take cut)
  have handled : Moments size _ _ := heard.moments_handleDatagram (datagram.2.take cut)
  rw [Exchange.signal]
  split
  · next message _ same =>
    rw [same] at handled
    exact (handled.head noted).tail (.replied _ message)
  · next same =>
    rw [same] at handled
    exact handled.head noted

/-! ## Media -/

/-- Handling the media of a slot. -/
theorem Sound.moments_handleMedia (sound : exchange.Sound) (index : Nat) :
    Moments size exchange (exchange.handleMedia size index) := by
  cases found : exchange.table.session? index with
  | none =>
    simp only [Exchange.handleMedia, found]
    exact .refl
  | some session =>
    have read : Moments size exchange
        { exchange with
          table := exchange.table.setSession index
            (session.onReadable size exchange.resources).2.1
          resources := (session.onReadable size exchange.resources).2.2 } := by
      cases bound : session.socket with
      | none =>
        simp only [Session.onReadable, bound, Table.setSession_self found]
        exact .refl
      | some address => exact moments_onReadable _ found bound rfl
    obtain ⟨gist, traffic⟩ := session.traffic_onReadable exchange.resources size
    have quiet : exchange.Quiet
        { exchange with
          table := exchange.table.setSession index
            (session.onReadable size exchange.resources).2.1
          resources := (session.onReadable size exchange.resources).2.2 } :=
      ⟨Table.sameOutline_setSession found gist, traffic⟩
    simp only [Exchange.handleMedia, found]
    split
    · exact read
    · exact (read.tail (.counted _ _)).trans
        (((sound.of_quiet quiet).counters _).moments_destroyCall index)

/-! ## Steps -/

theorem Sound.moments_reapSlot (sound : exchange.Sound) (count index : Nat) :
    Moments size exchange (Exchange.reapSlot (count, exchange) index).2 := by
  have ended : Moments size exchange (exchange.countMediaError.destroyCall index).2 :=
    .head (.counted exchange _) ((sound.counters _).moments_destroyCall index)
  rw [Exchange.reapSlot]
  split
  · exact .refl
  · split
    · next same => rwa [same] at ended
    · next same => rwa [same] at ended

theorem Sound.moments_reapWith (sound : exchange.Sound) {beside : Nat → Exchange → Exchange}
    (between : ∀ index exchange, Beside exchange (beside index exchange)) :
    Moments size exchange (exchange.reapWith beside) := by
  rw [Exchange.reapWith]
  generalize exchange.table.failedBridges = indices
  generalize 0 = count
  induction indices generalizing count exchange with
  | nil => exact .refl
  | cons index rest ih =>
    have reaped : Moments size _ _ := sound.moments_reapSlot count index
    have beside := between index (Exchange.reapSlot (count, exchange) index).2
    exact (reaped.trans beside.moments).trans
      (ih ((sound.reapSlot count index).of_quiet beside.quiet) _)

/-- A compaction is made of moments when the handling of each slot is. -/
theorem Sound.moments_compactWith (sound : exchange.Sound) {handle : Nat → Exchange → Exchange}
    (keeps : Keeps handle)
    (handled : ∀ index exchange, exchange.Sound → Moments size exchange (handle index exchange)) :
    Moments size exchange (exchange.compactWith handle).2 := by
  have scans : Scans handle fun _ later => Moments size exchange later := by
    refine ⟨fun {target source _ _} _ _ _ earlier => earlier.tail (.moved _ target source),
      fun {target later _} sound _ _ _ earlier => ?_⟩
    have cleared : Moment size later _ := .marked later target false
    exact (earlier.tail cleared).trans
      (handled target _ (sound.of_quiet (quiet_clearReadable later target)))
  obtain ⟨target, scanned, scanning, scan, compacted⟩ := scans.compactWith keeps sound .refl
  rw [compacted]
  refine scan.tail (.cut scanned fun slot member => ?_)
  obtain ⟨place, found⟩ := List.getElem?_of_mem member
  rw [List.getElem?_drop] at found
  have closed :=
    scanning.gap _ slot (Nat.le_add_right ..) (List.getElem?_eq_some_iff.mp found).1 found
  obtain ⟨gone, _⟩ := scanning.sound.table.closed slot (List.mem_of_getElem? found) closed
  exact Session.isEngaged_eq_false.mpr ⟨gone.no_engine, gone.no_bridge⟩

/-- **Every step from a sound exchange is made of moments.** -/
theorem Sound.moments_of_step {before after : Exchange} (sound : before.Sound)
    (step : Step size before after) : Moments size before after := by
  cases step with
  | beside beside => exact beside.moments
  | settled address => exact .single (.settled _ address)
  | reported token =>
    rw [Table.markReadable]
    split
    · exact .refl
    · next index _ => exact .single (.marked before index true)
  | unmarked => exact .single (.marked before 0 false)
  | drained control => exact .single (.drained before _)
  | signaled datagram => exact sound.moments_signal size datagram
  | reaped between => exact sound.moments_reapWith between
  | compacted between =>
    exact sound.moments_compactWith (keeps_handleMedia between) fun index exchange sound =>
      (sound.moments_handleMedia index).trans (between index _).moments

/-! ## Shutting down -/

/-- Destroying the call in a slot, if the slot is live: the slot is closed afterwards. -/
theorem Sound.moments_destroyLive (sound : exchange.Sound) (size calls : Nat) {index : Nat}
    (behind : 0 < index) :
    ∃ later after, Table.destroyLive (calls, exchange.table, exchange.resources) index =
        (later, after.table, after.resources) ∧
      Moments size exchange after ∧ after.Sound ∧ after.counters = exchange.counters ∧
      exchange.table.Closing after.table ∧
      ∀ slot, after.table.slots[index]? = some slot → slot.isLive = false := by
  have unchanged : exchange.table.Closing exchange.table :=
    .of_sameOutline (Table.SameOutline.refl _)
  rw [Table.destroyLive]
  cases found : exchange.table.slots[index]? with
  | none =>
    refine ⟨calls, exchange, rfl, .refl, sound, rfl, unchanged, fun slot present => ?_⟩
    cases found.symm.trans present
  | some slot =>
    cases live : slot.isLive with
    | false =>
      refine ⟨calls, exchange, by simp [live], .refl, sound, rfl, unchanged,
        fun other present => ?_⟩
      cases found.symm.trans present
      exact live
    | true =>
      obtain ⟨callId, after, names, destroyed, table, counters, soundAfter⟩ :=
        sound.destroyCall_leg found behind live
      have ended : Moments size _ _ := sound.moments_destroyCall index
      have closing := (sound.destroyCall index).2
      rw [destroyed] at ended closing
      refine ⟨calls + 1, after, ?_, ended, soundAfter, counters, closing, fun other present => ?_⟩
      · rw [Exchange.destroyCall] at destroyed
        split at destroyed
        · cases destroyed
        · next same =>
          cases destroyed
          simp only [same, live, if_true]
      · rw [table, Table.hangUp, List.getElem?_map, found] at present
        cases present
        rw [Slot.hangUp, if_pos (Slot.isOf_iff.mpr ⟨live, names⟩)]
        rfl

/-- Destroying the calls in a number of slots, which are all closed afterwards. -/
theorem Sound.moments_destroyCalls (sound : exchange.Sound) (size calls : Nat)
    (indices : List Nat) (behind : ∀ index ∈ indices, 0 < index) :
    ∃ later after, indices.foldl Table.destroyLive (calls, exchange.table, exchange.resources) =
        (later, after.table, after.resources) ∧
      Moments size exchange after ∧ after.Sound ∧ after.counters = exchange.counters ∧
      exchange.table.Closing after.table ∧
      ∀ index ∈ indices, ∀ slot, after.table.slots[index]? = some slot →
        slot.isLive = false := by
  induction indices generalizing calls exchange with
  | nil =>
    exact ⟨calls, exchange, rfl, .refl, sound, rfl, .of_sameOutline (Table.SameOutline.refl _),
      fun _ member => by cases member⟩
  | cons index rest ih =>
    obtain ⟨next, middle, destroyed, moments, soundMiddle, counters, closing, closed⟩ :=
      sound.moments_destroyLive size calls (behind index List.mem_cons_self)
    obtain ⟨later, after, destroyedRest, momentsRest, soundAfter, countersRest, closingRest,
      closedRest⟩ := ih soundMiddle next fun other member =>
        behind other (List.mem_cons_of_mem _ member)
    refine ⟨later, after, ?_, moments.trans momentsRest, soundAfter,
      countersRest.trans counters, closing.trans closingRest, fun other member slot found => ?_⟩
    · rw [List.foldl_cons, destroyed, destroyedRest]
    · rcases List.mem_cons.mp member with rfl | member
      · exact closingRest.closed_at closed found
      · exact closedRest other member slot found

/-- Destroying the sessions of some slots, none of which keeps a bridge, and emptying the table. -/
theorem moments_empty (rest : List Slot) {exchange : Exchange} {done : List Slot}
    (slots : exchange.table.slots = done ++ rest)
    (idle : ∀ slot ∈ done, slot.session.isEngaged = false)
    (unbridged : ∀ slot ∈ rest, slot.session.bridge = none)
    (ended : ∀ slot ∈ rest, slot.session.stage = .complete → slot.session.engine = none) :
    Moments size exchange
      { exchange with
        table := { exchange.table with slots := [] }
        resources := rest.foldl (fun resources slot => (slot.session.destroy resources).2)
          exchange.resources } := by
  induction rest generalizing exchange done with
  | nil =>
    have idle : ∀ slot ∈ exchange.table.slots.drop 0, slot.session.isEngaged = false := by
      rw [List.drop_zero, slots, List.append_nil]
      exact idle
    exact .single (.cut exchange idle)
  | cons slot rest ih =>
    have found : exchange.table.session? done.length = some slot.session := by
      simp [Table.session?, slots]
    have unused : exchange.table.Unbridged done.length := by
      intro _ _ _ _ place keeper bridge foundKeeper kept
      obtain ⟨other, foundOther, rfl⟩ := Table.slot_of_session? foundKeeper
      have member := List.mem_of_getElem? foundOther
      rw [slots] at member
      rcases List.mem_append.mp member with member | member
      · cases kept.symm.trans (Session.isEngaged_eq_false.mp (idle other member)).2
      · cases kept.symm.trans (unbridged other member)
    have gone : (slot.session.destroy exchange.resources).1.isEngaged = false := by
      by_cases isOpen : slot.session.stage = .complete
      · have same : (slot.session.destroy exchange.resources).1 = slot.session := by
          simp [Session.destroy, isOpen]
        rw [same]
        exact Session.isEngaged_eq_false.mpr
          ⟨ended slot List.mem_cons_self isOpen, unbridged slot List.mem_cons_self⟩
      · rw [Session.destroy_eq isOpen]
        rfl
    have closed : (exchange.closeAt done.length).table.slots =
        (done ++ [⟨(slot.session.destroy exchange.resources).1, Descriptor.shut⟩]) ++ rest := by
      simp only [closeAt, Table.closeSlot, found, Table.changeSlot, slots, modify_length,
        List.append_assoc, List.singleton_append]
    have later : Moments size _ _ := ih closed
      (fun other member => by
        rcases List.mem_append.mp member with member | member
        · exact idle other member
        · cases List.mem_singleton.mp member
          exact gone)
      (fun other member => unbridged other (List.mem_cons_of_mem _ member))
      (fun other member => ended other (List.mem_cons_of_mem _ member))
    have step : Moments size exchange _ := .head (.closed exchange unused) later
    simp only [closeAt, Table.closeSlot, found] at step
    exact step

/-- **Shutting down is made of moments,** and leaves no session in the table. -/
theorem Sound.moments_destroyAll (sound : exchange.Sound) :
    Moments size exchange (exchange.destroyAll).2 ∧
      (exchange.destroyAll).2.table.slots = [] := by
  obtain ⟨later, after, destroyed, moments, soundAfter, counters, closing, closed⟩ :=
    sound.moments_destroyCalls size 0 (List.range' 1 (exchange.table.size - 1))
      fun index member => (List.mem_range'_1.mp member).1
  refine ⟨?_, rfl⟩
  have bare : ∀ slot ∈ after.table.slots, slot.session.isEngaged = false := by
    intro slot member
    obtain ⟨index, found⟩ := List.getElem?_of_mem member
    rw [Session.isEngaged_eq_false]
    by_cases first : index = 0
    · obtain ⟨control, rest, slots, _, signaling⟩ := soundAfter.table.control
      subst first
      rw [slots] at found
      cases found
      exact ⟨signaling.no_engine, signaling.no_bridge⟩
    · have inside : index < exchange.table.size :=
        Nat.lt_of_lt_of_eq (List.getElem?_eq_some_iff.mp found).1 closing.size_eq
      have shut := closed index (List.mem_range'_1.mpr (by omega)) slot found
      obtain ⟨gone, _⟩ := soundAfter.table.closed slot member shut
      exact ⟨gone.no_engine, gone.no_bridge⟩
  have emptied : Moments size after _ := moments_empty after.table.slots
    (List.nil_append _).symm (fun _ member => by cases member)
    (fun slot member => (Session.isEngaged_eq_false.mp (bare slot member)).2)
    (fun slot member _ => (Session.isEngaged_eq_false.mp (bare slot member)).1)
  have whole := moments.trans emptied
  rw [counters] at whole
  simpa only [Exchange.destroyAll, Table.destroyAll, destroyed] using whole

end Exchange

namespace Gateway

/-! ## What a gateway attains -/

/-- The states that a gateway passes through from its start, moment by moment, under whatever
settings, supply of engines and network. -/
inductive Attained : Gateway → Prop where
  | started {settings : Settings} {supply : EngineSupply} {fabric : Fabric} {gateway : Gateway}
      (started : start settings supply fabric = .ok gateway) : Attained gateway
  | passed {gateway : Gateway} {exchange : Exchange} (attained : Attained gateway)
      (moment : gateway.exchange.Moment gateway.settings.bufferSize.toNat exchange) :
      Attained { gateway with exchange := exchange }

/-- What a number of moments lead to is attained. -/
theorem Attained.moments {gateway : Gateway} {exchange : Exchange} (attained : gateway.Attained)
    (moments : gateway.exchange.Moments gateway.settings.bufferSize.toNat exchange) :
    Attained { gateway with exchange := exchange } := by
  induction moments with
  | refl => exact attained
  | tail _ moment ih => exact ih.passed moment

namespace Reachable

variable {gateway : Gateway} (reached : gateway.Reachable)
include reached

/-- **Everything that a gateway reaches, it attains.** -/
theorem attained : gateway.Attained := by
  induction reached with
  | started started => exact .started started
  | advanced reached step ih => exact ih.moments (reached.sound.moments_of_step step)

/-- A gateway that shuts down attains the state in which its table is empty. -/
theorem attained_shutDown :
    gateway.shutDown.Attained ∧ gateway.shutDown.exchange.table.slots = [] := by
  obtain ⟨moments, empty⟩ := reached.sound.moments_destroyAll
  exact ⟨reached.attained.moments moments, empty⟩

/-- So does one that goes through rounds until it is stopped. -/
theorem attained_run (stop : Gateway → Bool) (limit : Nat) :
    (run stop limit gateway).Attained ∧ (run stop limit gateway).exchange.table.slots = [] := by
  induction limit generalizing gateway with
  | zero => exact reached.attained_shutDown
  | succ limit ih =>
    rw [run]
    split
    · exact reached.attained_shutDown
    · exact ih reached.poll

end Reachable

end Gateway

end FaxRelay
