import FaxRelay.Proofs.HeldSockets
import FaxRelay.Proofs.Statistics

/-!
# Shutting down

Whenever a gateway shuts down, it gives everything back (`Gateway.ShutsDown`).
The walk over the table destroys each call at the first of its two legs that it
comes to; the other leg is closed when the walk reaches it, and so is whatever
was closed before the walk began. So each call is counted once, no bridge is
left, and when at last all sessions are destroyed, only the control session is
still open.

In an empty table nothing happens any more. A gateway that was shut down remains
as it is, whether it goes through further rounds or is shut down again.
-/

set_option autoImplicit false

namespace FaxRelay

open FaxRelay.Media FaxRelay.Net FaxRelay.Pool FaxRelay.Signal

namespace Table

/-- Destroys the call of every live leg in the table, slot by slot; the number of calls. -/
def destroyCalls (table : Table) (resources : Resources) : Nat × Table × Resources :=
  (List.range' 1 (table.size - 1)).foldl destroyLive (0, table, resources)

/-- Destroying everything begins with destroying all calls. -/
theorem destroyAll_eq_destroyCalls (table : Table) (resources : Resources) :
    table.destroyAll resources =
      ((table.destroyCalls resources).1, { (table.destroyCalls resources).2.1 with slots := [] },
        (table.destroyCalls resources).2.1.slots.foldl
          (fun resources slot => (slot.session.destroy resources).2)
          (table.destroyCalls resources).2.2) := rfl

/-- What is destroyed already is not destroyed again. -/
theorem destroy_gone {slots : List Slot} (gone : ∀ slot ∈ slots, slot.session.IsGone)
    (resources : Resources) :
    slots.foldl (fun resources slot => (slot.session.destroy resources).2) resources =
      resources := by
  induction slots with
  | nil => rfl
  | cons slot rest ih =>
    have done : slot.session.destroy resources = (slot.session, resources) :=
      if_pos (gone slot List.mem_cons_self).stage_eq
    rw [List.foldl_cons, done]
    exact ih fun other member => gone other (List.mem_cons_of_mem _ member)

end Table

namespace Exchange

variable {exchange : Exchange}

/-! ## Destroying all calls -/

/-- At a live slot the walk destroys the call and counts it; elsewhere it does nothing. -/
theorem Sound.destroyLive_cases (sound : exchange.Sound) (calls : Nat) {index : Nat}
    (behind : 0 < index) :
    Table.destroyLive (calls, exchange.table, exchange.resources) index =
        (calls, exchange.table, exchange.resources) ∧
      (∀ slot, exchange.table.slots[index]? = some slot → slot.isLive = false) ∨
    ∃ slot callId after, exchange.table.slots[index]? = some slot ∧ slot.isLive = true ∧
      slot.session.callId = some callId ∧ exchange.destroyCall index = (.ok (), after) ∧
      after.table = exchange.table.hangUp callId ∧ after.counters = exchange.counters ∧
      after.Sound ∧
      Table.destroyLive (calls, exchange.table, exchange.resources) index =
        (calls + 1, after.table, after.resources) := by
  rw [Table.destroyLive]
  cases found : exchange.table.slots[index]? with
  | none => exact .inl ⟨rfl, fun slot present => by cases present⟩
  | some slot =>
    cases live : slot.isLive with
    | false =>
      refine .inl ⟨by simp [live], fun other present => ?_⟩
      cases present
      exact live
    | true =>
      obtain ⟨callId, after, names, destroyed, table, counters, soundAfter⟩ :=
        sound.destroyCall_leg found behind live
      refine .inr
        ⟨slot, callId, after, rfl, live, names, destroyed, table, counters, soundAfter, ?_⟩
      rw [Exchange.destroyCall] at destroyed
      split at destroyed
      · cases destroyed
      · next same =>
        cases destroyed
        simp only [same, live, if_true]

/-- What the walk has come to: calls were destroyed and counted, and nothing else happened. -/
structure Ended (earlier : Fabric) (before : Exchange) (calls : Nat) (after : Exchange)
    (later : Nat) : Prop where
  sound : after.Sound
  holds : after.Holds earlier
  counters_eq : after.counters = before.counters
  closing : before.table.Closing after.table
  counts : after.table.gists.length + 2 * later = before.table.gists.length + 2 * calls

theorem Ended.trans {earlier : Fabric} {first second third : Exchange} {calls next later : Nat}
    (before : Ended earlier first calls second next)
    (after : Ended earlier second next third later) :
    Ended earlier first calls third later :=
  ⟨after.sound, after.holds, after.counters_eq.trans before.counters_eq,
    before.closing.trans after.closing, after.counts.trans before.counts⟩

variable {earlier : Fabric}

/-- One slot of the walk, which is closed afterwards. -/
theorem Sound.destroyLive (sound : exchange.Sound) (holds : exchange.Holds earlier) (calls : Nat)
    {index : Nat} (behind : 0 < index) :
    ∃ after later, Table.destroyLive (calls, exchange.table, exchange.resources) index =
        (later, after.table, after.resources) ∧ Ended earlier exchange calls after later ∧
      ∀ slot, after.table.slots[index]? = some slot → slot.isLive = false := by
  rcases sound.destroyLive_cases calls behind with
    ⟨same, closed⟩ |
    ⟨slot, callId, after, found, live, names, destroyed, table, counters, soundAfter, walked⟩
  · exact ⟨exchange, calls, same,
      ⟨sound, holds, rfl, .of_sameOutline (Table.SameOutline.refl _), rfl⟩, closed⟩
  · have holdsAfter := holds.destroyCall sound found behind live
    have length := sound.table.length_hangUp found live names
    rw [destroyed] at holdsAfter
    refine ⟨after, calls + 1, walked, ⟨soundAfter, holdsAfter, counters, ?_, ?_⟩, ?_⟩
    · exact table ▸ .hangUp exchange.table callId
    · rw [table]
      omega
    · intro other present
      rw [table, Table.hangUp, List.getElem?_map, found] at present
      cases present
      rw [Slot.hangUp, if_pos (Slot.isOf_iff.mpr ⟨live, names⟩)]
      rfl

/-- The whole walk: every slot that it went over is closed afterwards. -/
theorem Sound.destroyLives (sound : exchange.Sound) (holds : exchange.Holds earlier) (calls : Nat)
    (indices : List Nat) (behind : ∀ index ∈ indices, 0 < index) :
    ∃ after later, indices.foldl Table.destroyLive (calls, exchange.table, exchange.resources) =
        (later, after.table, after.resources) ∧ Ended earlier exchange calls after later ∧
      ∀ index ∈ indices, ∀ slot, after.table.slots[index]? = some slot →
        slot.isLive = false := by
  induction indices generalizing calls exchange with
  | nil =>
    exact ⟨exchange, calls, rfl,
      ⟨sound, holds, rfl, .of_sameOutline (Table.SameOutline.refl _), rfl⟩,
      fun _ member => by cases member⟩
  | cons index rest ih =>
    obtain ⟨middle, next, walked, ended, closed⟩ :=
      sound.destroyLive holds calls (behind index List.mem_cons_self)
    obtain ⟨after, later, walkedRest, endedRest, closedRest⟩ :=
      ih ended.sound ended.holds next fun other member =>
        behind other (List.mem_cons_of_mem _ member)
    refine ⟨after, later, ?_, ended.trans endedRest, fun other member slot found => ?_⟩
    · rw [List.foldl_cons, walked, walkedRest]
    · rcases List.mem_cons.mp member with rfl | member
      · have inside : other < middle.table.slots.length :=
          Nat.lt_of_lt_of_eq (List.getElem?_eq_some_iff.mp found).1 endedRest.closing.size_eq
        have place := List.getElem?_eq_getElem inside
        obtain ⟨still, present, shut⟩ := endedRest.closing.stays other _ place (closed _ place)
        cases present.symm.trans found
        exact shut
      · exact closedRest other member slot found

/-- **Only the control session outlives the calls.** Everything behind it is gone when the walk is
over, so it alone is destroyed in the end. -/
theorem Sound.destroyAll_eq (sound : exchange.Sound) (holds : exchange.Holds earlier) :
    ∃ after later control rest,
      exchange.table.destroyCalls exchange.resources = (later, after.table, after.resources) ∧
      Ended earlier exchange 0 after later ∧ after.table.slots = control :: rest ∧
      control.isLive = true ∧ control.session.IsSignaling ∧
      (∀ slot ∈ rest, slot.isLive = false ∧ slot.IsGone) ∧
      exchange.destroyAll =
        (later,
          { table := { after.table with slots := [] }
            resources := (control.session.destroy after.resources).2
            counters := exchange.counters }) := by
  obtain ⟨after, later, walked, ended, closed⟩ := sound.destroyLives holds 0
    (List.range' 1 (exchange.table.size - 1)) fun index member => (List.mem_range'_1.mp member).1
  obtain ⟨control, rest, slots, live, signaling⟩ := ended.sound.table.control
  have gone : ∀ slot ∈ rest, slot.isLive = false ∧ slot.IsGone := by
    intro slot member
    obtain ⟨place, found⟩ := List.getElem?_of_mem member
    have behind : after.table.slots[place + 1]? = some slot := by rw [slots]; exact found
    have inside : place + 1 < exchange.table.size :=
      Nat.lt_of_lt_of_eq (List.getElem?_eq_some_iff.mp behind).1 ended.closing.size_eq
    have shut := closed (place + 1) (List.mem_range'_1.mpr (by omega)) slot behind
    exact ⟨shut, ended.sound.table.closed slot (List.mem_of_getElem? behind) shut⟩
  refine ⟨after, later, control, rest, walked, ended, slots, live, signaling, gone, ?_⟩
  have last := Table.destroy_gone (fun slot member => (gone slot member).2.session)
    (control.session.destroy after.resources).2
  simp only [destroyAll, Table.destroyAll_eq_destroyCalls, Table.destroyCalls, walked, slots,
    List.foldl_cons, last]

/-! ## Empty tables -/

theorem Quiet.of_empty {before after : Exchange} (quiet : before.Quiet after)
    (empty : before.table.slots = []) : after.table = before.table := by
  have slots : after.table.slots = [] := by
    have outlines := quiet.outline.outline_eq
    rw [empty, List.map_nil, List.map_eq_nil_iff] at outlines
    exact outlines
  have capacity := quiet.outline.capacity_eq
  generalize after.table = later at slots capacity ⊢
  cases later
  cases slots
  cases capacity
  rw [← empty]

theorem compactWith_of_empty (empty : exchange.table.slots = [])
    (handle : Nat → Exchange → Exchange) : exchange.compactWith handle = (0, exchange) := by
  obtain ⟨⟨slots, capacity⟩, resources, counters⟩ := exchange
  cases empty
  rfl

/-- Without a control session there is only traffic, and no request is granted. -/
theorem quiet_handleDatagram_of_empty (empty : exchange.table.slots = []) (datagram : Payload) :
    exchange.Quiet (exchange.handleDatagram datagram).2 := by
  have uncontrolled : exchange.table.control? = none := by
    simp [Table.control?, Table.session?, empty]
  have absent : ∀ callId, exchange.table.findCall? callId = none := by
    simp [Table.findCall?, Table.findSlot?, empty]
  have counted : ∀ counters, exchange.Quiet { exchange with counters := counters } :=
    fun _ => ⟨.refl _, .refl _⟩
  have refused : ∀ setup, ∃ fault, exchange.setUp setup = (.error fault, exchange) := by
    intro setup
    rw [setUp]
    split
    · exact ⟨_, rfl⟩
    · simp only [objection?, uncontrolled, Option.isNone_none, if_true]
      exact ⟨_, rfl⟩
  rw [handleDatagram]
  split
  · exact counted _
  · next setup _ =>
    obtain ⟨fault, same⟩ := refused setup
    simp only [answerSetup, same]
    exact counted _
  · next callId _ =>
    simp only [release, absent]
    exact .refl exchange
  · exact .refl exchange
  · exact .refl exchange

/-- **With an empty table, every step is traffic.** -/
theorem Step.quiet_of_empty {size : Nat} {before after : Exchange} (step : Step size before after)
    (empty : before.table.slots = []) : before.Quiet after := by
  cases step with
  | beside beside => exact beside.quiet
  | settled address => exact quiet_fabric _ (Fabric.keeps_settle _ address)
  | reported token => exact quiet_markReadable _ token
  | unmarked => exact quiet_clearReadable _ 0
  | drained control => exact quiet_fabric _ (Fabric.keeps_drain _ _)
  | signaled datagram =>
    have heard := quiet_heard before datagram.1 (datagram.2.take size)
    have handled := quiet_handleDatagram_of_empty ((heard.of_empty empty).symm ▸ empty)
      (datagram.2.take size)
    rw [Exchange.signal]
    split
    · next message middle same =>
      rw [same] at handled
      exact (heard.trans handled).trans (quiet_reply middle message)
    · next same =>
      rw [same] at handled
      exact heard.trans handled
  | reaped between =>
    have none : before.table.failedBridges = [] := by simp [Table.failedBridges, empty]
    rw [Exchange.reapWith, none]
    exact .refl before
  | compacted between =>
    rw [compactWith_of_empty empty]
    exact .refl before

end Exchange

namespace Gateway

/-! ## What is left of a gateway -/

/-- Nothing happens in a round without sessions. -/
theorem poll_of_empty {gateway : Gateway} (empty : gateway.exchange.table.slots = []) :
    gateway.poll.2 = gateway := by
  obtain ⟨settings, ⟨⟨slots, capacity⟩, resources, counters⟩⟩ := gateway
  cases empty
  rfl

/-- Nothing is destroyed where there are no sessions. -/
theorem shutDown_of_empty {gateway : Gateway} (empty : gateway.exchange.table.slots = []) :
    gateway.shutDown = gateway := by
  obtain ⟨settings, ⟨⟨slots, capacity⟩, resources, counters⟩⟩ := gateway
  cases empty
  rfl

/-- Steps from an empty table change neither the table nor the supplies of numbers and ports. -/
theorem Leads.of_empty {first gateway : Gateway} (leads : first.Leads gateway)
    (empty : first.exchange.table.slots = []) :
    gateway.exchange.table = first.exchange.table ∧
      gateway.exchange.resources.ids = first.exchange.resources.ids ∧
      gateway.exchange.resources.ports = first.exchange.resources.ports := by
  induction leads with
  | here => exact ⟨rfl, rfl, rfl⟩
  | further leads step ih =>
    obtain ⟨table, ids, ports⟩ := ih
    have still : _ = [] := (congrArg Table.slots table).trans empty
    have quiet := step.quiet_of_empty still
    exact ⟨(quiet.of_empty still).trans table, quiet.traffic.ids_eq.trans ids,
      quiet.traffic.ports_eq.trans ports⟩

/-- A gateway shuts down completely, on a network on which the relay held some sockets `earlier`. -/
structure ShutsDown (earlier : Fabric) (gateway : Gateway) : Prop where
  /-- No session is left. -/
  empty : gateway.shutDown.exchange.table.slots = []
  ids : ∀ id, gateway.shutDown.exchange.resources.ids.isAllocated id = false
  ports : ∀ port, gateway.shutDown.exchange.resources.ports.isAllocated port = false
  /-- No socket is left that was opened since. -/
  sockets : ∀ address, gateway.shutDown.exchange.resources.fabric.holder? address = some .relay →
    earlier.holder? address = some .relay
  /-- When all calls are destroyed, before the slots are dropped, no session keeps a bridge. -/
  bridges : ∀ slot ∈ (gateway.exchange.table.destroyCalls gateway.exchange.resources).2.1.slots,
    slot.session.bridge = none
  /-- Every engine that was attached to a leg was retired, once for each time. -/
  engines : ∀ engine, (retirements gateway.shutDown.exchange.resources.journal).count engine =
    (attachments gateway.shutDown.exchange.resources.journal).count engine
  /-- As many calls are destroyed as were active. -/
  calls : (gateway.exchange.destroyAll).1 = gateway.statistics.activeCalls
  /-- Whatever happens beside it from then on, the gateway remains as it is in every round and when
  it is shut down again, and so do its table and its supplies. -/
  final : ∀ later, gateway.shutDown.Leads later → later.poll.2 = later ∧ later.shutDown = later ∧
    later.exchange.table = gateway.shutDown.exchange.table ∧
    later.exchange.resources.ids = gateway.shutDown.exchange.resources.ids ∧
    later.exchange.resources.ports = gateway.shutDown.exchange.resources.ports

/-- **Shutting down is complete,** from whatever state a gateway has come to since its start: calls
may be active, bridges may have failed, and slots may be closed. -/
theorem Leads.shuts_down {settings : Settings} {supply : EngineSupply} {fabric : Fabric}
    {first gateway : Gateway} (started : start settings supply fabric = .ok first)
    (leads : first.Leads gateway) : gateway.ShutsDown fabric := by
  have reached : gateway.Reachable :=
    reachable_iff_leads.mpr ⟨settings, supply, fabric, first, started, leads⟩
  obtain ⟨_, _, _, opened, _, _, bound, resources, table⟩ := start_resources started
  have begun : first.exchange.Holds fabric := by
    intro address held
    rw [resources] at held
    dsimp only at held
    rw [Fabric.holder?_bind bound] at held
    split at held
    · next same =>
      refine .inl ?_
      rw [table, same]
      exact List.mem_singleton.mpr rfl
    · exact .inr held
  have holds := leads.invariant (Exchange.invariant_holds fabric) (.started started) begun
  obtain ⟨after, later, control, rest, walked, ended, slots, live, signaling, gone, destroyed⟩ :=
    reached.sound.destroyAll_eq holds
  have gists : after.table.gists = [control.session.gist] := by
    have closed : rest.filterMap Slot.gist? = [] := List.filterMap_eq_nil_iff.mpr
      fun slot member => Slot.gist?_eq_none (gone slot member).1
    rw [Table.gists, slots, List.filterMap_cons_some (Slot.gist?_of_isLive live), closed]
  have left : gateway.shutDown.exchange =
      { table := { after.table with slots := [] }
        resources := (control.session.destroy after.resources).2
        counters := gateway.exchange.counters } := congrArg Prod.snd destroyed
  have ledger : Ledger [] gateway.shutDown.exchange.resources := by
    have entered : Ledger ([] ++ control.session.gist :: []) after.resources :=
      gists ▸ ended.sound.ledger
    have isOpen : control.session.gist.stage ≠ .complete := by
      rw [(Session.isSignaling_gist.mpr signaling).stage_eq]
      exact Stage.noConfusion
    have without := entered.leave isOpen (Session.isSignaling_gist.mpr signaling).owns
    rw [Session.destroy_gist] at without
    rw [left]
    exact without
  have empty : gateway.shutDown.exchange.table.slots = [] := by rw [left]
  refine ⟨empty, fun id => ?_, fun port => ?_, fun address held => ?_, fun slot member => ?_,
    ledger.settled.retirements_count, ?_, fun later leads => ?_⟩
  · exact Bool.eq_false_iff.mpr fun allocated => List.not_mem_nil ((ledger.ids_iff id).mp allocated)
  · exact Bool.eq_false_iff.mpr fun allocated =>
      List.not_mem_nil ((ledger.ports_iff port).mp allocated)
  · rw [left] at held
    dsimp only at held
    refine (ended.holds address (Session.held_of_destroy held)).resolve_left fun member => ?_
    rw [Table.sockets, gists] at member
    obtain ⟨session, isControl, has⟩ := List.mem_filterMap.mp member
    cases List.mem_singleton.mp isControl
    have isOpen : control.session.stage ≠ .complete := by
      rw [signaling.stage_eq]
      exact Stage.noConfusion
    rw [Session.holder?_destroy_self isOpen has] at held
    cases held
  · rw [walked] at member
    dsimp only at member
    rw [slots] at member
    rcases List.mem_cons.mp member with rfl | member
    · exact signaling.no_bridge
    · exact (gone slot member).2.session.no_bridge
  · obtain ⟨_, halves⟩ := reached.sound.table.length_gists
    have counts := ended.counts
    rw [gists, List.length_singleton, halves] at counts
    rw [destroyed]
    show later = gateway.exchange.table.mediaCount / 2
    omega
  · obtain ⟨table, ids, ports⟩ := leads.of_empty empty
    have still : later.exchange.table.slots = [] := (congrArg Table.slots table).trans empty
    exact ⟨poll_of_empty still, shutDown_of_empty still, table, ids, ports⟩

/-- A relay with two calls, of which one has a failed bridge, and with the closed slots of a third
one: two calls are destroyed. -/
theorem shuts_down_requested :
    start {} .unfailing .loopback = .ok idle ∧ idle.Leads ⟨{}, requested.failBridge 3⟩ ∧
      (requested.failBridge 3).table.failedBridges = [3] ∧
      (requested.failBridge 3).table.slots.map Slot.isLive =
        [true, false, false, true, true, true, true] ∧
      ((requested.failBridge 3).destroyAll).1 = 2 ∧
      ShutsDown .loopback ⟨{}, requested.failBridge 3⟩ := by
  have signaled : idle.Leads ⟨{}, requested⟩ :=
    Leads.foldl (fun exchange line => .signaled exchange _) _ .here
  have leads : idle.Leads ⟨{}, requested.failBridge 3⟩ :=
    signaled.further (.beside (.failed (.nothing requested) 3))
  exact ⟨start_idle, leads, by decide +kernel, by decide +kernel, by decide +kernel,
    Leads.shuts_down start_idle leads⟩

end Gateway

end FaxRelay
