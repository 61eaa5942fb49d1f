import FaxRelay.Proofs.Rounds
import FaxRelay.Proofs.Steadiness

/-!
# What every step preserves

A step of a round goes over many slots, but what it does to an exchange at any
of them is of one of few kinds: slots are moved or marked, media is passed on, a
datagram of signaling is handled, or a call is lost. What survives each of these
survives every step (`Exchange.Invariant`), and so holds in every state that is
reached.

A call is lost at a slot that is live at that moment. For a compaction this is
so because the slot was just moved up; and for the failed bridges, because no
two of them belong to one call, so that ending one call leaves the slots of the
others open.
-/

set_option autoImplicit false

namespace FaxRelay

open FaxRelay.Media FaxRelay.Net FaxRelay.Pool FaxRelay.Signal

/-! ## Slots that keep bridges -/

namespace Table

/-- A live slot keeps a bridge. -/
def KeepsBridge (table : Table) (index : Nat) : Prop :=
  ∃ slot : Slot, table.slots[index]? = some slot ∧ slot.isLive = true ∧
    slot.session.bridge.isSome = true

theorem keepsBridge_of_failed {table : Table} {index : Nat}
    (failed : index ∈ table.failedBridges) : table.KeepsBridge index := by
  obtain ⟨⟨slot, place⟩, member, rfl⟩ := List.mem_map.mp failed
  obtain ⟨member, holds⟩ := List.mem_filter.mp member
  rw [Bool.and_eq_true] at holds
  refine ⟨slot, List.mem_zipIdx_iff_getElem?.mp member, holds.1, ?_⟩
  cases kept : slot.session.bridge with
  | none =>
    rw [Session.bridgeFailed, kept] at holds
    cases holds.2
  | some bridge => rfl

theorem nodup_failedBridges (table : Table) : table.failedBridges.Nodup := by
  have places : (table.slots.zipIdx.map Prod.snd).Nodup := by
    rw [List.zipIdx_map_snd]
    exact List.nodup_range'
  exact places.sublist (List.filter_sublist.map Prod.snd)

variable {table after : Table} {index other : Nat}

theorem KeepsBridge.of_sameOutline (keeps : table.KeepsBridge index)
    (same : table.SameOutline after) : after.KeepsBridge index := by
  obtain ⟨slot, found, live, kept⟩ := keeps
  obtain ⟨later, foundLater, outline⟩ := same.symm.slot_before found
  obtain ⟨gist, lives⟩ := Slot.of_outline_eq outline
  refine ⟨later, foundLater, lives ▸ live, ?_⟩
  have bridges : slot.session.gist.bridge = later.session.gist.bridge := by rw [gist]
  have isSome := congrArg Option.isSome bridges
  rwa [Session.gist, Session.gist, Option.isSome_map, Option.isSome_map, kept, eq_comm] at isSome

/-- Only a leg keeps a bridge. -/
theorem KeepsBridge.behind (keeps : table.KeepsBridge index) (sound : table.Sound) :
    0 < index := by
  obtain ⟨slot, found, _, kept⟩ := keeps
  obtain ⟨control, rest, slots, _, signaling⟩ := sound.control
  refine Nat.pos_of_ne_zero ?_
  rintro rfl
  rw [slots] at found
  cases found
  rw [signaling.no_bridge] at kept
  cases kept

/-- A call has one bridge, so hanging it up leaves all other slots that keep bridges. -/
theorem KeepsBridge.hangUp {callId : CallId} {slot : Slot} (keeps : table.KeepsBridge other)
    (sound : table.Sound) (distinct : (table.gists.map Session.id).Nodup)
    (found : table.slots[index]? = some slot) (live : slot.isLive = true)
    (kept : slot.session.bridge.isSome = true) (names : slot.session.callId = some callId)
    (differs : index ≠ other) : (table.hangUp callId).KeepsBridge other := by
  have behindOther := keeps.behind sound
  obtain ⟨third, foundThird, liveThird, keptThird⟩ := keeps
  have behind : 0 < index := sound.behind_of_call found names
  obtain ⟨same, before, inbound, outbound, after, legs, bridged, place, _, strangers⟩ :=
    sound.paired.split (gist_mem_legs found behind live)
  -- Of the two legs of a call only the first keeps a bridge, so it is the one in the slot.
  have first : ∀ {leg : Slot}, leg.session.bridge.isSome = true →
      leg.session.gist = inbound ∨ leg.session.gist = outbound → leg.session.gist = inbound := by
    rintro leg kept (same | same)
    · exact same
    · have none : leg.session.gist.bridge = none := same ▸ bridged.outbound_bridge
      rw [Option.map_eq_none_iff.mp none] at kept
      cases kept
  have isFirst := first kept place
  have namesFirst : slot.session.gist.callId = some same := isFirst ▸ bridged.inbound_leg.names_call
  cases names.symm.trans namesFirst
  have spared : third.session.callId ≠ some callId := by
    intro namesToo
    have member := gist_mem_legs foundThird behindOther liveThird
    have stranger : third.session.gist ∉ before ++ after :=
      fun member => strangers _ member namesToo
    rw [legs] at member
    have isFirstToo := first keptThird (eq_of_mem_pair member stranger)
    have same : slot.session.id = third.session.id := by
      show slot.session.gist.id = third.session.gist.id
      rw [isFirst, isFirstToo]
    exact differs (place_of_id distinct found foundThird live liveThird same)
  refine ⟨third, ?_, liveThird, keptThird⟩
  have unchanged : third.hangUp callId = third :=
    if_neg fun isOf => spared (Slot.isOf_iff.mp isOf).2
  rw [Table.hangUp, List.getElem?_map, foundThird, Option.map_some, unchanged]

end Table

namespace Exchange

/-! ## Slots that are rearranged -/

/-- Between two exchanges slots were marked or moved, or closed ones dropped; no session got a
bridge that another did not have. -/
structure Rearranged (before after : Exchange) : Prop where
  gists_eq : after.table.gists = before.table.gists
  capacity_eq : after.table.capacity = before.table.capacity
  size_le : after.table.size ≤ before.table.size
  bridges : ∀ slot ∈ after.table.slots, ∃ old ∈ before.table.slots,
    slot.session.bridge = old.session.bridge
  resources_eq : after.resources = before.resources
  counters_eq : after.counters = before.counters

/-- Changing what a slot is marked with. -/
theorem rearranged_changeSlot (exchange : Exchange) (index : Nat)
    {change : Slot → Slot} (outline : ∀ slot, (change slot).outline = slot.outline)
    (session : ∀ slot, (change slot).session = slot.session) :
    exchange.Rearranged { exchange with table := exchange.table.changeSlot index change } := by
  have same := exchange.table.sameOutline_changeSlot index change fun slot _ => outline slot
  refine ⟨same.gists_eq, same.capacity_eq, Nat.le_of_eq same.size_eq, fun slot member => ?_, rfl,
    rfl⟩
  obtain ⟨place, found⟩ := List.getElem?_of_mem member
  rw [Table.changeSlot, List.getElem?_modify] at found
  obtain ⟨old, foundOld, rfl⟩ := Option.map_eq_some_iff.mp found
  refine ⟨old, List.mem_of_getElem? foundOld, ?_⟩
  split
  · rw [session]
  · rfl

theorem rearranged_clearReadable (exchange : Exchange) (index : Nat) :
    exchange.Rearranged { exchange with table := exchange.table.clearReadable index } :=
  exchange.rearranged_changeSlot index (fun _ => rfl) fun _ => rfl

theorem Rearranged.refl (exchange : Exchange) : exchange.Rearranged exchange :=
  ⟨rfl, rfl, Nat.le_refl _, fun slot member => ⟨slot, member, rfl⟩, rfl, rfl⟩

theorem rearranged_markReadable (exchange : Exchange) (token : SessionId) :
    exchange.Rearranged { exchange with table := (exchange.table.markReadable token).2 } := by
  rw [Table.markReadable]
  split
  · exact .refl exchange
  · exact exchange.rearranged_changeSlot _ (fun _ => rfl) fun _ => rfl

theorem passing_failBridge (exchange : Exchange) (index : Nat) :
    exchange.Passing (exchange.failBridge index) :=
  ⟨(quiet_failBridge index exchange).outline, rfl, .refl _⟩

section Scan

variable {exchange : Exchange} {source target : Nat}

theorem Scanning.rearranged_move {slot : Slot} (scanning : Scanning target source exchange)
    (found : exchange.table.slots[source]? = some slot) :
    exchange.Rearranged { exchange with table := exchange.table.moveUp target source } := by
  refine ⟨Table.gists_moveUp scanning.order scanning.gap found,
    exchange.table.capacity_moveUp target source,
    Nat.le_of_eq (exchange.table.size_moveUp target source), fun moved member => ?_, rfl, rfl⟩
  · change moved ∈ (exchange.table.moveUp target source).slots at member
    obtain ⟨old, oldMember, _, rfl⟩ := Table.mem_moveUp member
    exact ⟨old, oldMember, rfl⟩

theorem Scanning.rearranged_cut (scanning : Scanning target exchange.table.size exchange) :
    exchange.Rearranged
      { exchange with
        table := { exchange.table with slots := exchange.table.slots.take target } } where
  gists_eq := filterMap_take fun place slot lower found =>
    Slot.gist?_eq_none
      (scanning.gap place slot lower (List.getElem?_eq_some_iff.mp found).1 found)
  capacity_eq := rfl
  size_le := by
    show (exchange.table.slots.take target).length ≤ _
    rw [List.length_take]
    exact Nat.min_le_right ..
  bridges slot member := ⟨slot, List.mem_of_mem_take member, rfl⟩
  resources_eq := rfl
  counters_eq := rfl

end Scan

/-! ## Compaction -/

/-- What does not depend on how the slots are arranged, and survives the handling of a live slot. -/
structure Survives (handle : Nat → Exchange → Exchange) (holds : Exchange → Prop) : Prop where
  rearranged : ∀ {before after : Exchange}, before.Rearranged after → holds before → holds after
  handled : ∀ {exchange : Exchange} {index : Nat} {slot : Slot}, exchange.Sound → 0 < index →
    exchange.table.slots[index]? = some slot → slot.isLive = true → holds exchange →
    holds (handle index exchange)

variable {handle : Nat → Exchange → Exchange} {holds : Exchange → Prop}

/-- It is carried along by a scan. -/
theorem Survives.scans (survives : Survives handle holds) : Scans handle fun _ => holds where
  moved scanning found live start := survives.rearranged (scanning.rearranged_move found) start
  handled {target exchange slot} sound behind found live start := by
    have cleared : (exchange.table.clearReadable target).slots[target]? =
        some { slot with descriptor := { slot.descriptor with readable := false } } := by
      simp [Table.clearReadable, Table.changeSlot, found]
    exact survives.handled (sound.of_quiet (quiet_clearReadable exchange target)) behind cleared
      live (survives.rearranged (rearranged_clearReadable exchange target) start)

/-- **It survives a compaction.** -/
theorem Survives.compactWith (survives : Survives handle holds) (keeps : Keeps handle)
    {exchange : Exchange} (sound : exchange.Sound) (start : holds exchange) :
    holds (exchange.compactWith handle).2 := by
  obtain ⟨target, scanned, scanning, held, compacted⟩ :=
    survives.scans.compactWith keeps sound start
  rw [compacted]
  exact survives.rearranged scanning.rearranged_cut held

/-! ## Steps -/

/-- A property of an exchange that survives everything that steps are made of. -/
structure Invariant (size : Nat) (holds : Exchange → Prop) : Prop where
  rearranged : ∀ {before after : Exchange}, before.Rearranged after → holds before → holds after
  passing : ∀ {before after : Exchange}, before.Passing after → holds before → holds after
  network : ∀ {exchange : Exchange} {fabric : Fabric}, exchange.resources.fabric.Outside fabric →
    holds exchange →
    holds { exchange with resources := { exchange.resources with fabric := fabric } }
  lost : ∀ {exchange : Exchange} {index : Nat} {slot : Slot}, exchange.Sound → 0 < index →
    exchange.table.slots[index]? = some slot → slot.isLive = true → holds exchange →
    holds (exchange.countMediaError.destroyCall index).2
  signaled : ∀ {exchange : Exchange}, exchange.Sound → ∀ datagram, holds exchange →
    holds (exchange.signal size datagram)

namespace Invariant

variable {size : Nat} {holds : Exchange → Prop} (invariant : Invariant size holds)
include invariant

theorem beside {before after : Exchange} (beside : Beside before after) (start : holds before) :
    holds after := by
  induction beside with
  | nothing => exact start
  | network earlier moved ih => exact invariant.network moved ih
  | bridged earlier index count ih =>
    exact invariant.passing (passing_runBridge _ index count) ih
  | failed earlier index ih =>
    exact invariant.passing (passing_failBridge _ index) ih

/-- It survives the end of all calls whose bridges have failed. -/
theorem reapSlots {between : Nat → Exchange → Exchange}
    (besides : ∀ index exchange, Beside exchange (between index exchange)) (indices : List Nat)
    (count : Nat) {exchange : Exchange} (sound : exchange.Sound) (nodup : indices.Nodup)
    (keep : ∀ index ∈ indices, exchange.table.KeepsBridge index) (start : holds exchange) :
    holds (indices.foldl (fun state index =>
      ((reapSlot state index).1, between index (reapSlot state index).2)) (count, exchange)).2 := by
  induction indices generalizing count exchange with
  | nil => exact start
  | cons index rest ih =>
    obtain ⟨fresh, nodup⟩ := List.nodup_cons.mp nodup
    have keeps := keep index List.mem_cons_self
    have behind := keeps.behind sound.table
    obtain ⟨slot, found, live, kept⟩ := keeps
    obtain ⟨callId, after, names, destroyed, table, _, _⟩ :=
      Sound.destroyCall_leg (show exchange.countMediaError.Sound from sound.counters _)
        found behind live
    have present : (exchange.table.session? index).isNone = false := by
      rw [Table.session?, found]
      rfl
    have reaped : reapSlot (count, exchange) index = (count + 1, after) := by
      simp only [reapSlot, present, destroyed]
      rfl
    have lost := invariant.lost sound behind found live start
    have soundReaped := sound.reapSlot count index
    rw [destroyed] at lost
    rw [reaped] at soundReaped
    have quiet := (besides index after).quiet
    rw [List.foldl_cons, reaped]
    refine ih (count + 1) (soundReaped.of_quiet quiet) nodup (fun other member => ?_)
      (invariant.beside (besides index after) lost)
    have differs : index ≠ other := fun same => fresh (same ▸ member)
    have still := (keep other (List.mem_cons_of_mem _ member)).hangUp sound.table
      sound.ledger.ids_nodup found live kept names differs
    have stillAfter : after.table.KeepsBridge other := table ▸ still
    exact stillAfter.of_sameOutline quiet.outline

/-- **It survives every step.** -/
theorem step {before after : Exchange} (step : Step size before after) (sound : before.Sound)
    (start : holds before) : holds after := by
  cases step with
  | beside beside => exact invariant.beside beside start
  | settled address => exact invariant.passing (before.passing_settle address) start
  | reported token =>
    exact invariant.rearranged (before.rearranged_markReadable token) start
  | unmarked =>
    exact invariant.rearranged (before.rearranged_clearReadable 0) start
  | drained control => exact invariant.passing (before.passing_drain _) start
  | signaled datagram => exact invariant.signaled sound datagram start
  | reaped between =>
    exact invariant.reapSlots between _ 0 sound before.table.nodup_failedBridges
      (fun _ failed => Table.keepsBridge_of_failed failed) start
  | compacted between =>
    refine Survives.compactWith ⟨invariant.rearranged, ?_⟩ (keeps_handleMedia between) sound start
    intro exchange index slot sound behind found live holds
    have present : exchange.table.session? index = some slot.session := by
      rw [Table.session?, found]
      rfl
    have passing := exchange.passing_readAt size present
    have read := invariant.passing passing holds
    refine invariant.beside (between index _) ?_
    rcases exchange.handleMedia_cases size present with handled | handled
    · rw [handled]
      exact read
    · rw [handled]
      have quiet : exchange.Quiet (exchange.readAt size index slot.session) :=
        ⟨passing.outline, (slot.session.traffic_onReadable exchange.resources size).2⟩
      obtain ⟨later, foundLater, outline⟩ := passing.outline.symm.slot_before found
      exact invariant.lost (sound.of_quiet quiet) behind foundLater
        ((Slot.of_outline_eq outline).2 ▸ live) read

end Invariant

end Exchange

namespace Gateway

/-! ## Whole runs -/

/-- The states to which steps lead from a state of a gateway. -/
inductive Leads (first : Gateway) : Gateway → Prop where
  | here : Leads first first
  | further {gateway : Gateway} {exchange : Exchange} (leads : Leads first gateway)
      (step : gateway.exchange.Step gateway.settings.bufferSize.toNat exchange) :
      Leads first { gateway with exchange := exchange }

/-- What can be reached is what steps lead to from a start. -/
theorem reachable_iff_leads {gateway : Gateway} :
    gateway.Reachable ↔ ∃ settings supply fabric first,
      start settings supply fabric = .ok first ∧ first.Leads gateway := by
  constructor
  · intro reached
    induction reached with
    | started started => exact ⟨_, _, _, _, started, .here⟩
    | advanced reached step ih =>
      obtain ⟨settings, supply, fabric, first, started, leads⟩ := ih
      exact ⟨settings, supply, fabric, first, started, leads.further step⟩
  · rintro ⟨settings, supply, fabric, first, started, leads⟩
    induction leads with
    | here => exact .started started
    | further leads step ih => exact ih.advanced step

/-- Handling a list of things one after the other, each of them in a step. -/
theorem Leads.foldl {α : Type} {settings : Settings} {change : Exchange → α → Exchange}
    (steps : ∀ (exchange : Exchange) (value : α),
      exchange.Step settings.bufferSize.toNat (change exchange value))
    (values : List α) {first : Gateway} {exchange : Exchange}
    (leads : first.Leads ⟨settings, exchange⟩) :
    first.Leads ⟨settings, values.foldl change exchange⟩ := by
  induction values generalizing exchange with
  | nil => exact leads
  | cons value rest ih => exact ih (leads.further (steps exchange value))

variable {holds : Exchange → Prop} (kept : ∀ size, Exchange.Invariant size holds)
include kept

/-- **What every step preserves holds in every state to which steps lead** from where it holds. -/
theorem Leads.invariant {first gateway : Gateway} (leads : first.Leads gateway)
    (reached : first.Reachable) (begun : holds first.exchange) : holds gateway.exchange := by
  have both : gateway.Reachable ∧ holds gateway.exchange := by
    induction leads with
    | here => exact ⟨reached, begun⟩
    | further leads step ih =>
      exact ⟨ih.1.advanced step, (kept _).step step ih.1.sound ih.2⟩
  exact both.2

/-- So it holds in every state that is reached, when it holds at every start. -/
theorem Reachable.invariant {gateway : Gateway} (reached : gateway.Reachable)
    (begun : ∀ {settings : Settings} {supply : EngineSupply} {fabric : Fabric}
      {first : Gateway}, start settings supply fabric = .ok first → holds first.exchange) :
    holds gateway.exchange := by
  obtain ⟨settings, supply, fabric, first, started, leads⟩ := reachable_iff_leads.mp reached
  exact leads.invariant kept (.started started) (begun started)

end Gateway

end FaxRelay
