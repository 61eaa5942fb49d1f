import FaxRelay.Proofs.Statistics
import FaxRelay.Proofs.Visits
import Mathlib.Data.List.Basic

/-!
# The sweep of a table

Compaction visits the slots behind the control session one after the other, in
their order (`Table.visits`). An open slot is kept: it moves up to the target,
and when it was reported, its mark is cleared and it is handed over. Whoever
takes it may close slots anywhere in the table, also in front of the target and
behind the source, as long as every slot stays where it is (`Table.Tends`).

The slots that are kept are those that the visits find open, whatever becomes of
them afterwards. They stand in their old order in the places that they had when
they were handed over (`Table.Swept`), and nothing is cut off behind them that
is still open.
-/

set_option autoImplicit false

namespace FaxRelay

open FaxRelay.Net FaxRelay.Pool FaxRelay.Signal

variable {σ α : Type}

/-! ## Marks -/

/-- What may become of a slot that stays where it is: its session keeps its place and whatever
marks it, and when the slot is closed, it stays closed. -/
structure Slot.Tended (mark : Session → α) (before after : Slot) : Prop where
  mark_eq : mark after.session = mark before.session
  index_eq : after.session.index = before.session.index
  closed : before.isLive = false → after.isLive = false

instance Slot.isPreorder_tended {mark : Session → α} : IsPreorder Slot (Slot.Tended mark) where
  refl _ := ⟨rfl, rfl, id⟩
  trans _ _ _ earlier later :=
    ⟨later.mark_eq.trans earlier.mark_eq, later.index_eq.trans earlier.index_eq,
      fun closed => later.closed (earlier.closed closed)⟩

theorem Slot.clears_tended {mark : Session → α} (slot : Slot) :
    slot.Tended mark { slot with descriptor := { slot.descriptor with readable := false } } :=
  ⟨rfl, rfl, id⟩

namespace Table

/-- A table and what may become of it when slots are tended: slots may close, but none is added,
removed, reordered or opened. A mark is anything by which sessions can be told apart. -/
def Tends (mark : Session → α) : Table → Table → Prop := Slotwise (Slot.Tended mark)

/-- What marks the session in a place. -/
def label (mark : Session → α) (table : Table) (place : Nat) : Option α :=
  (table.session? place).map mark

section Labels

variable {mark : Session → α} {table before after : Table}

theorem label_of_slot {place : Nat} {slot : Slot} (found : table.slots[place]? = some slot) :
    table.label mark place = some (mark slot.session) := by
  rw [label, session?_of_slot found]
  rfl

theorem Tends.label_eq (tends : before.Tends mark after) (place : Nat) :
    after.label mark place = before.label mark place := by
  cases found : before.slots[place]? with
  | some slot =>
    obtain ⟨later, foundLater, tended⟩ := tends.slots place slot found
    rw [label_of_slot found, label_of_slot foundLater, tended.mark_eq]
  | none =>
    have beyond : after.slots[place]? = none := by
      rw [List.getElem?_eq_none_iff] at found ⊢
      have same : after.slots.length = before.slots.length := tends.size_eq
      omega
    rw [label, label, session?, session?, found, beyond]

theorem Tends.placed (tends : before.Tends mark after) (placed : before.Placed) :
    after.Placed := by
  intro index slot found live
  obtain ⟨old, foundOld, tended⟩ := tends.slot_before found
  rw [tended.index_eq]
  refine placed index old foundOld ?_
  cases wasLive : old.isLive with
  | true => rfl
  | false =>
    rw [tended.closed wasLive] at live
    cases live

theorem label_moveUp_ne {source target place : Nat} (first : place ≠ target)
    (last : place ≠ source) :
    (table.moveUp target source).label mark place = table.label mark place := by
  rw [label, label, session?, session?, getElem?_moveUp_ne first last]

/-- Reading the labels of the first places one after the other. -/
theorem map_take_slots (mark : Session → α) (table : Table) (count : Nat) :
    (table.slots.take count).map (fun slot => mark slot.session) =
      (List.range count).filterMap (table.label mark) := by
  induction count with
  | zero => rfl
  | succ count ih =>
    rw [List.take_add_one, List.map_append, ih, List.range_succ, List.filterMap_append]
    congr 1
    cases found : table.slots[count]? with
    | none =>
      have unlabeled : table.label mark count = none := by
        rw [label, session?, found]
        rfl
      rw [List.filterMap_cons_none unlabeled]
      rfl
    | some slot =>
      rw [List.filterMap_cons_some (label_of_slot found)]
      rfl

/-- Cutting slots off leaves those in front. -/
theorem label_take {place count : Nat} (table : Table) (front : place < count) :
    label mark { table with slots := table.slots.take count } place = table.label mark place := by
  rw [label, label, session?, session?, List.getElem?_take, if_pos front]

end Labels

theorem take_length_take (slots : List Slot) (count : Nat) :
    slots.take (slots.take count).length = slots.take count := by
  rw [List.length_take, ← List.take_eq_take_min]

/-- Behind a table with a gap up to its end all slots are closed. -/
theorem Gap.closed_of_mem_drop {table : Table} {target source : Nat}
    (gap : table.Gap target source) (bound : table.size ≤ source) :
    ∀ slot ∈ table.slots.drop (table.slots.take target).length, slot.isLive = false := by
  intro slot member
  obtain ⟨place, found⟩ := List.getElem?_of_mem member
  rw [List.getElem?_drop, List.length_take] at found
  have inside : min target table.slots.length + place < table.size :=
    (List.getElem?_eq_some_iff.mp found).1
  have size : table.size = table.slots.length := rfl
  exact gap _ slot (by omega) (by omega) found

/-! ## The invariant of the scan -/

/-- What holds of the table that a scan meets. Between the target and the source all slots are
closed, and from the source on the slots are still those that were there when the scan began. -/
structure Sweeping (mark : Session → α) (origin : Table) (source target : Nat)
    (table : Table) : Prop where
  spaced : Spaced source target table
  size_eq : table.size = origin.size
  ahead : ∀ place, source ≤ place → table.label mark place = origin.label mark place

/-- Tending slots, here or there, keeps the invariant of the scan. -/
theorem carried_sweeping (mark : Session → α) (origin : Table) :
    Carried (Slot.Tended mark) (Sweeping mark origin) where
  skip sweeping closed :=
    ⟨sweeping.spaced.skip closed, sweeping.size_eq,
      fun place inside => sweeping.ahead place (Nat.le_of_succ_le inside)⟩
  move {source target table _} sweeping found _ := by
    refine ⟨sweeping.spaced.moveUp found, (size_moveUp table target source).trans sweeping.size_eq,
      fun place inside => ?_⟩
    have order := sweeping.spaced.order
    rw [label_moveUp_ne (by omega) (by omega)]
    exact sweeping.ahead place (by omega)
  change sweeping tended :=
    ⟨sweeping.spaced.of_closing (tended.closing Slot.Tended.closed),
      tended.size_eq.trans sweeping.size_eq,
      fun place inside => (Tends.label_eq tended place).trans (sweeping.ahead place inside)⟩

/-- Every session that is live knows its place at each visit when it did at the beginning. -/
theorem carried_placed (mark : Session → α) :
    Carried (Slot.Tended mark) fun source target table =>
      Spaced source target table ∧ table.Placed where
  skip held closed := ⟨held.1.skip closed, held.2⟩
  move held found _ := ⟨held.1.moveUp found, held.2.moveUp held.1.order held.1.gap found⟩
  change held tended :=
    ⟨held.1.of_closing (tended.closing Slot.Tended.closed), Tends.placed tended held.2⟩

section Tending

variable {mark : Session → α} {dispatch : Nat → Table × σ → Table × σ} {origin : Table}
variable (placeless : ∀ (session : Session) (place : Nat),
  mark { session with index := place } = mark session)
variable (tends : ∀ (place : Nat) (table : Table) (state : σ),
  table.Tends mark (dispatch place (table, state)).1)

include placeless in
theorem label_moveUp {table : Table} {source target : Nat} {slot : Slot} (order : target ≤ source)
    (found : table.slots[source]? = some slot) :
    (table.moveUp target source).label mark target = table.label mark source := by
  obtain ⟨place, foundMoved⟩ := slot_moveUp order found
  rw [label_of_slot foundMoved, label_of_slot found, placeless]

include placeless in
/-- The slot that a visit hands over. -/
theorem Sweeping.handed {visit : Visit σ}
    (sweeping : Sweeping mark origin visit.source visit.target visit.met.1)
    (kept : visit.isKept = true) :
    ∃ slot, visit.handed.slots[visit.target]? = some slot ∧ slot.isLive = true ∧
      slot.descriptor.readable = false ∧
      some (mark slot.session) = origin.label mark visit.source := by
  obtain ⟨slot, found, live⟩ := Visit.slot_of_isKept kept
  obtain ⟨place, foundMoved⟩ := slot_moveUp sweeping.spaced.order found
  refine ⟨⟨{ slot.session with index := place }, { slot.descriptor with readable := false }⟩,
    ?_, live, rfl, ?_⟩
  · rw [Visit.handed, Visit.moved, clearReadable, changeSlot, List.getElem?_modify, foundMoved]
    simp
  · rw [← sweeping.ahead visit.source (Nat.le_refl _), label_of_slot found, placeless]

include tends

theorem Sweeping.visit (visit : Visit σ)
    (sweeping : Sweeping mark origin visit.source visit.target visit.met.1) :
    Sweeping mark origin (visit.source + 1) visit.next (visit.left dispatch).1 :=
  (carried_sweeping mark origin).visit Slot.clears_tended tends visit sweeping

/-- After the slot moved up, a visit leaves every label where it is. -/
theorem Visit.label_left {visit : Visit σ} (kept : visit.isKept = true) (place : Nat) :
    (visit.left dispatch).1.label mark place = visit.moved.label mark place :=
  Tends.label_eq (Visit.slotwise_left Slot.clears_tended tends kept) place

/-- A visit leaves the places in front of its target as they are. -/
theorem Visit.label_left_front {visit : Visit σ} (order : visit.target ≤ visit.source)
    {place : Nat} (front : place < visit.target) :
    (visit.left dispatch).1.label mark place = visit.met.1.label mark place := by
  cases kept : visit.isKept with
  | true =>
    rw [Visit.label_left tends kept]
    exact label_moveUp_ne (by omega) (by omega)
  | false => rw [Visit.left_of_closed kept]

include placeless in
/-- A visit leaves the slot that it keeps at its target. -/
theorem Visit.label_left_target {visit : Visit σ} (order : visit.target ≤ visit.source)
    (kept : visit.isKept = true) :
    (visit.left dispatch).1.label mark visit.target = visit.met.1.label mark visit.source := by
  obtain ⟨slot, found, _⟩ := Visit.slot_of_isKept kept
  rw [Visit.label_left tends kept]
  exact label_moveUp placeless order found

/-- What is in front of the target when a scan begins stays there. -/
theorem Sweeping.label_front {count source target : Nat} {state : Table × σ}
    (sweeping : Sweeping mark origin source target state.1) {place : Nat}
    (front : place < target) :
    (compactFrom dispatch count source target state).2.1.label mark place =
      state.1.label mark place := by
  induction count generalizing source target state with
  | zero => rfl
  | succ count ih =>
    let visit : Visit σ := ⟨source, target, state⟩
    have later : target ≤ visit.next := by
      rw [Visit.next]
      split
      · exact Nat.le_succ target
      · exact Nat.le_refl target
    rw [compactFrom_succ]
    exact (ih (Sweeping.visit tends visit sweeping) (Nat.lt_of_lt_of_le front later)).trans
      (Visit.label_left_front tends sweeping.spaced.order front)

include placeless in
/-- **A slot that is kept stays where it is kept**, whatever the later visits do. -/
theorem Sweeping.label_kept {count source target : Nat} {state : Table × σ}
    (sweeping : Sweeping mark origin source target state.1) :
    ∀ visit ∈ visitsFrom dispatch count source target state, visit.isKept = true →
      (compactFrom dispatch count source target state).2.1.label mark visit.target =
        origin.label mark visit.source := by
  induction count generalizing source target state with
  | zero => exact fun visit member => (List.not_mem_nil member).elim
  | succ count ih =>
    let first : Visit σ := ⟨source, target, state⟩
    have next := Sweeping.visit tends first sweeping
    intro visit member kept
    rw [compactFrom_succ]
    rcases List.mem_cons.mp member with rfl | member
    · have behind : target < first.next := by
        rw [Visit.next, if_pos kept]
        exact Nat.lt_succ_self target
      rw [next.label_front tends behind]
      exact (Visit.label_left_target placeless tends sweeping.spaced.order kept).trans
        (sweeping.ahead source (Nat.le_refl source))
    · exact ih next visit member kept

end Tending

/-! ## The sweep -/

/-- What compaction makes of a table, told by the visits of its scan. A visit stands for the
moment at which the scan reaches a slot, and a mark is anything by which sessions can be told
apart. -/
structure Swept (mark : Session → α) (dispatch : Nat → Table × σ → Table × σ) (table : Table)
    (state : σ) (visits : List (Visit σ)) (outcome : Nat × Table × σ) : Prop where
  /-- Every slot behind the first one is visited once, in the order of the slots. -/
  in_order : visits.map Visit.source = List.range' 1 (table.size - 1)
  /-- Each visit meets what the one before it left, and what is cut off after the last one is
  closed. -/
  passes : ∃ scanned : Table,
    Passes dispatch (table, state) visits (scanned, outcome.2.2) ∧
      outcome.2.1 = { scanned with slots := scanned.slots.take outcome.2.1.size } ∧
      ∀ slot ∈ scanned.slots.drop outcome.2.1.size, slot.isLive = false
  /-- What remains is the first slot and behind it those that were open when they were reached,
  in their old order. -/
  remains : outcome.2.1.slots.map (fun slot => mark slot.session) =
    (0 :: (visits.filter Visit.isKept).map Visit.source).filterMap (table.label mark)
  /-- Each of them remains at the target of its visit. -/
  stays : ∀ visit ∈ visits, visit.isKept = true →
    outcome.2.1.label mark visit.target = table.label mark visit.source
  /-- A record of what is dispatched shows the slots that were open and reported when they were
  reached, once each and in order, by their targets. -/
  dispatched : table.compact (recorded dispatch) (state, []) =
    (outcome.1, outcome.2.1, outcome.2.2,
      (visits.filter Visit.isReported).map fun visit => (visit.target, visit.handed))
  /-- The slot that is dispatched is found at the target, open, with its mark cleared. -/
  handed : ∀ visit ∈ visits, visit.isReported = true →
    ∃ slot, visit.handed.slots[visit.target]? = some slot ∧ slot.isLive = true ∧
      slot.descriptor.readable = false ∧ some (mark slot.session) = table.label mark visit.source
  /-- Whenever a slot is dispatched, every session that is live knows its place. -/
  placed : table.Placed → ∀ visit ∈ visits, visit.isReported = true → visit.handed.Placed
  /-- The number of slots that are gone is returned. -/
  removed : outcome.1 + outcome.2.1.size = table.size

section Swept

variable {mark : Session → α} {dispatch : Nat → Table × σ → Table × σ}

theorem sweeping_start (table : Table) : Sweeping mark table 1 1 table :=
  ⟨.start table, rfl, fun _ _ => rfl⟩

/-- **Compaction drops the slots that it finds closed and dispatches those that it finds
reported,** whatever is done with them meanwhile: whoever takes a slot may close any slots of the
table, as long as none is added, removed, reordered or opened. -/
theorem compact_swept
    (placeless : ∀ (session : Session) (place : Nat),
      mark { session with index := place } = mark session)
    (tends : ∀ (place : Nat) (table : Table) (state : σ),
      table.Tends mark (dispatch place (table, state)).1)
    (table : Table) (state : σ) :
    Swept mark dispatch table state (table.visits dispatch state)
      (table.compact dispatch state) := by
  let scan := compactFrom dispatch (table.size - 1) 1 1 (table, state)
  let kept := (table.visits dispatch state).filter Visit.isKept
  have begun : Sweeping mark table 1 1 table := sweeping_start table
  obtain ⟨met, ended⟩ : (∀ visit ∈ table.visits dispatch state,
        Sweeping mark table visit.source visit.target visit.met.1) ∧
      Sweeping mark table (1 + (table.size - 1)) scan.1 scan.2.1 :=
    (carried_sweeping mark table).scan Slot.clears_tended tends begun
  obtain ⟨targets, behind⟩ : kept.map Visit.target = List.range' 1 kept.length ∧
      scan.1 = 1 + kept.length := target_visitsFrom dispatch (table.size - 1) 1 1 (table, state)
  have stays : ∀ visit ∈ table.visits dispatch state, visit.isKept = true →
      scan.2.1.label mark visit.target = table.label mark visit.source :=
    Sweeping.label_kept placeless tends begun
  have front : ∀ visit ∈ kept, visit.target < scan.1 := by
    intro visit member
    have place : visit.target ∈ kept.map Visit.target := List.mem_map_of_mem member
    rw [targets, List.mem_range'_1] at place
    omega
  refine ⟨source_visitsFrom .., ⟨scan.2.1, passes_visitsFrom .., ?_, ?_⟩, ?_, ?_, ?_, ?_, ?_, ?_⟩
  · exact congrArg (fun slots => Table.mk slots scan.2.1.capacity) (take_length_take _ _).symm
  · exact ended.spaced.gap.closed_of_mem_drop (by have same := ended.size_eq; omega)
  · refine (map_take_slots mark scan.2.1 scan.1).trans ?_
    have first : scan.2.1.label mark 0 = table.label mark 0 :=
      Sweeping.label_front tends begun Nat.zero_lt_one
    have others : (kept.map Visit.target).filterMap (scan.2.1.label mark) =
        (kept.map Visit.source).filterMap (table.label mark) := by
      rw [List.filterMap_map, List.filterMap_map]
      refine List.filterMap_congr fun visit member => ?_
      obtain ⟨member, isKept⟩ := List.mem_filter.mp member
      exact stays visit member isKept
    rw [behind, Nat.add_comm, List.range_eq_range', List.range'_succ, ← targets,
      List.filterMap_cons, List.filterMap_cons, first, others]
  · intro visit member isKept
    rw [← stays visit member isKept]
    exact label_take scan.2.1 (front visit (List.mem_filter.mpr ⟨member, isKept⟩))
  · have scanned := compactFrom_recorded dispatch (table.size - 1) 1 1 table state []
    rw [compact, scanned]
    rfl
  · intro visit member reported
    exact (met visit member).handed placeless (Visit.isKept_of_isReported reported)
  · intro placed visit member reported
    obtain ⟨spaced, here⟩ :=
      ((carried_placed mark).scan Slot.clears_tended tends ⟨.start table, placed⟩).1 visit member
    obtain ⟨slot, found, _⟩ := Visit.slot_of_isKept (Visit.isKept_of_isReported reported)
    exact (here.moveUp spaced.order spaced.gap found).clearReadable visit.target
  · have same := ended.size_eq
    have size : (scan.2.1.slots.take scan.1).length = min scan.1 scan.2.1.size := List.length_take
    show scan.2.1.size - scan.1 + (scan.2.1.slots.take scan.1).length = table.size
    omega

end Swept

end Table

/-! ## The sweep of a relay -/

/-- What a session keeps when it is tended: its number, what it is for, and its call. -/
def Session.identity (session : Session) : SessionId × Role × Direction × Option CallId :=
  (session.id, session.role, session.direction, session.callId)

theorem Session.identity_of_gist {session other : Session} (same : session.gist = other.gist) :
    session.identity = other.identity := by
  show session.gist.identity = other.gist.identity
  rw [same]

theorem Slot.outlasts_tended : Slot.Outlasts (Slot.Tended Session.identity) where
  stops _ := ⟨rfl, rfl, id⟩
  shuts slot resources := by
    refine ⟨?_, slot.session.index_destroy resources, fun _ => rfl⟩
    show (slot.session.destroy resources).1.identity = slot.session.identity
    rw [Session.destroy]
    split <;> rfl

/-- Handling media tends the slots of a table, whatever the table is. -/
theorem Exchange.tends_handleMedia (size index : Nat) (exchange : Exchange) :
    exchange.table.Tends Session.identity (exchange.handleMedia size index).table :=
  Slot.outlasts_tended.handleMedia
    (fun slot resources =>
      ⟨Session.identity_of_gist (slot.session.traffic_onReadable resources size).1,
        slot.session.index_onReadable size resources, id⟩) index exchange

namespace Gateway

/-- The relay of `requested` when a fault has come to the outbound leg of the second call and a
datagram to the inbound leg of the third, and both were reported. -/
def stricken : Exchange :=
  let struck := requested.resources.fabric.deliver ⟨Ipv4.loopback, 37003⟩ (.fault .messageTooLong)
  { requested with
    table := ((requested.table.markReadable ⟨1025⟩).2.markReadable ⟨3⟩).2
    resources :=
      { requested.resources with
        fabric := struck.deliver ⟨Ipv4.loopback, 37004⟩ (.datagram ⟨Ipv4.loopback, 5000⟩ []) } }

/-- The legs of the second call move up over those of the first. When the outbound one is handed
over, both close, the inbound one behind the scan and the outbound one under it; the legs of the
third call move up behind them. -/
theorem compact_swept_stricken :
    let dispatch := Exchange.atSlot (Exchange.handleMedia 2048)
    let state := (stricken.resources, stricken.counters)
    let outcome := stricken.table.compact dispatch state
    Table.Swept Session.identity dispatch stricken.table state
        (stricken.table.visits dispatch state) outcome ∧
      (Table.dispatched (stricken.table.visits dispatch state)).map Prod.fst = [2, 3] ∧
      outcome.1 = 2 ∧
      outcome.2.1.slots.map (fun slot => (slot.session.id.value, slot.isLive)) =
        [(0, true), (2, false), (1025, false), (3, true), (1026, true)] :=
  ⟨Table.compact_swept (fun _ _ => rfl)
    (fun place table state =>
      Exchange.tends_handleMedia 2048 place ⟨table, state.1, state.2⟩) _ _, by decide +kernel⟩

end Gateway

end FaxRelay
