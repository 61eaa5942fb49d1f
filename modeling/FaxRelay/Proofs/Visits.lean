import FaxRelay.Proofs.Places
import Mathlib.Order.Defs.Unbundled

/-!
# Visits

The scan by which a table is compacted comes to the slots behind the first one
after the other. At each of them it makes a visit (`Table.Visit`): an open slot
is kept and moves up to the target, and when it was reported, its mark is cleared
and it is handed over. Whoever takes it leaves a table whose slots are related to
those that were handed over, each to the one in its place (`Table.Slotwise`).

What holds when a scan begins holds at every visit and at the end when it
outlasts three things: that a closed slot is passed over, that an open one moves
up over closed ones, and that slots change where they are (`Table.Carried`).
-/

set_option autoImplicit false

namespace FaxRelay

open FaxRelay.Net FaxRelay.Pool FaxRelay.Signal

variable {σ : Type}

theorem Session.index_destroy (session : Session) (resources : Resources) :
    (session.destroy resources).1.index = session.index := by
  rw [destroy]
  split <;> rfl

/-! ## Tables related slot by slot -/

namespace Table

/-- Two tables of the same size whose slots are related, each to the one in its place. -/
structure Slotwise (related : Slot → Slot → Prop) (before after : Table) : Prop where
  capacity_eq : after.capacity = before.capacity
  size_eq : after.size = before.size
  slots : ∀ (index : Nat) (slot : Slot), before.slots[index]? = some slot →
    ∃ later, after.slots[index]? = some later ∧ related slot later

namespace Slotwise

variable {related : Slot → Slot → Prop}

/-- Each slot comes from the one that was in its place. -/
theorem slot_before {before after : Table} (slotwise : Slotwise related before after)
    {index : Nat} {slot : Slot} (found : after.slots[index]? = some slot) :
    ∃ old, before.slots[index]? = some old ∧ related old slot := by
  have inside : index < before.slots.length := by
    have bound : index < after.size := (List.getElem?_eq_some_iff.mp found).1
    rwa [slotwise.size_eq] at bound
  have place := List.getElem?_eq_getElem inside
  obtain ⟨later, foundLater, related⟩ := slotwise.slots index _ place
  cases found.symm.trans foundLater
  exact ⟨_, place, related⟩

/-- Slots that stay closed are a relation under which no closed slot opens. -/
theorem closing (closed : ∀ {slot later : Slot}, related slot later → slot.isLive = false →
      later.isLive = false) {before after : Table} (slotwise : Slotwise related before after) :
    before.Closing after where
  size_eq := slotwise.size_eq
  stays index slot found wasClosed := by
    obtain ⟨later, foundLater, related⟩ := slotwise.slots index slot found
    exact ⟨later, foundLater, closed related wasClosed⟩

variable [IsPreorder Slot related]

theorem refl (table : Table) : Slotwise related table table where
  capacity_eq := rfl
  size_eq := rfl
  slots _ slot found := ⟨slot, found, Std.Refl.refl slot⟩

theorem trans {first second third : Table} (earlier : Slotwise related first second)
    (later : Slotwise related second third) : Slotwise related first third where
  capacity_eq := later.capacity_eq.trans earlier.capacity_eq
  size_eq := later.size_eq.trans earlier.size_eq
  slots index slot found := by
    obtain ⟨next, foundNext, toNext⟩ := earlier.slots index slot found
    obtain ⟨last, foundLast, toLast⟩ := later.slots index next foundNext
    exact ⟨last, foundLast, IsTrans.trans _ _ _ toNext toLast⟩

/-- Changing one slot, to one to which it is related. -/
theorem changeSlot (table : Table) (index : Nat) {change : Slot → Slot}
    (changes : ∀ slot, table.slots[index]? = some slot → related slot (change slot)) :
    Slotwise related table (table.changeSlot index change) where
  capacity_eq := rfl
  size_eq := List.length_modify ..
  slots place slot found := by
    rw [Table.changeSlot, List.getElem?_modify, found]
    by_cases here : index = place
    · subst here
      exact ⟨change slot, by simp, changes slot found⟩
    · exact ⟨slot, by simp [here], Std.Refl.refl slot⟩

end Slotwise

end Table

/-- A relation of slots that outlasts the end of a call: a slot is related to whatever becomes of
it when its bridge is stopped and when it is closed. -/
structure Slot.Outlasts (related : Slot → Slot → Prop) : Prop where
  stops : ∀ slot : Slot, related slot { slot with session := slot.session.stopBridge }
  shuts : ∀ (slot : Slot) (resources : Resources),
    related slot ⟨(slot.session.destroy resources).1, Descriptor.shut⟩

namespace Slot.Outlasts

variable {related : Slot → Slot → Prop} [IsPreorder Slot related]
variable (outlasts : Slot.Outlasts related)
include outlasts

theorem closeSlot (index : Nat) (table : Table) (resources : Resources) :
    Table.Slotwise related table (table.closeSlot index resources).1 := by
  rw [Table.closeSlot]
  split
  · exact .refl table
  · next session found =>
    refine .changeSlot table index fun slot place => ?_
    obtain rfl := Option.some.inj ((Table.session?_of_slot place).symm.trans found)
    exact outlasts.shuts slot resources

/-- Destroying a call stops bridges and closes slots, and nothing else. -/
theorem destroyCall {index : Nat} {table after : Table} {resources later : Resources}
    (destroyed : table.destroyCall index resources = .ok (after, later)) :
    Table.Slotwise related table after := by
  rw [Table.destroyCall] at destroyed
  split at destroyed
  · cases destroyed
  split at destroyed
  · cases destroyed
  next session _ _ =>
  have stopped : Table.Slotwise related table ((table.callSlots index session).foldl
      (fun table slot => table.changeSession slot Session.stopBridge) table) :=
    List.foldlRecOn _ _ (.refl table) fun middle before slot _ =>
      before.trans (.changeSlot middle slot fun slot _ => outlasts.stops slot)
  have closed : Table.Slotwise related table (after, later).1 := by
    rw [← Except.ok.inj destroyed]
    exact List.foldlRecOn _ _
      (motive := fun state : Table × Resources => Table.Slotwise related table state.1) stopped
      fun state before slot _ => before.trans (outlasts.closeSlot slot ..)
  exact closed

/-- Handling the media of a slot reads its session's socket, and may destroy its call. -/
theorem handleMedia {size : Nat}
    (reads : ∀ (slot : Slot) (resources : Resources),
      related slot { slot with session := (slot.session.onReadable size resources).2.1 })
    (index : Nat) (exchange : Exchange) :
    Table.Slotwise related exchange.table (exchange.handleMedia size index).table := by
  cases found : exchange.table.session? index with
  | none =>
    rw [Exchange.handleMedia, found]
    exact .refl exchange.table
  | some session =>
    have read : Table.Slotwise related exchange.table
        (exchange.readAt size index session).table := by
      refine .changeSlot exchange.table index fun slot place => ?_
      obtain rfl := Option.some.inj ((Table.session?_of_slot place).symm.trans found)
      exact reads slot exchange.resources
    rcases exchange.handleMedia_cases size found with handled | handled
    · rw [handled]
      exact read
    · rw [handled, Exchange.destroyCall]
      split
      · exact read
      · next destroyed => exact read.trans (outlasts.destroyCall destroyed)

end Slot.Outlasts

namespace Table

/-! ## Visits -/

/-- A scan that comes to a slot: where the slot is, where it would be kept, and what the scan
meets there. -/
structure Visit (σ : Type) where
  source : Nat
  target : Nat
  met : Table × σ

namespace Visit

variable (visit : Visit σ)

/-- The slot visited. -/
def slot? : Option Slot := visit.met.1.slots[visit.source]?

/-- Whether the slot is found open. -/
def isKept : Bool := visit.slot?.any Slot.isLive

/-- Whether the slot is found open and reported. -/
def isReported : Bool := visit.slot?.any fun slot => slot.isLive && slot.descriptor.readable

/-- Where the next open slot would be kept. -/
def next : Nat := if visit.isKept then visit.target + 1 else visit.target

/-- The table after the slot moved up. -/
def moved : Table := visit.met.1.moveUp visit.target visit.source

/-- The table that is handed over with a slot that was reported. -/
def handed : Table := visit.moved.clearReadable visit.target

/-- What the visit leaves. -/
def left (dispatch : Nat → Table × σ → Table × σ) : Table × σ :=
  if visit.isReported then dispatch visit.target (visit.handed, visit.met.2)
  else if visit.isKept then (visit.moved, visit.met.2)
  else visit.met

variable {visit}

theorem isKept_of_isReported (reported : visit.isReported = true) : visit.isKept = true := by
  rw [isReported] at reported
  rw [isKept]
  cases found : visit.slot? with
  | none =>
    rw [found] at reported
    cases reported
  | some slot =>
    rw [found, Option.any_some, Bool.and_eq_true] at reported
    exact reported.1

theorem isReported_of_not_isKept (closed : visit.isKept = false) : visit.isReported = false := by
  cases reported : visit.isReported with
  | false => rfl
  | true => exact (isKept_of_isReported reported).symm.trans closed

theorem left_of_isReported {dispatch : Nat → Table × σ → Table × σ}
    (reported : visit.isReported = true) :
    visit.left dispatch = dispatch visit.target (visit.handed, visit.met.2) := if_pos reported

theorem left_of_isKept {dispatch : Nat → Table × σ → Table × σ} (kept : visit.isKept = true)
    (silent : visit.isReported = false) : visit.left dispatch = (visit.moved, visit.met.2) := by
  simp only [left, silent, kept, Bool.false_eq_true, if_true, if_false]

theorem left_of_closed {dispatch : Nat → Table × σ → Table × σ} (closed : visit.isKept = false) :
    visit.left dispatch = visit.met := by
  simp only [left, isReported_of_not_isKept closed, closed, Bool.false_eq_true, if_false]

theorem slot_of_isKept (kept : visit.isKept = true) :
    ∃ slot, visit.met.1.slots[visit.source]? = some slot ∧ slot.isLive = true := by
  rw [isKept, slot?] at kept
  cases found : visit.met.1.slots[visit.source]? with
  | none =>
    rw [found] at kept
    cases kept
  | some slot =>
    rw [found] at kept
    exact ⟨slot, rfl, kept⟩

end Visit

/-- The visits of a scan from `source` on, at most `count` of them. -/
def visitsFrom (dispatch : Nat → Table × σ → Table × σ) :
    Nat → Nat → Nat → Table × σ → List (Visit σ)
  | 0, _, _, _ => []
  | count + 1, source, target, state =>
    let visit : Visit σ := ⟨source, target, state⟩
    visit :: visitsFrom dispatch count (source + 1) visit.next (visit.left dispatch)

/-- The visits of the scan by which a table is compacted. -/
def visits (dispatch : Nat → Table × σ → Table × σ) (table : Table) (state : σ) :
    List (Visit σ) :=
  visitsFrom dispatch (table.size - 1) 1 1 (table, state)

/-- Visits of which each meets what the one before it left, from a state to a state. -/
inductive Passes (dispatch : Nat → Table × σ → Table × σ) :
    Table × σ → List (Visit σ) → Table × σ → Prop
  | nothing (state : Table × σ) : Passes dispatch state [] state
  | visit {visit : Visit σ} {rest : List (Visit σ)} {last : Table × σ} :
      Passes dispatch (visit.left dispatch) rest last →
        Passes dispatch visit.met (visit :: rest) last

section Scan

variable {dispatch : Nat → Table × σ → Table × σ}

theorem compactFrom_of_beyond {table : Table} {source : Nat} (beyond : table.size ≤ source)
    (count target : Nat) (state : σ) :
    compactFrom dispatch count source target (table, state) = (target, table, state) := by
  cases count with
  | zero => rfl
  | succ count => rw [compactFrom, List.getElem?_eq_none_iff.mpr beyond]

/-- A scan is a visit and a scan of what the visit leaves. -/
theorem compactFrom_succ (count source target : Nat) (state : Table × σ) :
    compactFrom dispatch (count + 1) source target state =
      compactFrom dispatch count (source + 1) (Visit.next ⟨source, target, state⟩)
        (Visit.left ⟨source, target, state⟩ dispatch) := by
  obtain ⟨table, state⟩ := state
  cases found : table.slots[source]? with
  | none =>
    have visited : Visit.slot? ⟨source, target, table, state⟩ = none := found
    have beyond : table.size ≤ source := List.getElem?_eq_none_iff.mp found
    simp only [Visit.next, Visit.left, Visit.isKept, Visit.isReported, visited, Option.any_none,
      Bool.false_eq_true, if_false]
    rw [compactFrom_of_beyond beyond, compactFrom_of_beyond (Nat.le_succ_of_le beyond)]
  | some slot =>
    have visited : Visit.slot? ⟨source, target, table, state⟩ = some slot := found
    rw [compactFrom, found]
    cases live : slot.isLive <;>
      simp [Visit.next, Visit.left, Visit.isKept, Visit.isReported, Visit.handed, Visit.moved,
        visited, live]

variable (dispatch)

theorem source_visitsFrom (count source target : Nat) (state : Table × σ) :
    (visitsFrom dispatch count source target state).map Visit.source =
      List.range' source count := by
  induction count generalizing source target state with
  | zero => rfl
  | succ count ih => exact congrArg (source :: ·) (ih ..)

theorem passes_visitsFrom (count source target : Nat) (state : Table × σ) :
    Passes dispatch state (visitsFrom dispatch count source target state)
      (compactFrom dispatch count source target state).2 := by
  induction count generalizing source target state with
  | zero => exact .nothing state
  | succ count ih =>
    rw [compactFrom_succ]
    let visit : Visit σ := ⟨source, target, state⟩
    exact Passes.visit (ih (source + 1) visit.next (visit.left dispatch))

/-- The slots that are kept take one place after the other, and the scan ends behind the last. -/
theorem target_visitsFrom (count source target : Nat) (state : Table × σ) :
    let kept := (visitsFrom dispatch count source target state).filter Visit.isKept
    kept.map Visit.target = List.range' target kept.length ∧
      (compactFrom dispatch count source target state).1 = target + kept.length := by
  induction count generalizing source target state with
  | zero => exact ⟨rfl, rfl⟩
  | succ count ih =>
    have rest := ih (source + 1) (Visit.next ⟨source, target, state⟩)
      (Visit.left ⟨source, target, state⟩ dispatch)
    rw [compactFrom_succ, visitsFrom]
    cases kept : Visit.isKept (⟨source, target, state⟩ : Visit σ) with
    | false =>
      rw [Visit.next, if_neg (by rw [kept]; exact Bool.false_ne_true)] at rest ⊢
      rw [List.filter_cons_of_neg (by rw [kept]; exact Bool.false_ne_true)]
      exact rest
    | true =>
      rw [Visit.next, if_pos kept] at rest ⊢
      rw [List.filter_cons_of_pos kept]
      dsimp only at rest ⊢
      rw [List.map_cons, rest.1, List.length_cons, List.range'_succ, rest.2]
      exact ⟨rfl, by omega⟩

end Scan

/-! ## What is dispatched -/

/-- Dispatching and keeping a record of it: the place that was dispatched, and the table with
which it was. -/
def recorded (dispatch : Nat → Table × σ → Table × σ) (place : Nat)
    (state : Table × σ × List (Nat × Table)) : Table × σ × List (Nat × Table) :=
  let next := dispatch place (state.1, state.2.1)
  (next.1, next.2, state.2.2 ++ [(place, state.1)])

/-- What the visits dispatch. -/
def dispatched (visits : List (Visit σ)) : List (Nat × Table) :=
  (visits.filter Visit.isReported).map fun visit => (visit.target, visit.handed)

theorem dispatched_cons (visit : Visit σ) (rest : List (Visit σ)) :
    dispatched (visit :: rest) = dispatched [visit] ++ dispatched rest := by
  rw [dispatched, dispatched, dispatched, ← List.map_append, ← List.filter_append,
    List.singleton_append]

/-- A visit leaves the same with a record as without one, and what it dispatches is on record. -/
theorem left_recorded (dispatch : Nat → Table × σ → Table × σ) (source target : Nat)
    (table : Table) (state : σ) (record : List (Nat × Table)) :
    let visit : Visit σ := ⟨source, target, table, state⟩
    Visit.left ⟨source, target, table, state, record⟩ (recorded dispatch) =
      ((visit.left dispatch).1, (visit.left dispatch).2, record ++ dispatched [visit]) := by
  intro visit
  let recording : Visit (σ × List (Nat × Table)) := ⟨source, target, table, state, record⟩
  show recording.left (recorded dispatch) = _
  cases reported : visit.isReported with
  | true =>
    have alike : recording.isReported = true := reported
    have noted : dispatched [visit] = [(target, visit.handed)] := by
      rw [dispatched, List.filter_cons_of_pos reported]
      rfl
    rw [noted, Visit.left_of_isReported reported, Visit.left_of_isReported alike]
    rfl
  | false =>
    have silent : recording.isReported = false := reported
    have noted : dispatched [visit] = [] := by
      rw [dispatched, List.filter_cons_of_neg (by simp [reported])]
      rfl
    rw [noted, List.append_nil]
    cases kept : visit.isKept with
    | true =>
      have alike : recording.isKept = true := kept
      rw [Visit.left_of_isKept kept reported, Visit.left_of_isKept alike silent]
      rfl
    | false =>
      have alike : recording.isKept = false := kept
      rw [Visit.left_of_closed kept, Visit.left_of_closed alike]

/-- Keeping a record changes nothing of a scan, and what is on record is what the visits
dispatch. -/
theorem compactFrom_recorded (dispatch : Nat → Table × σ → Table × σ)
    (count source target : Nat) (table : Table) (state : σ) (record : List (Nat × Table)) :
    let scan := compactFrom dispatch count source target (table, state)
    compactFrom (recorded dispatch) count source target (table, state, record) =
      (scan.1, scan.2.1, scan.2.2,
        record ++ dispatched (visitsFrom dispatch count source target (table, state))) := by
  induction count generalizing source target table state record with
  | zero => exact congrArg (fun record => (target, table, state, record)) (List.append_nil _).symm
  | succ count ih =>
    dsimp only
    rw [compactFrom_succ, compactFrom_succ, left_recorded, visitsFrom,
      dispatched_cons _ (visitsFrom ..), ← List.append_assoc]
    exact ih ..

/-! ## What a scan carries along -/

/-- Where a scan stands: between the target and the source all slots are closed. -/
structure Spaced (source target : Nat) (table : Table) : Prop where
  behind : 1 ≤ target
  order : target ≤ source
  gap : table.Gap target source

namespace Spaced

variable {source target : Nat} {table : Table}

theorem start (table : Table) : Spaced 1 1 table :=
  ⟨Nat.le_refl 1, Nat.le_refl 1, fun _ _ lower upper => by omega⟩

/-- Passing over a closed slot. -/
theorem skip (spaced : Spaced source target table)
    (closed : ∀ slot, table.slots[source]? = some slot → slot.isLive = false) :
    Spaced (source + 1) target table where
  behind := spaced.behind
  order := Nat.le_succ_of_le spaced.order
  gap := spaced.gap.skip closed

theorem moveUp (spaced : Spaced source target table) {slot : Slot}
    (found : table.slots[source]? = some slot) :
    Spaced (source + 1) (target + 1) (table.moveUp target source) where
  behind := Nat.le_succ_of_le spaced.behind
  order := Nat.succ_le_succ spaced.order
  gap := spaced.gap.moveUp spaced.order found

theorem of_closing {after : Table} (spaced : Spaced source target table)
    (closing : table.Closing after) : Spaced source target after :=
  ⟨spaced.behind, spaced.order, spaced.gap.of_closing closing⟩

end Spaced

/-- What holds of the source, the target and the table of a scan at every visit, when slots change
where they are in no other way than to slots to which they are related. -/
structure Carried (related : Slot → Slot → Prop) (motive : Nat → Nat → Table → Prop) : Prop where
  skip : ∀ {source target : Nat} {table : Table}, motive source target table →
    (∀ slot, table.slots[source]? = some slot → slot.isLive = false) →
    motive (source + 1) target table
  move : ∀ {source target : Nat} {table : Table} {slot : Slot}, motive source target table →
    table.slots[source]? = some slot → slot.isLive = true →
    motive (source + 1) (target + 1) (table.moveUp target source)
  change : ∀ {source target : Nat} {before after : Table}, motive source target before →
    Slotwise related before after → motive source target after

section Carrying

variable {related : Slot → Slot → Prop} [IsPreorder Slot related]
variable {dispatch : Nat → Table × σ → Table × σ}
variable (clears : ∀ slot : Slot,
  related slot { slot with descriptor := { slot.descriptor with readable := false } })
variable (tends : ∀ (place : Nat) (table : Table) (state : σ),
  Slotwise related table (dispatch place (table, state)).1)
include clears tends

/-- After the slot moved up, a visit changes slots where they are. -/
theorem Visit.slotwise_left {visit : Visit σ} (kept : visit.isKept = true) :
    Slotwise related visit.moved (visit.left dispatch).1 := by
  cases reported : visit.isReported with
  | true =>
    rw [Visit.left_of_isReported reported]
    exact Slotwise.trans (.changeSlot visit.moved visit.target fun slot _ => clears slot)
      (tends ..)
  | false =>
    rw [Visit.left_of_isKept kept reported]
    exact Slotwise.refl _

theorem Carried.visit {motive : Nat → Nat → Table → Prop} (carried : Carried related motive)
    (visit : Visit σ) (held : motive visit.source visit.target visit.met.1) :
    motive (visit.source + 1) visit.next (visit.left dispatch).1 := by
  cases kept : visit.isKept with
  | true =>
    obtain ⟨slot, found, live⟩ := Visit.slot_of_isKept kept
    rw [Visit.next, if_pos kept]
    exact carried.change (carried.move held found live) (Visit.slotwise_left clears tends kept)
  | false =>
    rw [Visit.next, if_neg (by simp [kept]), Visit.left_of_closed kept]
    refine carried.skip held fun slot found => ?_
    rw [Visit.isKept, Visit.slot?, found] at kept
    exact kept

/-- **What a scan carries along holds at every visit and at the end.** -/
theorem Carried.scan {motive : Nat → Nat → Table → Prop} (carried : Carried related motive)
    {count source target : Nat} {state : Table × σ} (start : motive source target state.1) :
    (∀ visit ∈ visitsFrom dispatch count source target state,
        motive visit.source visit.target visit.met.1) ∧
      motive (source + count) (compactFrom dispatch count source target state).1
        (compactFrom dispatch count source target state).2.1 := by
  induction count generalizing source target state with
  | zero => exact ⟨fun visit member => (List.not_mem_nil member).elim, start⟩
  | succ count ih =>
    obtain ⟨all, last⟩ := ih (carried.visit clears tends ⟨source, target, state⟩ start)
    refine ⟨fun visit member => ?_, ?_⟩
    · rcases List.mem_cons.mp member with rfl | member
      · exact start
      · exact all visit member
    · rw [compactFrom_succ, Nat.add_comm count, ← Nat.add_assoc]
      exact last

end Carrying

end Table

end FaxRelay
