import FaxRelay.Proofs.Visits
import Mathlib.Logic.Relation

/-!
# The upkeep of a table

Whatever is done with a table, one operation after the other (`Table.Built`), it
stays in order (`Table.Orderly`): every session knows its place and every open
descriptor fits its session, there are no more slots than there may be, the
control session is in the first slot and nowhere else, and the descriptors of
closed slots say nothing.

Operations that change slots where they are keep each of this slot by slot
(`Slot.Attended`). Compaction does not: between two visits the sessions of the
closed slots that were parked behind the target are out of place. What holds at
every visit is that all the others are in place (`Table.Underway`).
-/

set_option autoImplicit false

namespace FaxRelay

open FaxRelay.Net FaxRelay.Pool

/-! ## Slots -/

/-- A slot whose descriptor fits: open, it has the token of its session; closed, it says
nothing. -/
structure Slot.Fits (slot : Slot) : Prop where
  token : slot.isLive = true → slot.descriptor.token = slot.session.token?
  shut : slot.isLive = false → slot.descriptor = Descriptor.shut

/-- What an operation may make of a slot where it is. -/
structure Slot.Attended (before after : Slot) : Prop where
  index_eq : after.session.index = before.session.index
  control_eq : after.session.isControl = before.session.isControl
  closed : before.isLive = false → after.isLive = false
  fits : before.Fits → after.Fits

namespace Slot

instance isPreorder_attended : IsPreorder Slot Slot.Attended where
  refl _ := ⟨rfl, rfl, id, id⟩
  trans _ _ _ earlier later :=
    ⟨later.index_eq.trans earlier.index_eq, later.control_eq.trans earlier.control_eq,
      fun closed => later.closed (earlier.closed closed),
      fun fits => later.fits (earlier.fits fits)⟩

theorem fits_shut (session : Session) : Slot.Fits ⟨session, Descriptor.shut⟩ where
  token live := by cases live
  shut _ := rfl

theorem outlasts_attended : Slot.Outlasts Slot.Attended where
  stops _ := ⟨rfl, rfl, id, fun fits => ⟨fits.token, fits.shut⟩⟩
  shuts slot resources := by
    refine ⟨slot.session.index_destroy resources, ?_, fun _ => rfl, fun _ => fits_shut _⟩
    show (slot.session.destroy resources).1.isControl = slot.session.isControl
    rw [Session.destroy]
    split <;> rfl

/-- Clearing the mark of a slot leaves its descriptor fitting. -/
theorem attended_clear (slot : Slot) :
    slot.Attended { slot with descriptor := { slot.descriptor with readable := false } } where
  index_eq := rfl
  control_eq := rfl
  closed := id
  fits fits :=
    ⟨fits.token, fun closed => by
      show { slot.descriptor with readable := false } = Descriptor.shut
      rw [fits.shut closed]
      rfl⟩

/-- A slot with a token may be marked: it is open. -/
theorem attended_mark {slot : Slot} {token : SessionId}
    (named : slot.descriptor.token = some token) :
    slot.Attended { slot with descriptor := { slot.descriptor with readable := true } } where
  index_eq := rfl
  control_eq := rfl
  closed := id
  fits fits :=
    ⟨fits.token, fun closed => by
      rw [fits.shut closed] at named
      cases named⟩

end Slot

namespace Table

/-! ## Operations -/

/-- What may be done with slots where they are. -/
inductive Attends : Table → Table → Prop
  /-- The slot with a token, if there is one, is marked as readable. -/
  | marked (table : Table) (token : SessionId) : Attends table (table.markReadable token).2
  /-- The mark of a slot, if there is one, is taken. -/
  | taken (table : Table) (index : Nat) : Attends table (table.takeReadable index).2
  /-- The call in a slot is destroyed. -/
  | destroyed {table after : Table} {index : Nat} {resources later : Resources}
      (destroyed : table.destroyCall index resources = .ok (after, later)) : Attends table after
  /-- The session in a slot is used without being moved or given another purpose or another
  token. -/
  | used (table : Table) (index : Nat) {change : Session → Session}
      (keeps : ∀ session, table.session? index = some session →
        (change session).index = session.index ∧
          (change session).isControl = session.isControl ∧
          (change session).token? = session.token?) :
      Attends table (table.changeSession index change)

/-- One operation on a table. A session may be pushed in whatever state it is, and whoever takes
a slot during compaction may do with slots where they are whatever can be done with them. -/
inductive Operation : Table → Table → Prop
  | attended {before after : Table} (attends : before.Attends after) : Operation before after
  | pushed {before after : Table} {session : Session} (pushed : before.push session = .ok after) :
      Operation before after
  | compacted {σ : Type} {dispatch : Nat → Table × σ → Table × σ}
      (attends : ∀ (place : Nat) (table : Table) (state : σ),
        Relation.ReflTransGen Attends table (dispatch place (table, state)).1)
      (table : Table) (state : σ) : Operation table (table.compact dispatch state).2.1
  | cleared (table : Table) (resources : Resources) :
      Operation table (table.destroyAll resources).2.1

/-- The tables that can be made from an empty one. -/
def Built (capacity : Nat) : Table → Prop := Relation.ReflTransGen Operation (.empty capacity)

/-- A table in order. -/
structure Orderly (capacity : Nat) (table : Table) : Prop where
  consistent : table.isConsistent = true
  capacity_eq : table.capacity = capacity
  fits : table.size ≤ table.capacity
  /-- What remains is no truncated difference. -/
  remaining : table.remaining + table.size = table.capacity
  control : ∀ (index : Nat) (session : Session), table.session? index = some session →
    (session.isControl = true ↔ index = 0)
  shut : ∀ slot ∈ table.slots, slot.isLive = false →
    slot.descriptor.token = none ∧ slot.descriptor.readable = false

/-! ## Slot by slot -/

theorem Attends.slotwise {before after : Table} (attends : before.Attends after) :
    Slotwise Slot.Attended before after := by
  cases attends with
  | marked token =>
    rw [markReadable]
    split
    · exact .refl before
    · next index found =>
      refine .changeSlot before index fun slot place => ?_
      obtain ⟨named, placeNamed, holds⟩ := findSlot?_eq_some found
      cases place.symm.trans placeNamed
      exact Slot.attended_mark (of_decide_eq_true holds)
  | taken index => exact .changeSlot before index fun slot _ => slot.attended_clear
  | destroyed destroyed => exact Slot.outlasts_attended.destroyCall destroyed
  | used index keeps =>
    refine .changeSlot before index fun slot found => ?_
    obtain ⟨index_eq, control_eq, token_eq⟩ := keeps slot.session (session?_of_slot found)
    exact ⟨index_eq, control_eq, id,
      fun fits => ⟨fun live => (fits.token live).trans token_eq.symm, fits.shut⟩⟩

/-- Handling the media of a slot is among what may be done with slots where they are. -/
theorem attends_handleMedia (size index : Nat) (exchange : Exchange) :
    Relation.ReflTransGen Attends exchange.table (exchange.handleMedia size index).table := by
  cases found : exchange.table.session? index with
  | none =>
    rw [Exchange.handleMedia, found]
  | some session =>
    let later := (session.onReadable size exchange.resources).2.1
    have gist : later.gist = session.gist :=
      (session.traffic_onReadable exchange.resources size).1
    have control : later.gist.isControl = session.gist.isControl := by rw [gist]
    have token : later.gist.token? = session.gist.token? := by rw [gist]
    have read : Attends exchange.table (exchange.table.setSession index later) := by
      refine .used exchange.table index fun present place => ?_
      obtain rfl := Option.some.inj (place.symm.trans found)
      exact ⟨present.index_onReadable size exchange.resources, control, token⟩
    rcases exchange.handleMedia_cases size found with handled | handled
    · rw [handled]
      exact .single read
    · rw [handled, Exchange.destroyCall]
      split
      · exact .single read
      · next destroyed => exact (Relation.ReflTransGen.single read).tail (.destroyed destroyed)

/-- The compaction of a relay is one of the operations. -/
theorem operation_compact (size : Nat) (exchange : Exchange) :
    Operation exchange.table (exchange.compact size).2.table :=
  .compacted (fun place table state =>
    attends_handleMedia size place ⟨table, state.1, state.2⟩) exchange.table _

theorem slotwise_destroyLive (state : Nat × Table × Resources) (index : Nat) :
    Slotwise Slot.Attended state.2.1 (destroyLive state index).2.1 := by
  obtain ⟨calls, table, resources⟩ := state
  rw [destroyLive]
  split
  · exact .refl table
  split
  · split
    · next destroyed => exact Slot.outlasts_attended.destroyCall destroyed
    · exact .refl table
  · exact .refl table

theorem slotwise_of_attends {before after : Table}
    (attends : Relation.ReflTransGen Attends before after) :
    Slotwise Slot.Attended before after := by
  induction attends with
  | refl => exact .refl before
  | tail _ next ih => exact ih.trans next.slotwise

/-! ## Underway -/

/-- What holds of a table at every visit of a scan. Only between the target and the source may
sessions be out of place. -/
structure Underway (capacity source target : Nat) (table : Table) : Prop where
  spaced : Spaced source target table
  capacity_eq : table.capacity = capacity
  bounded : table.size ≤ capacity
  control : ∀ (index : Nat) (slot : Slot), table.slots[index]? = some slot →
    (slot.session.isControl = true ↔ index = 0)
  placed : ∀ (index : Nat) (slot : Slot), table.slots[index]? = some slot →
    index < target ∨ source ≤ index → slot.session.index = index
  fits : ∀ (index : Nat) (slot : Slot), table.slots[index]? = some slot → slot.Fits

/-- What is in a place after a session was appended. -/
theorem slot_cases_append {table : Table} {session : Session} {index : Nat} {slot : Slot}
    (found : (table.append session).slots[index]? = some slot) :
    table.slots[index]? = some slot ∨ index = table.size ∧
      slot = ⟨{ session with index := table.size }, Descriptor.opened session.token?⟩ := by
  rw [append, List.getElem?_append] at found
  split at found
  · exact .inl found
  · next beyond =>
    have inside := (List.getElem?_eq_some_iff.mp found).1
    rw [List.length_singleton] at inside
    have last : index = table.slots.length := by omega
    rw [last, Nat.sub_self] at found
    cases found
    exact .inr ⟨last, rfl⟩

/-- **What holds of a table underway is carried along by a scan.** -/
theorem carried_underway (capacity : Nat) : Carried Slot.Attended (Underway capacity) where
  skip underway closed :=
    { underway with
      spaced := underway.spaced.skip closed
      placed := fun index slot found outside => underway.placed index slot found (by omega) }
  move {source target table kept} underway foundKept live := by
    obtain ⟨behind, order, _⟩ := underway.spaced
    refine ⟨underway.spaced.moveUp foundKept,
      (capacity_moveUp table target source).trans underway.capacity_eq, ?_, ?_, ?_, ?_⟩
    · rw [size_moveUp]
      exact underway.bounded
    · intro index slot found
      rcases slot_cases_moveUp order foundKept found with
        ⟨here, _⟩ | ⟨rfl, rfl⟩ | ⟨rfl, _, there⟩
      · exact underway.control index slot here
      · have media := underway.control source kept foundKept
        exact media.trans (by omega)
      · exact (underway.control target slot there).trans (by omega)
    · intro index slot found outside
      rcases slot_cases_moveUp order foundKept found with
        ⟨here, apart⟩ | ⟨rfl, rfl⟩ | ⟨rfl, _, there⟩
      · exact underway.placed index slot here (by omega)
      · rfl
      · omega
    · intro index slot found
      rcases slot_cases_moveUp order foundKept found with
        ⟨here, _⟩ | ⟨rfl, rfl⟩ | ⟨rfl, _, there⟩
      · exact underway.fits index slot here
      · have fits := underway.fits source kept foundKept
        exact ⟨fits.token, fits.shut⟩
      · exact underway.fits target slot there
  change underway attended := by
    refine ⟨underway.spaced.of_closing (attended.closing Slot.Attended.closed),
      attended.capacity_eq.trans underway.capacity_eq, attended.size_eq ▸ underway.bounded,
      ?_, ?_, ?_⟩
    · intro index slot found
      obtain ⟨old, foundOld, attended⟩ := attended.slot_before found
      rw [attended.control_eq]
      exact underway.control index old foundOld
    · intro index slot found outside
      obtain ⟨old, foundOld, attended⟩ := attended.slot_before found
      rw [attended.index_eq]
      exact underway.placed index old foundOld outside
    · intro index slot found
      obtain ⟨old, foundOld, attended⟩ := attended.slot_before found
      exact attended.fits (underway.fits index old foundOld)

/-! ## In order -/

/-- Between two operations every session is in its place. -/
def Kept (capacity : Nat) : Table → Prop := Underway capacity 1 1

namespace Kept

variable {capacity : Nat} {table : Table}

theorem empty (capacity : Nat) : Kept capacity (Table.empty capacity) where
  spaced := .start _
  capacity_eq := rfl
  bounded := Nat.zero_le capacity
  control _ _ found := by cases found
  placed _ _ found := by cases found
  fits _ _ found := by cases found

variable (kept : Kept capacity table)
include kept

theorem attended {after : Table} (attended : Slotwise Slot.Attended table after) :
    Kept capacity after := (carried_underway capacity).change kept attended

/-- A session that the table accepts is the control session exactly when it is the first. -/
theorem push {session : Session} {after : Table} (pushed : table.push session = .ok after) :
    Kept capacity after := by
  rw [Table.push] at pushed
  split at pushed
  · cases pushed
  next accepted =>
  obtain rfl := Except.ok.inj pushed
  rw [objection?] at accepted
  split at accepted
  · cases accepted
  next room =>
  split at accepted
  · cases accepted
  next suits =>
  have first : session.isControl = (table.size == 0) := by
    cases control : session.isControl <;> simp_all
  refine ⟨.start _, kept.capacity_eq, ?_, ?_, ?_, ?_⟩
  · have same := kept.capacity_eq
    rw [size_append]
    omega
  · intro index slot found
    rcases slot_cases_append found with before | ⟨rfl, rfl⟩
    · exact kept.control index slot before
    · exact ⟨fun control => by simpa using first.symm.trans control,
        fun empty => first.trans (by simpa using empty)⟩
  · intro index slot found _
    rcases slot_cases_append found with before | ⟨rfl, rfl⟩
    · exact kept.placed index slot before (by omega)
    · rfl
  · intro index slot found
    rcases slot_cases_append found with before | ⟨rfl, rfl⟩
    · exact kept.fits index slot before
    · exact ⟨fun _ => rfl, fun closed => by cases closed⟩

/-- **Compaction puts every session back into its place.** -/
theorem compact {σ : Type} {dispatch : Nat → Table × σ → Table × σ}
    (attends : ∀ (place : Nat) (table : Table) (state : σ),
      Slotwise Slot.Attended table (dispatch place (table, state)).1) (state : σ) :
    Kept capacity (table.compact dispatch state).2.1 := by
  let scan := compactFrom dispatch (table.size - 1) 1 1 (table, state)
  have begun : Underway capacity 1 1 table := kept
  have ended : Underway capacity (1 + (table.size - 1)) scan.1 scan.2.1 :=
    ((carried_underway capacity).scan Slot.attended_clear attends begun).2
  refine ⟨.start _, ended.capacity_eq, ?_, ?_, ?_, ?_⟩
  · exact Nat.le_trans (List.length_take_le' ..) ended.bounded
  · exact fun index slot found => ended.control index slot (getElem?_of_take found).2
  · intro index slot found _
    obtain ⟨front, there⟩ := getElem?_of_take found
    exact ended.placed index slot there (.inl front)
  · exact fun index slot found => ended.fits index slot (getElem?_of_take found).2

theorem destroyAll (resources : Resources) : Kept capacity (table.destroyAll resources).2.1 where
  spaced := .start _
  capacity_eq := by
    have closed : ((List.range' 1 (table.size - 1)).foldl destroyLive
        (0, table, resources)).2.1.capacity = table.capacity :=
      List.foldlRecOn _ _
        (motive := fun state : Nat × Table × Resources => state.2.1.capacity = table.capacity) rfl
        fun state same index _ => (slotwise_destroyLive state index).capacity_eq.trans same
    exact closed.trans kept.capacity_eq
  bounded := Nat.zero_le capacity
  control _ _ found := by cases found
  placed _ _ found := by cases found
  fits _ _ found := by cases found

/-- A table whose sessions are in their places is in order. -/
theorem in_order : table.Orderly capacity := by
  have bounded : table.size ≤ table.capacity := kept.capacity_eq ▸ kept.bounded
  refine ⟨?_, kept.capacity_eq, bounded, Nat.sub_add_cancel bounded, ?_, ?_⟩
  · refine List.all_eq_true.mpr fun entry member => ?_
    obtain ⟨slot, index⟩ := entry
    have found : table.slots[index]? = some slot := List.mem_zipIdx_iff_getElem?.mp member
    have placed : slot.session.index = index := kept.placed index slot found (by omega)
    have fits := kept.fits index slot found
    cases live : slot.isLive with
    | true => simp [placed, fits.token live]
    | false =>
      have closed : slot.descriptor.closed = true := by simpa [Slot.isLive] using live
      simp [placed, closed]
  · intro index session found
    obtain ⟨slot, place, rfl⟩ := slot_of_session? found
    exact kept.control index slot place
  · intro slot member closed
    obtain ⟨index, found⟩ := List.getElem?_of_mem member
    rw [(kept.fits index slot found).shut closed]
    exact ⟨rfl, rfl⟩

end Kept

/-- One operation keeps a table in order. -/
theorem Operation.kept {capacity : Nat} {before after : Table} (operation : Operation before after)
    (kept : Kept capacity before) : Kept capacity after := by
  cases operation with
  | attended attends => exact kept.attended attends.slotwise
  | pushed pushed => exact kept.push pushed
  | compacted attends => exact kept.compact (fun _ _ _ => slotwise_of_attends (attends ..)) _
  | cleared => exact kept.destroyAll _

theorem Built.kept {capacity : Nat} {table : Table} (built : Built capacity table) :
    Kept capacity table := by
  induction built with
  | refl => exact .empty capacity
  | tail _ operation ih => exact operation.kept ih

/-- Whenever a table may be compacted, its live sessions know their places. -/
theorem Built.placed {capacity : Nat} {table : Table} (built : Built capacity table) :
    table.Placed := fun index slot found _ => built.kept.placed index slot found (by omega)

/-- **Whatever is done with a table, it stays in order.** -/
theorem Built.orderly {capacity : Nat} {table : Table} (built : Built capacity table) :
    table.Orderly capacity := built.kept.in_order

theorem Built.append {capacity : Nat} {table : Table} {session : Session}
    (built : Built capacity table) (accepted : table.objection? session = none) :
    Built capacity (table.append session) :=
  built.tail (.pushed (by rw [push, accepted]))

/-- A session with a socket that has a number and names that of another. -/
def naming (role : Role) (id : UInt32) (peer : Option UInt32) : Session :=
  { Session.fresh ⟨id⟩ role .inbound 9 with
    socket := some ⟨Ipv4.loopback, 4000⟩
    peer := peer.map SessionId.mk }

/-- A control session, two legs that name each other, and a leg that names the control session. -/
def crossed : Table :=
  ((((empty 5).append (naming .control 0 none)).append (naming .gateway 1 (some 2))).append
    (naming .terminal 2 (some 1))).append (naming .gateway 3 (some 0))

/-- What is left when the call of the third leg is destroyed. -/
def uncrossed : Table × Resources :=
  match crossed.destroyCall 3 Gateway.idle.exchange.resources with
  | .ok state => state
  | .error _ => (crossed, Gateway.idle.exchange.resources)

/-- The control session is closed then as well, and stays where it is when the table is
compacted. -/
theorem orderly_uncrossed :
    (uncrossed.1.compact (fun _ (state : Table × Unit) => state) ()).2.1.Orderly 5 ∧
      (uncrossed.1.compact (fun _ (state : Table × Unit) => state) ()).2.1.slots.map Slot.isLive =
        [false, true, true] := by
  have started : Built 5 (empty 5) := .refl
  have built : Built 5 crossed := (((started.append rfl).append rfl).append rfl).append rfl
  have hungUp : crossed.destroyCall 3 Gateway.idle.exchange.resources =
      .ok (uncrossed.1, uncrossed.2) := rfl
  have compacted : Built 5 (uncrossed.1.compact (fun _ (state : Table × Unit) => state) ()).2.1 :=
    (built.tail (.attended (.destroyed hungUp))).tail (.compacted (fun _ _ _ => .refl) _ ())
  exact ⟨Built.orderly compacted, by decide +kernel⟩

end Table

end FaxRelay
