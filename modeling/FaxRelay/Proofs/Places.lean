import FaxRelay.Proofs.Agreement
import FaxRelay.Proofs.Moments

/-!
# Where sessions stand

Every live session knows its place in the table (`Table.Placed`): it learns it
when it is entered, and again before anything is done with it after it has moved
up. Media, the end of a call and whatever happens beside the rounds move no
session, so this holds in every state that a gateway reaches.

A scan that loses no call leaves no closed slot in front of its target
(`Table.DenseTo`). When the rest is cut off, the table is dense: its slots are
the live sessions, numbered in their order.
-/

set_option autoImplicit false

namespace FaxRelay

open FaxRelay.Media FaxRelay.Net FaxRelay.Pool FaxRelay.Signal

namespace Session

variable (session : Session)

/-- The gist of a session together with its place. -/
def standing : Session := { session.gist with index := session.index }

theorem index_heardFrom (sender : Endpoint) : (session.heardFrom sender).index = session.index := by
  obtain ⟨remote, same⟩ := session.heardFrom_eq sender
  rw [same]

theorem index_hearAll (size : Nat) (datagrams : List (Endpoint × Payload))
    (resources : Resources) :
    (session.hearAll size datagrams resources).1.index = session.index := by
  induction datagrams generalizing session resources with
  | nil => rfl
  | cons datagram rest ih => exact (ih _ _).trans (session.index_heardFrom datagram.1)

theorem index_onReadable (size : Nat) (resources : Resources) :
    (session.onReadable size resources).2.1.index = session.index := by
  rw [onReadable]
  split
  · rfl
  · dsimp only
    split <;> exact session.index_hearAll size _ _

theorem index_runBridge (count : Nat) (resources : Resources) :
    (session.runBridge count resources).1.index = session.index := by
  rw [runBridge]
  split <;> rfl

end Session

namespace Table

/-! ## Places -/

/-- Every live session knows its place. -/
def Placed (table : Table) : Prop :=
  ∀ (index : Nat) (slot : Slot), table.slots[index]? = some slot → slot.isLive = true →
    slot.session.index = index

theorem placed_empty (capacity : Nat) : (Table.empty capacity).Placed :=
  fun _ _ found => by cases found

namespace Placed

variable {table : Table} (placed : table.Placed)
include placed

/-- A slot may be changed as long as it is not opened and its session keeps its place. -/
theorem changeSlot {index : Nat} {change : Slot → Slot}
    (keeps : ∀ slot, table.slots[index]? = some slot → (change slot).isLive = true →
      slot.isLive = true ∧ (change slot).session.index = slot.session.index) :
    (table.changeSlot index change).Placed := by
  intro place slot found live
  rw [Table.changeSlot, List.getElem?_modify] at found
  obtain ⟨old, foundOld, rfl⟩ := Option.map_eq_some_iff.mp found
  by_cases here : index = place
  · subst here
    simp only [if_true] at live ⊢
    obtain ⟨wasLive, same⟩ := keeps old foundOld live
    rw [same]
    exact placed index old foundOld wasLive
  · rw [if_neg here] at live ⊢
    exact placed place old foundOld live

theorem changeSession {index : Nat} {change : Session → Session}
    (keeps : ∀ session, table.session? index = some session →
      (change session).index = session.index) : (table.changeSession index change).Placed :=
  placed.changeSlot fun _ found live => ⟨live, keeps _ (session?_of_slot found)⟩

theorem setSession {index : Nat} {session later : Session}
    (found : table.session? index = some session) (same : later.index = session.index) :
    (table.setSession index later).Placed := by
  refine placed.changeSession fun other place => ?_
  cases found.symm.trans place
  exact same

theorem markReadable (token : SessionId) : (table.markReadable token).2.Placed := by
  rw [Table.markReadable]
  split
  · exact placed
  · exact placed.changeSlot fun _ _ live => ⟨live, rfl⟩

theorem clearReadable (index : Nat) : (table.clearReadable index).Placed :=
  placed.changeSlot fun _ _ live => ⟨live, rfl⟩

/-- A session that is entered learns its place. -/
theorem append (session : Session) : (table.append session).Placed := by
  intro index slot found live
  rw [Table.append, List.getElem?_append] at found
  split at found
  · exact placed index slot found live
  · next beyond =>
    have last : index - table.slots.length = 0 := by
      have inside := (List.getElem?_eq_some_iff.mp found).1
      rw [List.length_singleton] at inside
      omega
    rw [last] at found
    cases found
    show table.slots.length = index
    omega

theorem hangUp (callId : CallId) : (table.hangUp callId).Placed := by
  intro index slot found live
  rw [Table.hangUp, List.getElem?_map] at found
  obtain ⟨old, foundOld, rfl⟩ := Option.map_eq_some_iff.mp found
  rw [Slot.hangUp] at live ⊢
  split at live
  · cases live
  · next spared =>
    rw [if_neg spared]
    exact placed index old foundOld live

/-- What a datagram of signaling does to a table leaves every session in its place. -/
theorem edit (edit : Edit) : (edit.apply table).Placed := by
  cases edit with
  | keep => exact placed
  | enter inbound outbound running => exact (placed.append inbound).append outbound
  | hangUp callId => exact placed.hangUp callId

/-- A session that moves up over closed slots learns its new place. -/
theorem moveUp {target source : Nat} {kept : Slot} (order : target ≤ source)
    (gap : table.Gap target source) (foundKept : table.slots[source]? = some kept) :
    (table.moveUp target source).Placed := by
  intro index slot found live
  rcases slot_cases_moveUp order foundKept found with ⟨here, _⟩ | ⟨rfl, rfl⟩ | ⟨rfl, less, there⟩
  · exact placed index slot here live
  · rfl
  · cases (gap target slot (Nat.le_refl target) less there).symm.trans live

theorem take (count : Nat) : Placed { table with slots := table.slots.take count } := by
  intro index slot found live
  exact placed index slot (getElem?_of_take found).2 live

/-- The end of a call opens no slot and moves none. -/
theorem closeSlot (index : Nat) (resources : Resources) :
    (closeSlot index table resources).1.Placed := by
  rw [Table.closeSlot]
  split
  · exact placed
  · exact placed.changeSlot fun _ _ live => by cases live

theorem destroyCall {index : Nat} {resources later : Resources} {after : Table}
    (destroyed : destroyCall index table resources = .ok (after, later)) : after.Placed := by
  rw [Table.destroyCall] at destroyed
  split at destroyed
  · cases destroyed
  split at destroyed
  · cases destroyed
  next session _ _ =>
  have stopped : ((table.callSlots index session).foldl
      (fun table slot => table.changeSession slot Session.stopBridge) table).Placed :=
    List.foldlRecOn _ _ placed fun _ placed _ _ => placed.changeSession fun _ _ => rfl
  have ended : (after, later).1.Placed := by
    rw [← Except.ok.inj destroyed]
    exact List.foldlRecOn _ _ (motive := fun state : Table × Resources => state.1.Placed) stopped
      fun state placed slot _ => placed.closeSlot slot state.2
  exact ended

end Placed

/-! ## Tables without closed slots -/

/-- In front of an index no slot is closed. -/
def DenseTo (target : Nat) (table : Table) : Prop :=
  ∀ (index : Nat) (slot : Slot), index < target → table.slots[index]? = some slot →
    slot.isLive = true

/-- No slot is closed. -/
def Dense (table : Table) : Prop := ∀ slot ∈ table.slots, slot.isLive = true

variable {table after : Table} {target source : Nat}

/-- The slot of the control session is never closed. -/
theorem Sound.denseTo_one (sound : table.Sound) : table.DenseTo 1 := by
  obtain ⟨control, rest, slots, live, _⟩ := sound.control
  intro index slot inside found
  obtain rfl : index = 0 := by omega
  rw [slots] at found
  cases found
  exact live

theorem DenseTo.of_sameOutline (dense : table.DenseTo target) (same : table.SameOutline after) :
    after.DenseTo target := by
  intro index slot inside found
  obtain ⟨old, foundOld, outline⟩ := same.slot_before found
  rw [(Slot.of_outline_eq outline).2]
  exact dense index old inside foundOld

theorem Dense.of_sameOutline (dense : table.Dense) (same : table.SameOutline after) :
    after.Dense := by
  intro slot member
  obtain ⟨index, found⟩ := List.getElem?_of_mem member
  obtain ⟨old, foundOld, outline⟩ := same.slot_before found
  rw [(Slot.of_outline_eq outline).2]
  exact dense old (List.mem_of_getElem? foundOld)

/-- An open slot that moves up is in front of the next target. -/
theorem DenseTo.moveUp (dense : table.DenseTo target) (order : target ≤ source) {slot : Slot}
    (found : table.slots[source]? = some slot) (live : slot.isLive = true) :
    (table.moveUp target source).DenseTo (target + 1) := by
  intro index other inside foundOther
  rcases slot_cases_moveUp order found foundOther with
    ⟨here, apart⟩ | ⟨rfl, rfl⟩ | ⟨rfl, less, _⟩
  · by_cases last : index = source
    · subst last
      cases found.symm.trans here
      exact live
    · exact dense index other (by omega) here
  · exact live
  · omega

theorem DenseTo.take (dense : table.DenseTo target) :
    Dense { table with slots := table.slots.take target } := by
  intro slot member
  obtain ⟨index, found⟩ := List.getElem?_of_mem member
  obtain ⟨front, there⟩ := getElem?_of_take found
  exact dense index slot front there

namespace Dense

variable (dense : table.Dense)
include dense

/-- The live sessions are those in all slots. -/
theorem liveSessions_eq : table.liveSessions = table.slots.map Slot.session :=
  congrArg (List.map Slot.session) (List.filter_eq_self.mpr dense)

/-- A dense table has as many slots as live sessions. -/
theorem size_eq : table.size = table.gists.length := by
  rw [gists_eq_liveSessions, dense.liveSessions_eq, List.length_map, List.length_map]
  rfl

/-- The live sessions of a dense table are numbered in their order. -/
theorem indices_eq (placed : table.Placed) :
    table.liveSessions.map Session.index = List.range table.gists.length := by
  rw [← dense.size_eq, dense.liveSessions_eq, List.map_map]
  refine List.ext_getElem? fun index => ?_
  rw [List.getElem?_map]
  cases found : table.slots[index]? with
  | none =>
    have beyond : table.size ≤ index := List.getElem?_eq_none_iff.mp found
    rw [List.getElem?_eq_none (by rwa [List.length_range])]
    rfl
  | some slot =>
    have inside : index < table.size := (List.getElem?_eq_some_iff.mp found).1
    rw [List.getElem?_range inside, Option.map_some]
    exact congrArg some (placed index slot found (dense slot (List.mem_of_getElem? found)))

/-- So their gists alone say where they stand. -/
theorem standings_eq (placed : table.Placed) :
    table.liveSessions.map Session.standing =
      List.zipWith (fun gist index => { gist with index := index }) table.gists
        (List.range table.gists.length) := by
  rw [← dense.indices_eq placed, gists_eq_liveSessions, List.zipWith_map, List.zipWith_self]
  rfl

end Dense

end Table

/-! ## Dropping closed slots -/

namespace Table

/-- The table without its closed slots. -/
def packed (table : Table) : Table := { table with slots := table.slots.filter Slot.isLive }

theorem gists_packed (table : Table) : table.packed.gists = table.gists := by
  rw [gists_eq_liveSessions, gists_eq_liveSessions, liveSessions, liveSessions, packed]
  dsimp only
  rw [List.filter_filter]
  simp only [Bool.and_self]

theorem dense_packed (table : Table) : table.packed.Dense :=
  fun _ member => (List.mem_filter.mp member).2

end Table

namespace Exchange

/-- The exchange without the closed slots of its table. -/
def packed (exchange : Exchange) : Exchange := { exchange with table := exchange.table.packed }

theorem rearranged_packed (exchange : Exchange) : exchange.Rearranged exchange.packed where
  gists_eq := exchange.table.gists_packed
  capacity_eq := rfl
  size_le := List.length_filter_le ..
  bridges slot member := ⟨slot, (List.mem_filter.mp member).1, rfl⟩
  resources_eq := rfl
  counters_eq := rfl

theorem Sound.packed {exchange : Exchange} (sound : exchange.Sound) : exchange.packed.Sound := by
  have gists := exchange.table.gists_packed
  refine ⟨sound.table.of_gists ?_ gists fun slot member closed => ?_, ?_,
    sound.wired.of_gists gists fun slot member live =>
      sound.wired.labeled slot (List.mem_filter.mp member).1 live⟩
  · obtain ⟨control, rest, slots, live, _⟩ := sound.table.control
    show (exchange.table.slots.filter Slot.isLive)[0]? = exchange.table.slots[0]?
    rw [slots, List.filter_cons_of_pos live]
    rfl
  · exact sound.table.closed slot (List.mem_filter.mp member).1 closed
  · show Ledger exchange.table.packed.gists exchange.resources
    rw [gists]
    exact sound.ledger

/-! ## Steps -/

variable {before after exchange : Exchange} {size : Nat}

theorem placed_destroyCall (placed : exchange.table.Placed) (index : Nat) :
    (exchange.destroyCall index).2.table.Placed := by
  rw [destroyCall]
  split
  · exact placed
  · next destroyed => exact placed.destroyCall destroyed

theorem placed_reapSlot (placed : exchange.table.Placed) (count index : Nat) :
    (reapSlot (count, exchange) index).2.table.Placed := by
  have counted : exchange.countMediaError.table.Placed := placed
  have ended := placed_destroyCall counted index
  rw [reapSlot]
  split
  · exact placed
  · split
    · next same => rwa [same] at ended
    · next same => rwa [same] at ended

theorem placed_handleMedia (placed : exchange.table.Placed) (index : Nat) :
    (exchange.handleMedia size index).table.Placed := by
  cases found : exchange.table.session? index with
  | none =>
    simp only [handleMedia, found]
    exact placed
  | some session =>
    have read : (exchange.readAt size index session).table.Placed :=
      placed.setSession found (session.index_onReadable size exchange.resources)
    rcases exchange.handleMedia_cases size found with handled | handled
    · rw [handled]
      exact read
    · have counted : (exchange.readAt size index session).countMediaError.table.Placed := read
      rw [handled]
      exact placed_destroyCall counted index

theorem Beside.placed (beside : Beside before after) (placed : before.table.Placed) :
    after.table.Placed := by
  induction beside with
  | nothing => exact placed
  | network earlier moved ih => exact ih
  | @bridged later earlier index count ih =>
    rw [runBridge]
    split
    · exact ih
    · next session found => exact ih.setSession found (session.index_runBridge count _)
  | failed earlier index ih => exact ih.changeSession fun _ _ => rfl

/-- **No step makes a session forget its place.** -/
theorem Step.placed (step : Step size before after) (sound : before.Sound)
    (placed : before.table.Placed) : after.table.Placed := by
  cases step with
  | beside beside => exact beside.placed placed
  | settled address => exact placed
  | reported token => exact placed.markReadable token
  | unmarked => exact placed.clearReadable 0
  | drained control => exact placed
  | signaled datagram =>
    obtain ⟨edit, _, table⟩ := sound.edited_signal size datagram
    rw [table]
    exact (placed.changeSession fun session _ => session.index_heardFrom datagram.1).edit edit
  | reaped between =>
    rw [reapWith]
    generalize before.table.failedBridges = indices
    generalize 0 = count
    clear sound
    induction indices generalizing count before with
    | nil => exact placed
    | cons index rest ih =>
      exact ih ((between index _).placed (placed_reapSlot placed count index)) _
  | @compacted beside between =>
    have scans : Scans (fun index exchange => beside index (exchange.handleMedia size index))
        fun _ exchange => exchange.table.Placed :=
      { moved := fun scanning found _ placed => placed.moveUp scanning.order scanning.gap found
        handled := fun {target exchange _} _ _ _ _ placed =>
          (between target _).placed (placed_handleMedia (placed.clearReadable target) target) }
    obtain ⟨target, scanned, _, placed, compacted⟩ :=
      scans.compactWith (keeps_handleMedia between) sound placed
    rw [compacted]
    exact placed.take target

end Exchange

/-- **In every state that a gateway reaches, every live session knows its place.** -/
theorem Gateway.Reachable.placed {gateway : Gateway} (reached : gateway.Reachable) :
    gateway.exchange.table.Placed := by
  induction reached with
  | started started =>
    obtain ⟨_, _, _, _, _, _, _, _, table⟩ := start_resources started
    rw [table]
    exact (Table.placed_empty _).append _
  | advanced reached step ih => exact step.placed reached.sound ih

end FaxRelay
