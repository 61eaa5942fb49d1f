import FaxRelay.Proofs.Exchange

/-!
# Compaction

Compaction scans the slots behind the control session with two indices. Between
the target and the source all slots are closed (`Table.Gap`): this is what makes
the exchange of the two slots keep the live sessions in their order, and what is
cut off in the end hold nothing. Handling the media of a slot in between may
close further slots, here or there, but opens none. What holds of the target and
the exchange after one step of the scan holds at its end (`Scans`).
-/

set_option autoImplicit false

namespace FaxRelay

/-! ## Closing a gap in a list -/

section Lists

variable {α β : Type} {pick : α → Option β} {list : List α}

/-- The first value that is picked from a list may be taken out in front. -/
theorem filterMap_take_out {source : Nat} {gone kept : α} (found : list[source]? = some kept)
    (nothing : pick gone = none)
    (before : ∀ (place : Nat) (entry : α), place < source → list[place]? = some entry →
      pick entry = none) :
    list.filterMap pick = (pick kept).toList ++ (list.set source gone).filterMap pick := by
  induction list generalizing source with
  | nil => cases found
  | cons head rest ih =>
    cases source with
    | zero =>
      cases found
      rw [List.set_cons_zero, List.filterMap_cons_none nothing]
      cases picked : pick kept with
      | none => rw [List.filterMap_cons_none picked, Option.toList_none, List.nil_append]
      | some value =>
        rw [List.filterMap_cons_some picked, Option.toList_some, List.singleton_append]
    | succ source =>
      have skipped : pick head = none := before 0 head (Nat.succ_pos _) rfl
      rw [List.set_cons_succ, List.filterMap_cons_none skipped, List.filterMap_cons_none skipped]
      exact ih found fun place entry below foundEntry =>
        before (place + 1) entry (Nat.succ_lt_succ below) foundEntry

/-- Exchanging an entry of which nothing is picked for a later one, with nothing picked in
between, does not change what is picked. -/
theorem filterMap_exchange {target source : Nat} {gone kept moved : α} (less : target < source)
    (foundGone : list[target]? = some gone) (foundKept : list[source]? = some kept)
    (nothing : pick gone = none) (same : pick moved = pick kept)
    (between : ∀ (place : Nat) (entry : α), target < place → place < source →
      list[place]? = some entry → pick entry = none) :
    ((list.set target moved).set source gone).filterMap pick = list.filterMap pick := by
  induction list generalizing target source with
  | nil => cases foundGone
  | cons head rest ih =>
    obtain ⟨source, rfl⟩ := Nat.exists_eq_succ_of_ne_zero (Nat.ne_zero_of_lt less)
    cases target with
    | zero =>
      cases foundGone
      rw [List.getElem?_cons_succ] at foundKept
      have takenOut := filterMap_take_out foundKept nothing fun place entry below found =>
        between (place + 1) entry (Nat.succ_pos _) (Nat.succ_lt_succ below) found
      rw [List.set_cons_zero, List.set_cons_succ, List.filterMap_cons_none nothing, takenOut,
        ← same]
      cases picked : pick moved with
      | none => rw [List.filterMap_cons_none picked, Option.toList_none, List.nil_append]
      | some value =>
        rw [List.filterMap_cons_some picked, Option.toList_some, List.singleton_append]
    | succ target =>
      have rest_eq := ih (Nat.lt_of_succ_lt_succ less) foundGone foundKept
        fun place entry above below found =>
          between (place + 1) entry (Nat.succ_lt_succ above) (Nat.succ_lt_succ below) found
      rw [List.set_cons_succ, List.set_cons_succ]
      cases picked : pick head with
      | none => rw [List.filterMap_cons_none picked, List.filterMap_cons_none picked, rest_eq]
      | some value => rw [List.filterMap_cons_some picked, List.filterMap_cons_some picked, rest_eq]

/-- What is in a place of the front of a list is there in the list. -/
theorem getElem?_of_take {count place : Nat} {entry : α}
    (found : (list.take count)[place]? = some entry) :
    place < count ∧ list[place]? = some entry := by
  rw [List.getElem?_take] at found
  split at found
  · next front => exact ⟨front, found⟩
  · cases found

/-- Cutting off entries of which nothing is picked does not change what is picked. -/
theorem filterMap_take {count : Nat}
    (behind : ∀ (place : Nat) (entry : α), count ≤ place → list[place]? = some entry →
      pick entry = none) : (list.take count).filterMap pick = list.filterMap pick := by
  have nothing : (list.drop count).filterMap pick = [] := by
    refine List.filterMap_eq_nil_iff.mpr fun entry member => ?_
    obtain ⟨place, found⟩ := List.getElem?_of_mem member
    rw [List.getElem?_drop] at found
    exact behind (count + place) entry (Nat.le_add_right ..) found
  rw [← List.append_nil (List.filterMap pick (list.take count)), ← nothing,
    ← List.filterMap_append, List.take_append_drop]

end Lists

namespace Table

/-! ## The gap -/

/-- Between two indices all slots are closed. -/
def Gap (table : Table) (target source : Nat) : Prop :=
  ∀ (index : Nat) (slot : Slot), target ≤ index → index < source →
    table.slots[index]? = some slot → slot.isLive = false

theorem Gap.of_closing {before after : Table} (closing : before.Closing after)
    {target source : Nat} (gap : before.Gap target source) : after.Gap target source := by
  intro index slot lower upper found
  have inside : index < before.slots.length := by
    have bound : index < after.size := (List.getElem?_eq_some_iff.mp found).1
    rwa [closing.size_eq] at bound
  have place := List.getElem?_eq_getElem inside
  obtain ⟨later, foundLater, closed⟩ :=
    closing.stays index _ place (gap index _ lower upper place)
  cases found.symm.trans foundLater
  exact closed

/-- A table whose first slot is the same and of whose slots the same gists remain. -/
theorem Sound.of_gists {before after : Table} (sound : before.Sound)
    (first : after.slots[0]? = before.slots[0]?) (same : after.gists = before.gists)
    (closed : ∀ slot ∈ after.slots, slot.isLive = false → slot.IsGone) : after.Sound := by
  obtain ⟨control, rest, slots, live, signaling⟩ := sound.control
  obtain ⟨rest', slots'⟩ : ∃ rest', after.slots = control :: rest' := by
    rw [slots] at first
    cases equal : after.slots with
    | nil =>
      rw [equal] at first
      cases first
    | cons head rest' =>
      rw [equal] at first
      cases first
      exact ⟨rest', rfl⟩
  refine ⟨⟨control, rest', slots', live, signaling⟩, closed, ?_⟩
  have legs : after.legs = before.legs := by
    rw [gists, gists, slots, slots', List.filterMap_cons_some (Slot.gist?_of_isLive live),
      List.filterMap_cons_some (Slot.gist?_of_isLive live)] at same
    rw [Table.legs, Table.legs, slots, slots']
    exact (List.cons.inj same).2
  rw [legs]
  exact sound.paired

/-- What moving a slot up writes. -/
theorem moveUp_eq {table : Table} {target source : Nat} {gone kept : Slot}
    (apart : target ≠ source) (foundGone : table.slots[target]? = some gone)
    (found : table.slots[source]? = some kept) :
    table.moveUp target source =
      { table with
        slots := (table.slots.set target
          { kept with session := { kept.session with index := target } }).set source gone } := by
  rw [moveUp, if_neg apart, foundGone, found]

theorem size_moveUp (table : Table) (target source : Nat) :
    (table.moveUp target source).size = table.size := by
  rw [moveUp]
  split
  · rfl
  · split
    · rw [size, size, List.length_set, List.length_set]
    · rfl

theorem capacity_moveUp (table : Table) (target source : Nat) :
    (table.moveUp target source).capacity = table.capacity := by
  rw [moveUp]
  split
  · rfl
  · split <;> rfl

/-- Moving a slot up changes nothing but the two slots. -/
theorem getElem?_moveUp_ne {table : Table} {target source place : Nat} (first : place ≠ target)
    (last : place ≠ source) :
    (table.moveUp target source).slots[place]? = table.slots[place]? := by
  rw [moveUp]
  split
  · rfl
  · split
    · dsimp only
      rw [List.getElem?_set_ne last.symm, List.getElem?_set_ne first.symm]
    · rfl

/-- The slot that moves up is the one that was behind, but for the place of its session. -/
theorem slot_moveUp {table : Table} {source target : Nat} {slot : Slot} (order : target ≤ source)
    (found : table.slots[source]? = some slot) :
    ∃ place, (table.moveUp target source).slots[target]? =
      some { slot with session := { slot.session with index := place } } := by
  by_cases same : target = source
  · subst same
    exact ⟨slot.session.index, by rw [moveUp, if_pos rfl]; exact found⟩
  · have inside : target < table.slots.length :=
      Nat.lt_of_le_of_lt order (List.getElem?_eq_some_iff.mp found).1
    refine ⟨target, ?_⟩
    rw [moveUp_eq same (List.getElem?_eq_getElem inside) found]
    simp [Ne.symm same, inside]

/-- What is in a place after a slot moved up. -/
theorem slot_cases_moveUp {table : Table} {target source index : Nat} {kept slot : Slot}
    (order : target ≤ source) (foundKept : table.slots[source]? = some kept)
    (found : (table.moveUp target source).slots[index]? = some slot) :
    (table.slots[index]? = some slot ∧ (target = source ∨ index ≠ target ∧ index ≠ source)) ∨
      (index = target ∧ slot = { kept with session := { kept.session with index := target } }) ∨
      (index = source ∧ target < source ∧ table.slots[target]? = some slot) := by
  by_cases same : target = source
  · rw [moveUp, if_pos same] at found
    exact .inl ⟨found, .inl same⟩
  have inside : source < table.slots.length := (List.getElem?_eq_some_iff.mp foundKept).1
  by_cases last : index = source
  · subst last
    have foundGone : table.slots[target]? = some table.slots[target] :=
      List.getElem?_eq_getElem (by omega)
    rw [moveUp_eq same foundGone foundKept] at found
    dsimp only at found
    rw [List.getElem?_set_self (by rw [List.length_set]; exact inside)] at found
    cases found
    exact .inr (.inr ⟨rfl, by omega, foundGone⟩)
  by_cases first : index = target
  · subst first
    rw [moveUp_eq same (List.getElem?_eq_getElem (by omega)) foundKept] at found
    dsimp only at found
    rw [List.getElem?_set_ne (Ne.symm last), List.getElem?_set_self (by omega)] at found
    cases found
    exact .inr (.inl ⟨rfl, rfl⟩)
  · rw [getElem?_moveUp_ne first last] at found
    exact .inl ⟨found, .inr ⟨first, last⟩⟩

/-- Every slot of the table was there before, but for the place of its session. -/
theorem mem_moveUp {table : Table} {target source : Nat} {slot : Slot}
    (member : slot ∈ (table.moveUp target source).slots) :
    ∃ old ∈ table.slots, ∃ place,
      slot = { old with session := { old.session with index := place } } := by
  rw [moveUp] at member
  split at member
  · exact ⟨slot, member, slot.session.index, rfl⟩
  split at member
  · next gone kept foundGone foundKept =>
    rcases List.mem_or_eq_of_mem_set member with member | rfl
    · rcases List.mem_or_eq_of_mem_set member with member | rfl
      · exact ⟨slot, member, slot.session.index, rfl⟩
      · exact ⟨kept, List.mem_of_getElem? foundKept, target, rfl⟩
    · exact ⟨slot, List.mem_of_getElem? foundGone, slot.session.index, rfl⟩
  · exact ⟨slot, member, slot.session.index, rfl⟩

/-- Behind a gap there may be another closed slot. -/
theorem Gap.skip {table : Table} {target source : Nat} (gap : table.Gap target source)
    (closed : ∀ slot, table.slots[source]? = some slot → slot.isLive = false) :
    table.Gap target (source + 1) := by
  intro index slot lower upper found
  by_cases last : index = source
  · subst last
    exact closed slot found
  · exact gap index slot lower (by omega) found

/-- When a slot moves up over a gap, the gap moves on. -/
theorem Gap.moveUp {table : Table} {target source : Nat} {slot : Slot}
    (gap : table.Gap target source) (order : target ≤ source)
    (found : table.slots[source]? = some slot) :
    (table.moveUp target source).Gap (target + 1) (source + 1) := by
  intro index other lower upper foundOther
  rcases slot_cases_moveUp order found foundOther with
    ⟨here, apart⟩ | ⟨rfl, _⟩ | ⟨rfl, less, there⟩
  · exact gap index other (by omega) (by omega) here
  · omega
  · exact gap target other (Nat.le_refl target) less there

section Moving

variable {table : Table} {target source : Nat} {slot : Slot} (order : target ≤ source)
variable (gap : table.Gap target source) (found : table.slots[source]? = some slot)
include order gap found

/-- Moving a slot up over the gap keeps the live sessions in their order. -/
theorem gists_moveUp : (table.moveUp target source).gists = table.gists := by
  by_cases equal : target = source
  · rw [moveUp, if_pos equal]
  have less : target < source := by omega
  have inside : source < table.slots.length := (List.getElem?_eq_some_iff.mp found).1
  have foundGone : table.slots[target]? = some table.slots[target] :=
    List.getElem?_eq_getElem (by omega)
  have closed := gap target _ (Nat.le_refl _) less foundGone
  generalize table.slots[target] = gone at foundGone closed
  have sameGist : Slot.gist? { slot with session := { slot.session with index := target } } =
      slot.gist? := rfl
  rw [moveUp_eq equal foundGone found]
  exact filterMap_exchange less foundGone found (Slot.gist?_eq_none closed) sameGist
    fun place entry above below foundEntry =>
      Slot.gist?_eq_none (gap place entry (Nat.le_of_lt above) below foundEntry)

theorem Sound.moveUp (sound : table.Sound) (behind : 1 ≤ target) :
    (table.moveUp target source).Sound := by
  have first : (table.moveUp target source).slots[0]? = table.slots[0]? :=
    getElem?_moveUp_ne (by omega) (by omega)
  refine sound.of_gists first (gists_moveUp order gap found) fun other member closed => ?_
  obtain ⟨old, oldMember, _, rfl⟩ := mem_moveUp member
  have gone := sound.closed old oldMember closed
  exact ⟨{ gone.session with }, gone.token⟩

end Moving

end Table

namespace Exchange

/-! ## The scan -/

/-- The exchange that a scan carries along. -/
def ofScan (state : Table × Resources × Counters) : Exchange :=
  ⟨state.1, state.2.1, state.2.2⟩

/-- What a scan does at a slot that was reported. -/
def atSlot (handle : Nat → Exchange → Exchange) (index : Nat)
    (state : Table × Resources × Counters) : Table × Resources × Counters :=
  ((handle index (ofScan state)).table, (handle index (ofScan state)).resources,
    (handle index (ofScan state)).counters)

/-- Compaction with any way of handling the slots that were reported. -/
def compactWith (handle : Nat → Exchange → Exchange) (exchange : Exchange) : Nat × Exchange :=
  let (removed, state) :=
    exchange.table.compact (atSlot handle) (exchange.resources, exchange.counters)
  (removed, ofScan state)

theorem compact_eq (size : Nat) (exchange : Exchange) :
    exchange.compact size = exchange.compactWith (handleMedia size) := rfl

/-- A way of handling a slot that keeps an exchange sound and opens no closed slot. -/
def Keeps (handle : Nat → Exchange → Exchange) : Prop :=
  ∀ (index : Nat) (exchange : Exchange), exchange.Sound →
    (handle index exchange).Sound ∧ exchange.table.Closing (handle index exchange).table

/-- What holds at every point of a scan: the exchange is sound, and everything between the target
and the source is closed. -/
structure Scanning (target source : Nat) (exchange : Exchange) : Prop where
  sound : exchange.Sound
  behind : 1 ≤ target
  order : target ≤ source
  gap : exchange.table.Gap target source

variable {handle : Nat → Exchange → Exchange} {source target : Nat}

/-- Passing over a closed slot. -/
theorem Scanning.skip {exchange : Exchange} {slot : Slot}
    (scanning : Scanning target source exchange)
    (found : exchange.table.slots[source]? = some slot) (closed : slot.isLive = false) :
    Scanning target (source + 1) exchange where
  sound := scanning.sound
  behind := scanning.behind
  order := Nat.le_succ_of_le scanning.order
  gap := scanning.gap.skip fun other foundOther => by
    cases found.symm.trans foundOther
    exact closed

/-- Moving a slot up. -/
theorem Scanning.move {exchange : Exchange} {slot : Slot}
    (scanning : Scanning target source exchange)
    (found : exchange.table.slots[source]? = some slot) :
    Scanning (target + 1) (source + 1)
      { exchange with table := exchange.table.moveUp target source } := by
  obtain ⟨sound, behind, order, gap⟩ := scanning
  have gists := Table.gists_moveUp order gap found
  refine ⟨⟨sound.table.moveUp order gap found behind, ?_,
    sound.wired.of_gists gists fun slot member live => ?_⟩,
    Nat.le_succ_of_le behind, Nat.succ_le_succ order, gap.moveUp order found⟩
  · show Ledger (exchange.table.moveUp target source).gists exchange.resources
    rw [gists]
    exact sound.ledger
  · obtain ⟨old, oldMember, _, rfl⟩ := Table.mem_moveUp member
    exact sound.wired.labeled old oldMember live

/-- Handling a slot, or doing anything else that opens no closed slot. -/
theorem Scanning.of_closing {before after : Exchange} (scanning : Scanning target source before)
    (sound : after.Sound) (closing : before.table.Closing after.table) :
    Scanning target source after :=
  ⟨sound, scanning.behind, scanning.order, scanning.gap.of_closing closing⟩

/-- A scan after an open slot was moved up, and handled if it was reported. -/
def afterSlot (handle : Nat → Exchange → Exchange) (target source : Nat) (slot : Slot)
    (state : Table × Resources × Counters) : Table × Resources × Counters :=
  if slot.descriptor.readable then
    atSlot handle target ((state.1.moveUp target source).clearReadable target, state.2)
  else (state.1.moveUp target source, state.2)

theorem compactFrom_of_isLive {state : Table × Resources × Counters} {slot : Slot}
    (found : state.1.slots[source]? = some slot) (live : slot.isLive = true) (count : Nat) :
    Table.compactFrom (atSlot handle) (count + 1) source target state =
      Table.compactFrom (atSlot handle) count (source + 1) (target + 1)
        (afterSlot handle target source slot state) := by
  rw [Table.compactFrom, found]
  exact if_pos live

theorem compactFrom_of_closed {state : Table × Resources × Counters} {slot : Slot}
    (found : state.1.slots[source]? = some slot) (closed : slot.isLive = false) (count : Nat) :
    Table.compactFrom (atSlot handle) (count + 1) source target state =
      Table.compactFrom (atSlot handle) count (source + 1) target state := by
  rw [Table.compactFrom, found]
  exact if_neg (by rw [closed]; exact Bool.false_ne_true)

/-- Going on behind a slot that was kept. -/
theorem Scanning.next (keeps : Keeps handle) {state : Table × Resources × Counters} {slot : Slot}
    (scanning : Scanning target source (ofScan state))
    (found : state.1.slots[source]? = some slot) :
    Scanning (target + 1) (source + 1) (ofScan (afterSlot handle target source slot state)) ∧
      (afterSlot handle target source slot state).1.size = state.1.size := by
  have moved := scanning.move found
  have size := state.1.size_moveUp target source
  rw [afterSlot]
  split
  · have cleared := quiet_clearReadable
      (ofScan (state.1.moveUp target source, state.2)) target
    obtain ⟨soundAfter, closing⟩ := keeps target _ (moved.sound.of_quiet cleared)
    have closings := (Table.Closing.of_sameOutline cleared.outline).trans closing
    exact ⟨moved.of_closing soundAfter closings, closings.size_eq.trans size⟩
  · exact ⟨moved, size⟩

/-- **A scan to the end of the table keeps the exchange sound,** and behind the target that it ends
with every slot is closed. -/
theorem Scanning.compactFrom (keeps : Keeps handle) (count : Nat)
    (state : Table × Resources × Counters) (scanning : Scanning target source (ofScan state))
    (whole : source + count = state.1.size) :
    Scanning (Table.compactFrom (atSlot handle) count source target state).1
        (ofScan (Table.compactFrom (atSlot handle) count source target state).2).table.size
        (ofScan (Table.compactFrom (atSlot handle) count source target state).2) ∧
      (Table.compactFrom (atSlot handle) count source target state).2.1.size = state.1.size := by
  -- The size of the table goes with the induction: a handler closes slots but removes none, so
  -- the scan ends where the table did when it began.
  induction count generalizing source target state with
  | zero =>
    rw [Table.compactFrom]
    rw [Nat.add_zero] at whole
    exact ⟨whole ▸ scanning, rfl⟩
  | succ count ih =>
    have inside : source < state.1.slots.length := by
      change source + (count + 1) = state.1.slots.length at whole
      omega
    have further : source + 1 + count = state.1.size := by rw [← whole]; omega
    have found := List.getElem?_eq_getElem inside
    generalize state.1.slots[source] = slot at found
    cases live : slot.isLive with
    | true =>
      obtain ⟨scanned, size⟩ := scanning.next keeps found
      rw [compactFrom_of_isLive found live]
      obtain ⟨scannedAll, same⟩ := ih _ scanned (further.trans size.symm)
      exact ⟨scannedAll, same.trans size⟩
    | false =>
      rw [compactFrom_of_closed found live]
      exact ih state (scanning.skip found live) further

/-- Cutting off closed slots keeps the exchange sound. -/
theorem Scanning.cut {exchange : Exchange}
    (scanning : Scanning target exchange.table.size exchange) :
    Sound
      { exchange with
        table := { exchange.table with slots := exchange.table.slots.take target } } := by
  obtain ⟨sound, behind, _, gap⟩ := scanning
  have gists : Table.gists
      { exchange.table with slots := exchange.table.slots.take target } =
      exchange.table.gists :=
    filterMap_take fun place slot lower found =>
      Slot.gist?_eq_none (gap place slot lower (List.getElem?_eq_some_iff.mp found).1 found)
  refine ⟨sound.table.of_gists (List.getElem?_take_of_lt behind) gists
    fun slot member closed => sound.table.closed slot (List.mem_of_mem_take member) closed, ?_,
    sound.wired.of_gists gists fun slot member live =>
      sound.wired.labeled slot (List.mem_of_mem_take member) live⟩
  rw [gists]
  exact sound.ledger

/-! ## What a scan carries along -/

/-- What holds of the target and the exchange all through a scan: an open slot may move up to the
target, and the slot that has come there may be handled. -/
structure Scans (handle : Nat → Exchange → Exchange) (holds : Nat → Exchange → Prop) : Prop where
  moved : ∀ {target source : Nat} {exchange : Exchange} {slot : Slot},
    Scanning target source exchange → exchange.table.slots[source]? = some slot →
    slot.isLive = true → holds target exchange →
    holds (target + 1) { exchange with table := exchange.table.moveUp target source }
  handled : ∀ {target : Nat} {exchange : Exchange} {slot : Slot}, exchange.Sound → 0 < target →
    exchange.table.slots[target]? = some slot → slot.isLive = true → holds (target + 1) exchange →
    holds (target + 1)
      (handle target { exchange with table := exchange.table.clearReadable target })

variable {holds : Nat → Exchange → Prop}

/-- It still holds at the end of a scan. -/
theorem Scans.compactFrom (scans : Scans handle holds) (keeps : Keeps handle) (count : Nat)
    (state : Table × Resources × Counters) (scanning : Scanning target source (ofScan state))
    (whole : source + count = state.1.size) (start : holds target (ofScan state)) :
    holds (Table.compactFrom (atSlot handle) count source target state).1
      (ofScan (Table.compactFrom (atSlot handle) count source target state).2) := by
  induction count generalizing source target state with
  | zero => exact start
  | succ count ih =>
    have inside : source < state.1.slots.length := by
      change source + (count + 1) = state.1.slots.length at whole
      omega
    have further : source + 1 + count = state.1.size := by rw [← whole]; omega
    have found := List.getElem?_eq_getElem inside
    generalize state.1.slots[source] = slot at found
    cases live : slot.isLive with
    | false =>
      rw [compactFrom_of_closed found live]
      exact ih state (scanning.skip found live) further start
    | true =>
      obtain ⟨scanned, size⟩ := scanning.next keeps found
      rw [compactFrom_of_isLive found live]
      refine ih _ scanned (further.trans size.symm) ?_
      have moved := scans.moved scanning found live start
      rw [afterSlot]
      split
      · obtain ⟨place, foundMoved⟩ := Table.slot_moveUp scanning.order found
        exact scans.handled (scanning.move found).sound scanning.behind foundMoved live moved
      · exact moved

/-- What is left by a compaction is cut off behind the target to which the scan has come; from there
on every slot is closed. -/
theorem Scans.compactWith (scans : Scans handle holds) (keeps : Keeps handle)
    {exchange : Exchange} (sound : exchange.Sound) (start : holds 1 exchange) :
    ∃ target scanned, Scanning target scanned.table.size scanned ∧ holds target scanned ∧
      (exchange.compactWith handle).2 =
        { scanned with
          table := { scanned.table with slots := scanned.table.slots.take target } } := by
  have filled : 1 + (exchange.table.size - 1) = exchange.table.size := by
    obtain ⟨control, rest, slots, _⟩ := sound.table.control
    rw [Table.size, slots, List.length_cons]
    omega
  have begun : Scanning 1 1 exchange :=
    ⟨sound, Nat.le_refl _, Nat.le_refl _, fun index slot lower upper => by omega⟩
  have held := scans.compactFrom keeps (exchange.table.size - 1)
    (exchange.table, exchange.resources, exchange.counters) begun filled start
  obtain ⟨scanned, _⟩ := Scanning.compactFrom keeps (exchange.table.size - 1)
    (exchange.table, exchange.resources, exchange.counters) begun filled
  exact ⟨_, _, scanned, held, rfl⟩

/-- **Compaction keeps the exchange sound.** -/
theorem Sound.compactWith {exchange : Exchange} (sound : exchange.Sound) (keeps : Keeps handle) :
    (exchange.compactWith handle).2.Sound := by
  have nothing : Scans handle fun _ _ => True := ⟨fun _ _ _ _ => trivial, fun _ _ _ _ _ => trivial⟩
  obtain ⟨target, scanned, scanning, _, compacted⟩ := nothing.compactWith keeps sound trivial
  rw [compacted]
  exact scanning.cut

end Exchange

end FaxRelay
