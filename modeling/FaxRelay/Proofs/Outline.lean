import FaxRelay.Proofs.Pairs
import FaxRelay.Table

/-!
# What a table holds

Traffic changes a table all the time: the control session takes note of who
spoke last, a terminal leg learns where it is called from, a bridge makes
progress, a slot is marked as readable. Leaving these out, what remains of a
session is its gist, and what remains of a table is its outline.

A table is sound when its first slot is a live control session, when its closed
slots hold nothing, and when the gists of its other live slots are paired
(`Table.Sound`). All of this is a matter of the outline.
-/

set_option autoImplicit false

namespace FaxRelay

open FaxRelay.Media FaxRelay.Net FaxRelay.Pool FaxRelay.Signal

/-! ## Gists -/

namespace Session

/-- A session without what traffic changes: its place in the table, the remote endpoint unless it
was given with the call, and the progress of its bridge. -/
def gist (session : Session) : Session :=
  { session with
    index := 0
    remote := if session.role = .gateway then session.remote else none
    bridge := session.bridge.map fun bridge => { bridge with progress := Progress.fresh } }

@[simp] theorem gist_gist (session : Session) : session.gist.gist = session.gist := by
  cases session with
  | mk id ownsId callId index role direction stage localAddress remote port socket peer engine
      bridge bridgeActive =>
    cases bridge <;> cases role <;> rfl

theorem gist_heardFrom (session : Session) (sender : Endpoint) :
    (session.heardFrom sender).gist = session.gist := by
  cases session with
  | mk id ownsId callId index role => cases role <;> rfl

section Heard

variable (session : Session) (sender : Endpoint)

/-- Hearing from somebody changes the remote endpoint at most. -/
theorem heardFrom_eq :
    ∃ remote, session.heardFrom sender = { session with remote := remote } := by
  rw [heardFrom]
  split
  · exact ⟨_, rfl⟩
  · exact ⟨_, rfl⟩
  · exact ⟨session.remote, rfl⟩

theorem engine_heardFrom : (session.heardFrom sender).engine = session.engine := by
  obtain ⟨remote, same⟩ := session.heardFrom_eq sender
  rw [same]

theorem socket_heardFrom : (session.heardFrom sender).socket = session.socket := by
  obtain ⟨remote, same⟩ := session.heardFrom_eq sender
  rw [same]

theorem bridge_heardFrom : (session.heardFrom sender).bridge = session.bridge := by
  obtain ⟨remote, same⟩ := session.heardFrom_eq sender
  rw [same]

end Heard

/-- A session that signals: open, and part of no call. -/
structure IsSignaling (session : Session) : Prop where
  control : session.isControl = true
  stage_eq : session.stage = .setup
  owns : session.ownsId = true
  has_socket : session.socket.isSome = true
  no_call : session.callId = none
  no_peer : session.peer = none
  no_port : session.port = none
  no_engine : session.engine = none
  no_bridge : session.bridge = none

/-- A session that holds nothing any more. -/
structure IsGone (session : Session) : Prop where
  media : session.isControl = false
  stage_eq : session.stage = .complete
  disowned : session.ownsId = false
  no_port : session.port = none
  no_socket : session.socket = none
  no_peer : session.peer = none
  no_engine : session.engine = none
  no_bridge : session.bridge = none
  inactive : session.bridgeActive = false

theorem IsGone.stopBridge_eq {session : Session} (gone : session.IsGone) :
    session.stopBridge = session := by
  cases session
  cases gone.no_bridge
  cases gone.inactive
  rfl

theorem isSignaling_gist {session : Session} :
    session.gist.IsSignaling ↔ session.IsSignaling := by
  constructor
  · intro signaling
    exact { signaling with no_bridge := Option.map_eq_none_iff.mp signaling.no_bridge }
  · intro signaling
    exact { signaling with no_bridge := Option.map_eq_none_iff.mpr signaling.no_bridge }

theorem isGone_gist {session : Session} : session.gist.IsGone ↔ session.IsGone := by
  constructor
  · intro gone
    exact { gone with no_bridge := Option.map_eq_none_iff.mp gone.no_bridge }
  · intro gone
    exact { gone with no_bridge := Option.map_eq_none_iff.mpr gone.no_bridge }

end Session

/-! ## Outlines -/

namespace Slot

/-- A slot without what traffic changes. -/
def outline (slot : Slot) : Slot :=
  ⟨slot.session.gist, { slot.descriptor with readable := false }⟩

/-- A slot in which nothing is left. -/
structure IsGone (slot : Slot) : Prop where
  session : slot.session.IsGone
  token : slot.descriptor.token = none

/-- The gist of the session in a live slot. -/
def gist? (slot : Slot) : Option Session := if slot.isLive then some slot.session.gist else none

theorem gist?_outline (slot : Slot) : slot.outline.gist? = slot.gist? := by
  show (if slot.isLive then some slot.session.gist.gist else none) = _
  rw [Session.gist_gist]
  rfl

theorem gist?_comp_outline : gist? ∘ outline = gist? := funext gist?_outline

theorem of_outline_eq {slot other : Slot} (same : slot.outline = other.outline) :
    slot.session.gist = other.session.gist ∧ slot.isLive = other.isLive := by
  constructor
  · show slot.outline.session = _
    rw [same]
    rfl
  · show slot.outline.isLive = _
    rw [same]
    rfl

theorem isGone_of_outline_eq {slot other : Slot} (same : slot.outline = other.outline)
    (gone : other.IsGone) : slot.IsGone where
  session := by
    refine Session.isGone_gist.mp ?_
    rw [(of_outline_eq same).1]
    exact Session.isGone_gist.mpr gone.session
  token := by
    show slot.outline.descriptor.token = none
    rw [same]
    exact gone.token

theorem gist?_of_isLive {slot : Slot} (live : slot.isLive = true) :
    slot.gist? = some slot.session.gist := if_pos live

theorem gist?_eq_none {slot : Slot} (closed : slot.isLive = false) : slot.gist? = none :=
  if_neg (by rw [closed]; exact Bool.false_ne_true)

end Slot

namespace Table

/-- The gists of the live sessions in the order of their slots. -/
def gists (table : Table) : List Session := table.slots.filterMap Slot.gist?

/-- The gists of the live sessions behind the first slot. -/
def legs (table : Table) : List Session := table.slots.tail.filterMap Slot.gist?

/-- Two tables that differ only in what traffic changes. -/
structure SameOutline (before after : Table) : Prop where
  capacity_eq : after.capacity = before.capacity
  outline_eq : after.slots.map Slot.outline = before.slots.map Slot.outline

namespace SameOutline

variable {first second third : Table}

theorem refl (table : Table) : table.SameOutline table := ⟨rfl, rfl⟩

theorem trans (earlier : first.SameOutline second) (later : second.SameOutline third) :
    first.SameOutline third :=
  ⟨later.capacity_eq.trans earlier.capacity_eq, later.outline_eq.trans earlier.outline_eq⟩

theorem gists_eq (same : first.SameOutline second) : second.gists = first.gists := by
  have gists := congrArg (List.filterMap Slot.gist?) same.outline_eq
  rwa [List.filterMap_map, List.filterMap_map, Slot.gist?_comp_outline] at gists

theorem legs_eq (same : first.SameOutline second) : second.legs = first.legs := by
  have legs := congrArg (fun slots => (List.tail slots).filterMap Slot.gist?) same.outline_eq
  rwa [← List.map_tail, ← List.map_tail, List.filterMap_map, List.filterMap_map,
    Slot.gist?_comp_outline] at legs

theorem size_eq (same : first.SameOutline second) : second.size = first.size := by
  have lengths := congrArg List.length same.outline_eq
  rwa [List.length_map, List.length_map] at lengths

/-- The slot that was at a place has the outline of the slot that is there. -/
theorem slot_before (same : first.SameOutline second) {index : Nat} {slot : Slot}
    (found : second.slots[index]? = some slot) :
    ∃ old, first.slots[index]? = some old ∧ slot.outline = old.outline := by
  have outlines := congrArg (fun slots => slots[index]?) same.outline_eq
  rw [List.getElem?_map, List.getElem?_map, found] at outlines
  obtain ⟨old, place, outline⟩ := Option.map_eq_some_iff.mp outlines.symm
  exact ⟨old, place, outline.symm⟩

theorem symm (same : first.SameOutline second) : second.SameOutline first :=
  ⟨same.capacity_eq.symm, same.outline_eq.symm⟩

end SameOutline

/-- Changing a slot in a way that its outline does not show. -/
theorem sameOutline_changeSlot (table : Table) (index : Nat) (change : Slot → Slot)
    (keeps : ∀ slot, table.slots[index]? = some slot → (change slot).outline = slot.outline) :
    table.SameOutline (table.changeSlot index change) where
  capacity_eq := rfl
  outline_eq := by
    apply List.ext_getElem?
    intro place
    show ((table.slots.modify index change).map Slot.outline)[place]? = _
    rw [List.getElem?_map, List.getElem?_map, List.getElem?_modify]
    by_cases same : index = place
    · subst same
      cases found : table.slots[index]? with
      | none => rfl
      | some slot => simp [keeps slot found]
    · simp [same]

theorem sameOutline_changeSession (table : Table) (index : Nat) (change : Session → Session)
    (keeps : ∀ session, table.session? index = some session →
      (change session).gist = session.gist) :
    table.SameOutline (table.changeSession index change) := by
  refine sameOutline_changeSlot table index _ fun slot found => ?_
  have keeps := keeps slot.session (by rw [session?, found]; rfl)
  simp only [Slot.outline, keeps]

theorem changeSession_eq_self {table : Table} {index : Nat} {change : Session → Session}
    (keeps : ∀ session, table.session? index = some session → change session = session) :
    table.changeSession index change = table := by
  have slots : (table.slots.modify index fun slot =>
      { slot with session := change slot.session }) = table.slots := by
    apply List.ext_getElem?
    intro place
    rw [List.getElem?_modify]
    by_cases same : index = place
    · subst same
      cases found : table.slots[index]? with
      | none => rfl
      | some slot =>
        have kept := keeps slot.session (by rw [session?, found]; rfl)
        simp [kept]
    · simp [same]
  exact congrArg (fun slots => Table.mk slots table.capacity) slots

theorem sameOutline_setSession {table : Table} {index : Nat} {session other : Session}
    (found : table.session? index = some session) (same : other.gist = session.gist) :
    table.SameOutline (table.setSession index other) := by
  refine sameOutline_changeSession table index _ fun present place => ?_
  cases found.symm.trans place
  exact same

theorem sameOutline_clearReadable (table : Table) (index : Nat) :
    table.SameOutline (table.clearReadable index) :=
  sameOutline_changeSlot table index _ fun _ _ => rfl

theorem sameOutline_markReadable (table : Table) (token : SessionId) :
    table.SameOutline (table.markReadable token).2 := by
  rw [markReadable]
  split
  · exact SameOutline.refl table
  · exact sameOutline_changeSlot table _ _ fun _ _ => rfl

/-! ## Legs and their slots -/

section Legs

variable {table : Table}

/-- The gist of a live slot behind the first one is a leg. -/
theorem gist_mem_legs {index : Nat} {slot : Slot} (found : table.slots[index]? = some slot)
    (behind : 0 < index) (live : slot.isLive = true) : slot.session.gist ∈ table.legs := by
  refine List.mem_filterMap.mpr ⟨slot, ?_, Slot.gist?_of_isLive live⟩
  have place : table.slots.tail[index - 1]? = some slot := by
    rw [List.getElem?_tail, Nat.sub_add_cancel behind]
    exact found
  exact List.mem_of_getElem? place

/-- Every leg is the gist of a live slot behind the first one. -/
theorem slot_of_mem_legs {leg : Session} (member : leg ∈ table.legs) :
    ∃ index slot, table.slots[index]? = some slot ∧ 0 < index ∧ slot.isLive = true ∧
      slot.session.gist = leg := by
  obtain ⟨slot, member, gist⟩ := List.mem_filterMap.mp member
  obtain ⟨place, found⟩ := List.getElem?_of_mem member
  rw [List.getElem?_tail] at found
  rw [Slot.gist?] at gist
  split at gist
  · next live => exact ⟨place + 1, slot, found, Nat.succ_pos _, live, Option.some.inj gist⟩
  · cases gist

end Legs

/-! ## Sound tables -/

/-- A table of a relay: the control session in the first slot, nothing left in closed slots, and
behind the first slot the pairs of the established calls. -/
structure Sound (table : Table) : Prop where
  control : ∃ slot rest, table.slots = slot :: rest ∧ slot.isLive = true ∧
    slot.session.IsSignaling
  closed : ∀ slot ∈ table.slots, slot.isLive = false → slot.IsGone
  paired : Paired table.legs

namespace Sound

variable {table : Table}

/-- The first session of a sound table is found as its control session. -/
theorem control?_eq (sound : table.Sound) :
    ∃ slot rest, table.slots = slot :: rest ∧ slot.isLive = true ∧ slot.session.IsSignaling ∧
      table.control? = some slot.session := by
  obtain ⟨slot, rest, slots, live, signaling⟩ := sound.control
  refine ⟨slot, rest, slots, live, signaling, ?_⟩
  rw [control?, session?, slots]
  exact Option.filter_some_pos signaling.control

theorem of_sameOutline {after : Table} (sound : table.Sound) (same : table.SameOutline after) :
    after.Sound where
  control := by
    obtain ⟨slot, rest, slots, live, signaling⟩ := sound.control
    have first : table.slots[0]? = some slot := by rw [slots]; rfl
    obtain ⟨later, place, outline⟩ := same.symm.slot_before first
    obtain ⟨rest', slots'⟩ : ∃ rest', after.slots = later :: rest' := by
      cases equal : after.slots with
      | nil =>
        rw [equal] at place
        cases place
      | cons first rest' =>
        rw [equal] at place
        cases place
        exact ⟨rest', rfl⟩
    obtain ⟨sessions, lives⟩ := Slot.of_outline_eq outline
    refine ⟨later, rest', slots', lives ▸ live, Session.isSignaling_gist.mp ?_⟩
    rw [← sessions]
    exact Session.isSignaling_gist.mpr signaling
  closed slot member closed := by
    obtain ⟨place, found⟩ := List.getElem?_of_mem member
    obtain ⟨old, foundOld, outline⟩ := same.slot_before found
    obtain ⟨_, lives⟩ := Slot.of_outline_eq outline
    exact Slot.isGone_of_outline_eq outline
      (sound.closed old (List.mem_of_getElem? foundOld) (lives ▸ closed))
  paired := by
    rw [same.legs_eq]
    exact sound.paired

/-- The live sessions of a sound table: the control session, then the legs. -/
theorem gists_eq (sound : table.Sound) :
    ∃ control : Session, control.IsSignaling ∧ table.gists = control :: table.legs := by
  obtain ⟨slot, rest, slots, live, signaling⟩ := sound.control
  refine ⟨slot.session.gist, Session.isSignaling_gist.mpr signaling, ?_⟩
  rw [gists, legs, slots, List.filterMap_cons_some (Slot.gist?_of_isLive live)]
  rfl

/-- A slot whose session names a call is not the first one. -/
theorem behind_of_call (sound : table.Sound) {index : Nat} {slot : Slot} {callId : CallId}
    (found : table.slots[index]? = some slot) (names : slot.session.callId = some callId) :
    0 < index := by
  obtain ⟨control, rest, slots, _, signaling⟩ := sound.control
  refine Nat.pos_of_ne_zero ?_
  rintro rfl
  rw [slots] at found
  cases found
  rw [signaling.no_call] at names
  cases names

end Sound

/-! ## Slots that stay closed -/

/-- The slots stay where they are, and none that is closed opens again. -/
structure Closing (before after : Table) : Prop where
  size_eq : after.size = before.size
  stays : ∀ (index : Nat) (slot : Slot), before.slots[index]? = some slot →
    slot.isLive = false → ∃ later : Slot, after.slots[index]? = some later ∧ later.isLive = false

namespace Closing

variable {first second third : Table}

theorem trans (earlier : first.Closing second) (later : second.Closing third) :
    first.Closing third where
  size_eq := later.size_eq.trans earlier.size_eq
  stays index slot found closed := by
    obtain ⟨next, foundNext, closedNext⟩ := earlier.stays index slot found closed
    exact later.stays index next foundNext closedNext

theorem of_sameOutline (same : first.SameOutline second) : first.Closing second where
  size_eq := same.size_eq
  stays index slot found closed := by
    obtain ⟨later, foundLater, outline⟩ := same.symm.slot_before found
    exact ⟨later, foundLater, (Slot.of_outline_eq outline).2 ▸ closed⟩

end Closing

/-! ## Appending a call -/

theorem gists_append (table : Table) (session : Session) :
    (table.append session).gists = table.gists ++ [session.gist] := by
  rw [gists, append, List.filterMap_append]
  rfl

theorem legs_append {table : Table} (session : Session) (filled : table.slots ≠ []) :
    (table.append session).legs = table.legs ++ [session.gist] := by
  rw [legs, append]
  dsimp only
  rw [List.tail_append_of_ne_nil filled, List.filterMap_append]
  rfl

theorem Sound.legs_append_pair {table : Table} (sound : table.Sound) (inbound outbound : Session) :
    ((table.append inbound).append outbound).legs =
      table.legs ++ [inbound.gist, outbound.gist] := by
  have filled : table.slots ≠ [] := by
    obtain ⟨slot, rest, slots, _⟩ := sound.control
    rw [slots]
    exact List.cons_ne_nil _ _
  have stillFilled : (table.append inbound).slots ≠ [] := by simp [append]
  rw [legs_append outbound stillFilled, legs_append inbound filled, List.append_assoc]
  rfl

theorem Sound.append_pair {table : Table} (sound : table.Sound) {callId : CallId}
    {inbound outbound : Session} (bridged : Bridged callId inbound.gist outbound.gist)
    (fresh : ∀ leg ∈ table.legs, leg.callId ≠ some callId) :
    ((table.append inbound).append outbound).Sound where
  control := by
    obtain ⟨slot, rest, slots, live, signaling⟩ := sound.control
    exact ⟨slot, _, by rw [append, append, slots]; rfl, live, signaling⟩
  closed slot member closed := by
    simp only [append, List.mem_append, List.mem_singleton] at member
    rcases member with (member | rfl) | rfl
    · exact sound.closed slot member closed
    · cases closed
    · cases closed
  paired := by
    rw [sound.legs_append_pair]
    exact sound.paired.append bridged fresh

end Table

end FaxRelay
