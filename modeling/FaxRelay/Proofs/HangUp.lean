import FaxRelay.Proofs.Outline

/-!
# Hanging up

Destroying the call of a live leg closes the slots of exactly the two legs of
its call, where they stand, and touches no other slot: it hangs up the call
(`Table.hangUp`). The peer of a leg is found by its number, so this needs that
no two live sessions have the same one.
-/

set_option autoImplicit false

namespace FaxRelay

open FaxRelay.Media FaxRelay.Pool FaxRelay.Signal

/-! ## Lists -/

/-- What is in a list but not outside a pair in it is one of the pair. -/
theorem eq_of_mem_pair {α : Type} {before after : List α} {first second value : α}
    (member : value ∈ before ++ first :: second :: after) (stranger : value ∉ before ++ after) :
    value = first ∨ value = second := by
  rcases List.mem_append.mp member with member | member
  · exact absurd (List.mem_append_left _ member) stranger
  rcases List.mem_cons.mp member with same | member
  · exact .inl same
  rcases List.mem_cons.mp member with same | member
  · exact .inr same
  · exact absurd (List.mem_append_right _ member) stranger

/-- No two places of a list yield the same value. -/
theorem place_unique {α β : Type} {pick : α → Option β} {list : List α}
    (nodup : (list.filterMap pick).Nodup) {first second : Nat} {left right : α} {value : β}
    (leftPlace : list[first]? = some left) (rightPlace : list[second]? = some right)
    (leftPick : pick left = some value) (rightPick : pick right = some value) :
    first = second := by
  -- Both places move through the list together, so the induction is over any two of them.
  induction list generalizing first second with
  | nil => cases leftPlace
  | cons head rest ih =>
    have tail : (rest.filterMap pick).Nodup := by
      cases picked : pick head with
      | none => rwa [List.filterMap_cons_none picked] at nodup
      | some value =>
        rw [List.filterMap_cons_some picked] at nodup
        exact (List.nodup_cons.mp nodup).2
    have absent : ∀ {place : Nat} {entry : α}, pick head = some value →
        rest[place]? = some entry → pick entry ≠ some value := by
      intro place entry picked found same
      rw [List.filterMap_cons_some picked] at nodup
      exact (List.nodup_cons.mp nodup).1
        (List.mem_filterMap.mpr ⟨entry, List.mem_of_getElem? found, same⟩)
    cases first with
    | zero =>
      cases leftPlace
      cases second with
      | zero => rfl
      | succ second => exact absurd rightPick (absent leftPick rightPlace)
    | succ first =>
      cases second with
      | zero =>
        cases rightPlace
        exact absurd leftPick (absent rightPick leftPlace)
      | succ second => rw [ih tail leftPlace rightPlace]

/-! ## Sessions that end -/

namespace Session

/-- A session after it was destroyed. -/
def ended (session : Session) : Session :=
  { session.stopBridge with
    engine := none
    socket := none
    port := none
    ownsId := false
    peer := none
    stage := .complete }

theorem destroy_eq {session : Session} (isOpen : session.stage ≠ .complete)
    (resources : Resources) :
    session.destroy resources = (session.ended, (session.destroy resources).2) := by
  simp only [destroy, if_neg isOpen]
  rfl

/-- Whether the bridge was stopped before makes no difference to an open session. -/
theorem destroy_stopBridge {session : Session} (isOpen : session.stage ≠ .complete)
    (resources : Resources) : session.stopBridge.destroy resources = session.destroy resources := by
  have still : session.stopBridge.stage ≠ .complete := isOpen
  simp only [destroy, if_neg isOpen, if_neg still]
  rfl

theorem destroy_gist (session : Session) (resources : Resources) :
    (session.gist.destroy resources).2 = (session.destroy resources).2 := by
  by_cases isOpen : session.stage = .complete
  · have still : session.gist.stage = .complete := isOpen
    simp only [destroy, if_pos isOpen, if_pos still]
  · have still : session.gist.stage ≠ .complete := isOpen
    simp only [destroy, if_neg isOpen, if_neg still]
    rfl

theorem isGone_ended {session : Session} (media : session.isControl = false) :
    session.ended.IsGone :=
  ⟨media, rfl, rfl, rfl, rfl, rfl, rfl, rfl, rfl⟩

end Session

namespace Slot

/-- Whether a slot holds a live leg of a call. -/
def isOf (callId : CallId) (slot : Slot) : Bool :=
  slot.isLive && slot.session.callId = some callId

/-- A slot after a call was hung up. -/
def hangUp (callId : CallId) (slot : Slot) : Slot :=
  if slot.isOf callId then ⟨slot.session.ended, Descriptor.shut⟩ else slot

theorem isOf_iff {callId : CallId} {slot : Slot} :
    slot.isOf callId = true ↔ slot.isLive = true ∧ slot.session.callId = some callId := by
  rw [isOf, Bool.and_eq_true, decide_eq_true_iff]

theorem gist?_hangUp (callId : CallId) (slot : Slot) :
    (slot.hangUp callId).gist? =
      slot.gist?.filter fun session => session.callId ≠ some callId := by
  rw [hangUp]
  by_cases live : slot.isLive = true
  · rw [gist?_of_isLive live]
    by_cases names : slot.session.callId = some callId
    · have gist : slot.session.gist.callId = some callId := names
      rw [if_pos (isOf_iff.mpr ⟨live, names⟩), Option.filter_some, if_neg (by simp [gist])]
      rfl
    · have gist : slot.session.gist.callId ≠ some callId := names
      rw [if_neg (fun isOf => names (isOf_iff.mp isOf).2), gist?_of_isLive live,
        Option.filter_some, if_pos (by simp [gist])]
  · have closed : slot.isLive = false := Bool.eq_false_iff.mpr live
    rw [if_neg (fun isOf => live (isOf_iff.mp isOf).1), gist?_eq_none closed]
    rfl

end Slot

namespace Table

/-! ## Finding slots -/

section Finding

variable {table : Table} {condition : Nat → Slot → Bool} {index : Nat}

theorem findSlot?_eq_some (found : table.findSlot? condition = some index) :
    ∃ slot, table.slots[index]? = some slot ∧ condition index slot = true := by
  obtain ⟨entry, search, rfl⟩ := Option.map_eq_some_iff.mp found
  have holds := List.find?_some search
  exact ⟨entry.1, List.mem_zipIdx_iff_getElem?.mp (List.mem_of_find?_eq_some search), holds⟩

theorem findSlot?_eq_none (missing : table.findSlot? condition = none) {slot : Slot}
    (place : table.slots[index]? = some slot) : condition index slot = false := by
  have search := List.find?_eq_none.mp (Option.map_eq_none_iff.mp missing) (slot, index)
    (List.mem_zipIdx_iff_getElem?.mpr place)
  exact Bool.eq_false_iff.mpr search

/-- The only slot that satisfies a condition is found. -/
theorem findSlot?_of_unique {slot : Slot} (place : table.slots[index]? = some slot)
    (holds : condition index slot = true)
    (unique : ∀ other slot, table.slots[other]? = some slot → condition other slot = true →
      other = index) : table.findSlot? condition = some index := by
  cases found : table.findSlot? condition with
  | none =>
    rw [findSlot?_eq_none found place] at holds
    cases holds
  | some other =>
    obtain ⟨slot, place, holds⟩ := findSlot?_eq_some found
    rw [unique other slot place holds]

end Finding

/-- No two live slots hold the same, when no two gists have the same. -/
theorem place_of_field {table : Table} {β : Type} {field : Session → Option β}
    (distinct : (table.gists.filterMap field).Nodup) {first second : Nat} {left right : Slot}
    {value : β} (leftPlace : table.slots[first]? = some left)
    (rightPlace : table.slots[second]? = some right) (leftLive : left.isLive = true)
    (rightLive : right.isLive = true) (leftHas : field left.session.gist = some value)
    (rightHas : field right.session.gist = some value) : first = second := by
  rw [gists, List.filterMap_filterMap] at distinct
  have leftPick : left.gist?.bind field = some value := by
    rw [Slot.gist?_of_isLive leftLive]
    exact leftHas
  have rightPick : right.gist?.bind field = some value := by
    rw [Slot.gist?_of_isLive rightLive]
    exact rightHas
  exact place_unique distinct leftPlace rightPlace leftPick rightPick

/-- No two live slots hold sessions with the same number. -/
theorem place_of_id {table : Table} (distinct : (table.gists.map Session.id).Nodup)
    {first second : Nat} {left right : Slot} (leftPlace : table.slots[first]? = some left)
    (rightPlace : table.slots[second]? = some right) (leftLive : left.isLive = true)
    (rightLive : right.isLive = true) (same : left.session.id = right.session.id) :
    first = second := by
  rw [← List.filterMap_eq_map] at distinct
  exact place_of_field distinct leftPlace rightPlace leftLive rightLive (congrArg some same) rfl

/-! ## Hanging up in a table -/

/-- A table after a call was hung up. -/
def hangUp (callId : CallId) (table : Table) : Table :=
  { table with slots := table.slots.map (Slot.hangUp callId) }

theorem filterMap_hangUp (callId : CallId) (slots : List Slot) :
    (slots.map (Slot.hangUp callId)).filterMap Slot.gist? =
      (slots.filterMap Slot.gist?).filter fun leg => leg.callId ≠ some callId := by
  rw [List.filterMap_map, List.filter_filterMap]
  exact congrArg (List.filterMap · slots) (funext fun slot => Slot.gist?_hangUp callId slot)

theorem legs_hangUp (callId : CallId) (table : Table) :
    (table.hangUp callId).legs = table.legs.filter fun leg => leg.callId ≠ some callId := by
  rw [legs, hangUp, ← List.map_tail, filterMap_hangUp]
  rfl

theorem gists_hangUp (callId : CallId) (table : Table) :
    (table.hangUp callId).gists = table.gists.filter fun leg => leg.callId ≠ some callId :=
  filterMap_hangUp callId table.slots

theorem Sound.hangUp {table : Table} (sound : table.Sound) (callId : CallId) :
    (table.hangUp callId).Sound where
  control := by
    obtain ⟨slot, rest, slots, live, signaling⟩ := sound.control
    have spared : slot.hangUp callId = slot := by
      refine if_neg fun isOf => ?_
      have names := (Slot.isOf_iff.mp isOf).2
      rw [signaling.no_call] at names
      cases names
    refine ⟨slot, rest.map (Slot.hangUp callId), ?_, live, signaling⟩
    rw [Table.hangUp, slots, List.map_cons, spared]
  closed slot member closed := by
    obtain ⟨old, oldMember, rfl⟩ := List.mem_map.mp member
    rw [Slot.hangUp] at closed ⊢
    by_cases isOf : old.isOf callId = true
    · rw [if_pos isOf]
      obtain ⟨place, found⟩ := List.getElem?_of_mem oldMember
      obtain ⟨live, names⟩ := Slot.isOf_iff.mp isOf
      obtain ⟨_, _, established⟩ :=
        sound.paired.established (gist_mem_legs found (sound.behind_of_call found names) live)
      exact ⟨Session.isGone_ended established.media, rfl⟩
    · rw [if_neg isOf] at closed ⊢
      exact sound.closed old oldMember closed
  paired := by
    rw [legs_hangUp]
    exact sound.paired.filter callId

theorem Closing.hangUp (table : Table) (callId : CallId) : table.Closing (table.hangUp callId) where
  size_eq := List.length_map ..
  stays index slot found closed := by
    refine ⟨slot, ?_, closed⟩
    have spared : slot.hangUp callId = slot :=
      if_neg fun isOf => by simp [(Slot.isOf_iff.mp isOf).1] at closed
    rw [Table.hangUp, List.getElem?_map, found, Option.map_some, spared]

/-! ## Destroying a call -/

theorem session?_changeSession (table : Table) (index place : Nat) (change : Session → Session) :
    (table.changeSession index change).session? place =
      if index = place then (table.session? place).map change else table.session? place := by
  rw [session?, session?, changeSession, changeSlot, List.getElem?_modify]
  by_cases same : index = place
  · subst same
    cases table.slots[index]? <;> simp
  · simp [same]

theorem session?_changeSlot_ne (table : Table) {index place : Nat} (differs : index ≠ place)
    (change : Slot → Slot) :
    (table.changeSlot index change).session? place = table.session? place := by
  simp [session?, changeSlot, differs]

theorem closeSlot_eq {table : Table} {index : Nat} {session : Session} {resources : Resources}
    (found : table.session? index = some session) (isOpen : session.stage ≠ .complete) :
    closeSlot index table resources =
      (table.changeSlot index fun _ => ⟨session.ended, Descriptor.shut⟩,
        (session.destroy resources).2) := by
  rw [closeSlot, found]
  dsimp only
  rw [Session.destroy_eq isOpen]

/-- When the slots of a call are two, stopping and closing these two hangs it up. -/
theorem modify_eq_hangUp {slots : List Slot} {callId : CallId} {index other : Nat}
    {slot partner : Slot} (found : slots[index]? = some slot)
    (foundPartner : slots[other]? = some partner) (apart : index ≠ other)
    (isOf : slot.isOf callId = true) (partnerIsOf : partner.isOf callId = true)
    (only : ∀ place third, slots[place]? = some third → third.isOf callId = true →
      place = index ∨ place = other) :
    ((((slots.modify index fun slot => { slot with session := slot.session.stopBridge }).modify
      other fun slot => { slot with session := slot.session.stopBridge }).modify
      index fun _ => ⟨slot.session.stopBridge.ended, Descriptor.shut⟩).modify
      other fun _ => ⟨partner.session.stopBridge.ended, Descriptor.shut⟩) =
      slots.map (Slot.hangUp callId) := by
  apply List.ext_getElem?
  intro spot
  simp only [List.getElem?_modify, List.getElem?_map]
  by_cases first : index = spot
  · subst first
    simp [apart.symm, found, Slot.hangUp, isOf, Session.ended, Session.stopBridge]
  by_cases second : other = spot
  · subst second
    simp [apart, foundPartner, Slot.hangUp, partnerIsOf, Session.ended, Session.stopBridge]
  cases third : slots[spot]? with
  | none => simp
  | some slot =>
    have spared : ¬ slot.isOf callId = true := by
      intro isOf
      rcases only spot slot third isOf with rfl | rfl
      · exact first rfl
      · exact second rfl
    simp [first, second, Slot.hangUp, spared]

/-- The slots of two open sessions that name each other are closed one after the other. -/
theorem destroyCall_of_slots {table : Table} {callId : CallId} {index other : Nat}
    {slot partner : Slot} (found : table.slots[index]? = some slot)
    (foundPartner : table.slots[other]? = some partner) (apart : index ≠ other)
    (isOf : slot.isOf callId = true) (partnerIsOf : partner.isOf callId = true)
    (only : ∀ place third, table.slots[place]? = some third → third.isOf callId = true →
      place = index ∨ place = other)
    (named : (slot.session.peer.bind table.indexOf?) = some other)
    (media : slot.session.isControl = false) (isOpen : slot.session.stage ≠ .complete)
    (partnerOpen : partner.session.stage ≠ .complete) (resources : Resources) :
    destroyCall index table resources =
      .ok (table.hangUp callId,
        (partner.session.destroy (slot.session.destroy resources).2).2) := by
  have place : table.session? index = some slot.session := by rw [session?, found]; rfl
  have placePartner : table.session? other = some partner.session := by
    rw [session?, foundPartner]
    rfl
  have stopped : ((table.changeSession index Session.stopBridge).changeSession other
      Session.stopBridge).session? index = some slot.session.stopBridge := by
    rw [session?_changeSession, if_neg apart.symm, session?_changeSession, if_pos rfl, place]
    rfl
  have stoppedPartner : ((table.changeSession index Session.stopBridge).changeSession other
      Session.stopBridge).session? other = some partner.session.stopBridge := by
    rw [session?_changeSession, if_pos rfl, session?_changeSession, if_neg apart, placePartner]
    rfl
  simp only [destroyCall, place, media, callSlots, named, Option.toList_some, List.foldl_cons,
    List.foldl_nil]
  rw [closeSlot_eq stopped isOpen]
  dsimp only
  rw [closeSlot_eq ((session?_changeSlot_ne _ apart _).trans stoppedPartner) partnerOpen,
    Session.destroy_stopBridge isOpen, Session.destroy_stopBridge partnerOpen]
  exact congrArg (fun slots => Except.ok (Table.mk slots table.capacity, _))
    (modify_eq_hangUp found foundPartner apart isOf partnerIsOf only)

/-- A slot that is of a call holds one of the two legs of the call. -/
theorem Sound.place_of_isOf {table : Table} (sound : table.Sound)
    (distinct : (table.gists.map Session.id).Nodup) {callId : CallId} {index other : Nat}
    {slot partner : Slot} (found : table.slots[index]? = some slot)
    (foundPartner : table.slots[other]? = some partner) (live : slot.isLive = true)
    (partnerLive : partner.isLive = true) {before after : List Session}
    (others : ∀ leg ∈ before ++ after, leg.callId ≠ some callId)
    (legs : table.legs = before ++ slot.session.gist :: partner.session.gist :: after) :
    ∀ place third, table.slots[place]? = some third → third.isOf callId = true →
      place = index ∨ place = other := by
  intro place third foundThird isOf
  obtain ⟨thirdLive, names⟩ := Slot.isOf_iff.mp isOf
  have member := gist_mem_legs foundThird (sound.behind_of_call foundThird names) thirdLive
  have stranger : third.session.gist ∉ before ++ after := fun member => others _ member names
  rw [legs] at member
  rcases eq_of_mem_pair member stranger with gist | gist
  · have same : third.session.gist.id = slot.session.gist.id := by rw [gist]
    exact .inl (place_of_id distinct foundThird found thirdLive live same)
  · have same : third.session.gist.id = partner.session.gist.id := by rw [gist]
    exact .inr (place_of_id distinct foundThird foundPartner thirdLive partnerLive same)

/-- The call of a live leg has two slots: that of the leg, and that of its partner. -/
theorem Sound.partner_slot {table : Table} (sound : table.Sound)
    (distinct : (table.gists.map Session.id).Nodup) {index : Nat} {slot : Slot}
    (found : table.slots[index]? = some slot) (behind : 0 < index) (live : slot.isLive = true) :
    ∃ callId other partner before after, table.slots[other]? = some partner ∧
      partner.isLive = true ∧ index ≠ other ∧
      slot.session.gist.Established callId partner.session.id ∧
      partner.session.gist.Established callId slot.session.id ∧
      (∀ leg ∈ before ++ after, leg.callId ≠ some callId) ∧
      (table.legs = before ++ slot.session.gist :: partner.session.gist :: after ∨
        table.legs = before ++ partner.session.gist :: slot.session.gist :: after) ∧
      ∀ place third, table.slots[place]? = some third → third.isOf callId = true →
        place = index ∨ place = other := by
  obtain ⟨callId, leg, before, after, established, established', others, legs⟩ :=
    sound.paired.partner (gist_mem_legs found behind live)
  have partnerMember : leg ∈ table.legs := by
    rcases legs with legs | legs <;> rw [legs] <;> simp
  obtain ⟨other, partner, foundPartner, behindPartner, partnerLive, rfl⟩ :=
    slot_of_mem_legs partnerMember
  have legIds : (table.legs.map Session.id).Nodup := by
    obtain ⟨control, _, gists⟩ := sound.gists_eq
    rw [gists, List.map_cons] at distinct
    exact (List.nodup_cons.mp distinct).2
  have apart : index ≠ other := by
    rintro rfl
    cases found.symm.trans foundPartner
    rcases legs with legs | legs
    all_goals
      rw [legs, List.map_append, List.map_cons, List.map_cons, List.nodup_append] at legIds
      exact (List.nodup_cons.mp legIds.2.1).1 (List.mem_cons_self ..)
  refine ⟨callId, other, partner, before, after, foundPartner, partnerLive, apart, established,
    established', others, legs, ?_⟩
  rcases legs with legs | legs
  · exact sound.place_of_isOf distinct found foundPartner live partnerLive others legs
  · intro place third foundThird isOf
    exact (sound.place_of_isOf distinct foundPartner found partnerLive live others legs place
      third foundThird isOf).symm

/-- **Destroying the call of a live leg hangs it up:** the leg and its partner are destroyed, in
this order. -/
theorem Sound.destroyCall_leg {table : Table} (sound : table.Sound)
    (distinct : (table.gists.map Session.id).Nodup) {index : Nat} {slot : Slot}
    (found : table.slots[index]? = some slot) (behind : 0 < index) (live : slot.isLive = true) :
    ∃ callId partner before after, slot.session.gist.Established callId partner.id ∧
      partner.Established callId slot.session.id ∧
      (∀ other ∈ before ++ after, other.callId ≠ some callId) ∧
      (table.legs = before ++ slot.session.gist :: partner :: after ∨
        table.legs = before ++ partner :: slot.session.gist :: after) ∧
      ∀ resources, destroyCall index table resources =
        .ok (table.hangUp callId, (partner.destroy (slot.session.gist.destroy resources).2).2) := by
  obtain ⟨callId, other, partner, before, after, foundPartner, partnerLive, apart, established,
    established', others, legs, only⟩ := sound.partner_slot distinct found behind live
  have named : (slot.session.peer.bind table.indexOf?) = some other := by
    have peer : slot.session.peer = some partner.session.id := established.names_peer
    rw [peer, Option.bind_some]
    apply findSlot?_of_unique foundPartner (by simp [partnerLive])
    intro place third found holds
    rw [Bool.and_eq_true, decide_eq_true_iff] at holds
    exact place_of_id distinct found foundPartner holds.1 partnerLive holds.2
  refine ⟨callId, partner.session.gist, before, after, established, established', others, legs,
    fun resources => ?_⟩
  rw [Session.destroy_gist, Session.destroy_gist]
  exact destroyCall_of_slots found foundPartner apart
    (Slot.isOf_iff.mpr ⟨live, established.names_call⟩)
    (Slot.isOf_iff.mpr ⟨partnerLive, established'.names_call⟩) only named established.media
    established.isOpen established'.isOpen resources

/-! ## Looking for a call -/

section Calls

variable {table : Table} {callId : CallId}

theorem findCall?_eq_some {index : Nat} (found : table.findCall? callId = some index) :
    ∃ slot, table.slots[index]? = some slot ∧ 0 < index ∧ slot.isOf callId = true := by
  obtain ⟨slot, place, holds⟩ := findSlot?_eq_some found
  rw [Bool.and_eq_true, Bool.and_eq_true, decide_eq_true_iff, decide_eq_true_iff] at holds
  exact ⟨slot, place, holds.1.1, Slot.isOf_iff.mpr ⟨holds.1.2, holds.2⟩⟩

theorem Sound.findCall?_eq_none (sound : table.Sound) (missing : table.findCall? callId = none) :
    ∀ slot ∈ table.slots, slot.isOf callId = false := by
  intro slot member
  obtain ⟨index, found⟩ := List.getElem?_of_mem member
  have fails := Table.findSlot?_eq_none missing found
  refine Bool.eq_false_iff.mpr fun isOf => ?_
  obtain ⟨live, names⟩ := Slot.isOf_iff.mp isOf
  have behind := sound.behind_of_call found names
  simp [behind, live, names] at fails

theorem hangUp_of_absent (absent : ∀ slot ∈ table.slots, slot.isOf callId = false) :
    table.hangUp callId = table := by
  have slots : table.slots.map (Slot.hangUp callId) = table.slots := by
    refine (List.map_congr_left fun slot member => ?_).trans (List.map_id _)
    rw [Slot.hangUp, absent slot member]
    rfl
  exact congrArg (fun slots => Table.mk slots table.capacity) slots

/-- A leg of a call is the gist of a slot that is of the call. -/
theorem fresh_of_absent (absent : ∀ slot ∈ table.slots, slot.isOf callId = false) :
    ∀ leg ∈ table.legs, leg.callId ≠ some callId := by
  intro leg member names
  obtain ⟨index, slot, found, _, live, rfl⟩ := slot_of_mem_legs member
  have spared := absent slot (List.mem_of_getElem? found)
  rw [Slot.isOf_iff.mpr ⟨live, names⟩] at spared
  cases spared

end Calls

end Table

end FaxRelay
