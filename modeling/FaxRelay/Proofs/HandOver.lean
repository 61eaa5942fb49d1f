import FaxRelay.Proofs.Readiness

/-!
# Handing media over

Handling the media of a slot without a fault reads everything that waits in the
socket of its session and hands it to the engine of this session, in order
(`Resources.HandedOver`). It closes no slot. So a compaction goes through the
sessions in the order of their slots and hands over what waits for those that
are marked, and for no other (`Resources.HandsOver`).

As no two sessions have the same socket or the same engine, each of them finds
what waited for it when the compaction began, and no engine hears anything else.
-/

set_option autoImplicit false

namespace FaxRelay

open FaxRelay.Media FaxRelay.Net FaxRelay.Pool FaxRelay.Signal

/-! ## One session -/

namespace Resources

/-- Everything that waited in the socket on an endpoint was handed to an engine, in order. -/
structure HandedOver (size engine : Nat) (address : Endpoint) (before after : Resources) :
    Prop where
  journal : after.journal = ((before.fabric.waiting address).map fun datagram =>
    Event.heard engine (datagram.2.take size)).reverse ++ before.journal
  fabric : after.fabric = (before.fabric.drain address).2

end Resources

namespace Session

/-- Datagrams are handed to the engine of a session one after the other. -/
theorem journal_hearAll {session : Session} {engine : Nat} (has : session.engine = some engine)
    (size : Nat) (datagrams : List (Endpoint × Payload)) (resources : Resources) :
    (session.hearAll size datagrams resources).2.journal =
        (datagrams.map fun datagram => Event.heard engine (datagram.2.take size)).reverse ++
          resources.journal ∧
      (session.hearAll size datagrams resources).2.fabric = resources.fabric := by
  induction datagrams generalizing session resources with
  | nil => exact ⟨rfl, rfl⟩
  | cons datagram rest ih =>
    have still : (session.hear size datagram.1 datagram.2 resources).1.engine = some engine :=
      (session.engine_heardFrom datagram.1).trans has
    have heard : (session.hear size datagram.1 datagram.2 resources).2.journal =
          Event.heard engine (datagram.2.take size) :: resources.journal ∧
        (session.hear size datagram.1 datagram.2 resources).2.fabric = resources.fabric := by
      rw [hear]
      dsimp only
      rw [engine_heardFrom, has]
      exact ⟨rfl, rfl⟩
    obtain ⟨journal, fabric⟩ := ih still (session.hear size datagram.1 datagram.2 resources).2
    refine ⟨journal.trans ?_, fabric.trans heard.2⟩
    rw [heard.1, List.map_cons, List.reverse_cons, List.append_assoc]
    rfl

/-- **Reading a socket without faults hands everything that waits in it to the engine.** -/
theorem onReadable_eq {session : Session} {engine : Nat} {address : Endpoint}
    (has : session.engine = some engine) (bound : session.socket = some address) (size : Nat)
    {resources : Resources} (faultless : resources.fabric.Faultless address) :
    ∃ count later after, session.onReadable size resources = (.ok count, later, after) ∧
      resources.HandedOver size engine address after := by
  obtain ⟨journal, fabric⟩ := journal_hearAll has size (resources.fabric.waiting address)
    { resources with fabric := (resources.fabric.drain address).2 }
  rw [onReadable, bound]
  dsimp only
  rw [faultless.drain_eq]
  exact ⟨_, _, _, rfl, journal, fabric⟩

end Session

/-- Handling the media of a slot without faults hands over what waits and closes no slot. -/
theorem Exchange.handleMedia_eq (exchange : Exchange) {index : Nat} {session : Session}
    {engine : Nat} {address : Endpoint} (found : exchange.table.session? index = some session)
    (has : session.engine = some engine) (bound : session.socket = some address) (size : Nat)
    (faultless : exchange.resources.fabric.Faultless address) :
    ∃ later after, exchange.handleMedia size index =
        { exchange with table := exchange.table.setSession index later, resources := after } ∧
      exchange.resources.HandedOver size engine address after := by
  obtain ⟨count, later, after, read, handed⟩ := Session.onReadable_eq has bound size faultless
  refine ⟨later, after, ?_, handed⟩
  rw [handleMedia, found]
  dsimp only
  rw [read]

/-! ## All sessions -/

namespace Resources

/-- Going through sessions and handing over what waits for those that are marked. -/
inductive HandsOver (size : Nat) : List (Session × Bool) → Resources → Resources → Prop where
  | nil (resources : Resources) : HandsOver size [] resources resources
  | marked {leg : Session} {rest : List (Session × Bool)} {engine : Nat} {address : Endpoint}
      {first second third : Resources} (has : leg.engine = some engine)
      (bound : leg.socket = some address) (handed : HandedOver size engine address first second)
      (later : HandsOver size rest second third) : HandsOver size ((leg, true) :: rest) first third
  | unmarked (leg : Session) {rest : List (Session × Bool)} {first second : Resources}
      (later : HandsOver size rest first second) :
      HandsOver size ((leg, false) :: rest) first second

/-- Every session that is gone through has an engine and a socket, in which no fault waits if the
session is marked. -/
def Attended (resources : Resources) (marks : List (Session × Bool)) : Prop :=
  ∀ entry ∈ marks, ∃ engine address, entry.1.engine = some engine ∧
    entry.1.socket = some address ∧ (entry.2 = true → resources.fabric.Faultless address)

/-- What is handed over leaves no fault behind. -/
theorem Attended.handedOver {marks : List (Session × Bool)} {size engine : Nat}
    {address : Endpoint} {before after : Resources} (attended : before.Attended marks)
    (faultless : before.fabric.Faultless address)
    (handed : HandedOver size engine address before after) : after.Attended marks := by
  intro entry member
  obtain ⟨own, place, has, bound, clean⟩ := attended entry member
  refine ⟨own, place, has, bound, fun isMarked cause waits => ?_⟩
  rw [handed.fabric, faultless.queue_drain] at waits
  split at waits
  · cases waits
  · exact clean isMarked cause waits

/-! ### What became of each session -/

namespace HandedOver

variable {size engine : Nat} {address : Endpoint} {before after : Resources}
variable (handed : HandedOver size engine address before after)
include handed

theorem history : ∃ events, after.journal = events ++ before.journal ∧
    ∀ event ∈ events, ∃ payload, event = .heard engine payload := by
  refine ⟨_, handed.journal, fun event member => ?_⟩
  obtain ⟨datagram, _, rfl⟩ := List.mem_map.mp (List.mem_reverse.mp member)
  exact ⟨_, rfl⟩

theorem hearings_self : hearings engine after.journal = hearings engine before.journal ++
    (before.fabric.waiting address).map fun datagram => datagram.2.take size := by
  rw [handed.journal, hearings_append]
  congr 1
  rw [hearings, List.filterMap_reverse, List.reverse_reverse, List.filterMap_map,
    ← List.filterMap_eq_map]
  exact congrArg (List.filterMap · _) (funext fun datagram => if_pos rfl)

theorem hearings_other {other : Nat} (differs : other ≠ engine) :
    hearings other after.journal = hearings other before.journal := by
  obtain ⟨events, journal, heard⟩ := handed.history
  have nothing : events.filterMap (Event.heard? other) = [] := by
    refine List.filterMap_eq_nil_iff.mpr fun event member => ?_
    obtain ⟨payload, rfl⟩ := heard event member
    exact if_neg (Ne.symm differs)
  rw [journal, hearings_append]
  simp [hearings, nothing]

theorem queue_other {other : Endpoint} (differs : other ≠ address) :
    after.fabric.queue other = before.fabric.queue other := by
  rw [handed.fabric, Fabric.drain, Fabric.queue_update_ne differs]

end HandedOver

namespace HandsOver

variable {size : Nat} {marks : List (Session × Bool)} {before after : Resources}

/-- Handing over tells of nothing but what engines were handed. -/
theorem history (handsOver : HandsOver size marks before after) :
    ∃ events, after.journal = events ++ before.journal ∧
      ∀ event ∈ events, ∃ engine payload, event = .heard engine payload := by
  induction handsOver with
  | nil => exact ⟨[], rfl, fun _ member => by cases member⟩
  | marked has bound handed later ih =>
    obtain ⟨earlier, journal, heard⟩ := handed.history
    obtain ⟨events, journal', heard'⟩ := ih
    refine ⟨events ++ earlier, ?_, fun event member => ?_⟩
    · rw [journal', journal, List.append_assoc]
    · rcases List.mem_append.mp member with member | member
      · exact heard' event member
      · exact ⟨_, heard event member⟩
  | unmarked leg later ih => exact ih

/-- Handing over is neither signaling nor sending, and retires no engine. -/
theorem journal_rest (handsOver : HandsOver size marks before after) :
    signalings after.journal = signalings before.journal ∧
      (∀ address, sendings address after.journal = sendings address before.journal) ∧
      retirements after.journal = retirements before.journal := by
  obtain ⟨events, journal, heard⟩ := handsOver.history
  have nothing : ∀ {β : Type} (pick : Event → Option β),
      (∀ engine payload, pick (.heard engine payload) = none) → events.filterMap pick = [] := by
    intro β pick blind
    refine List.filterMap_eq_nil_iff.mpr fun event member => ?_
    obtain ⟨engine, payload, rfl⟩ := heard event member
    exact blind engine payload
  have signals := nothing Event.signaled? fun _ _ => rfl
  have retires := nothing Event.retired? fun _ _ => rfl
  have sends := fun address => nothing (Event.sentTo? address) fun _ _ => rfl
  rw [journal]
  refine ⟨?_, fun address => ?_, ?_⟩
  · simp [signalings, signals]
  · simp [sendings, sends]
  · simp [retirements, retires]

/-- An engine that no marked session has hears nothing. -/
theorem hearings_eq (handsOver : HandsOver size marks before after) {engine : Nat}
    (stranger : ∀ leg, (leg, true) ∈ marks → leg.engine ≠ some engine) :
    hearings engine after.journal = hearings engine before.journal := by
  induction handsOver with
  | nil => rfl
  | @marked _ _ heard _ _ _ _ has bound handed later ih =>
    have differs : engine ≠ heard := by
      rintro rfl
      exact stranger _ List.mem_cons_self has
    rw [ih fun leg member => stranger leg (List.mem_cons_of_mem _ member),
      handed.hearings_other differs]
  | unmarked leg later ih => exact ih fun leg member => stranger leg (List.mem_cons_of_mem _ member)

/-- A socket that no marked session has is not read. -/
theorem queue_eq (handsOver : HandsOver size marks before after) {address : Endpoint}
    (stranger : ∀ leg, (leg, true) ∈ marks → leg.socket ≠ some address) :
    after.fabric.queue address = before.fabric.queue address := by
  induction handsOver with
  | nil => rfl
  | @marked _ _ _ read _ _ _ has bound handed later ih =>
    have differs : address ≠ read := by
      rintro rfl
      exact stranger _ List.mem_cons_self bound
    rw [ih fun leg member => stranger leg (List.mem_cons_of_mem _ member),
      handed.queue_other differs]
  | unmarked leg later ih => exact ih fun leg member => stranger leg (List.mem_cons_of_mem _ member)

/-- When no two sessions have the same of something, nobody behind the first one has what it has. -/
theorem alone {α : Type} {field : Session → Option α} {leg : Session} {mark : Bool}
    {rest : List (Session × Bool)} {value : α}
    (nodup : (((leg, mark) :: rest).filterMap fun entry => field entry.1).Nodup)
    (has : field leg = some value) :
    (∀ other mark, (other, mark) ∈ rest → field other ≠ some value) ∧
      (rest.filterMap fun entry => field entry.1).Nodup := by
  rw [List.filterMap_cons, has] at nodup
  obtain ⟨fresh, nodup⟩ := List.nodup_cons.mp nodup
  refine ⟨fun other mark member hasToo => fresh ?_, nodup⟩
  exact List.mem_filterMap.mpr ⟨_, member, hasToo⟩

/-- What a session that was gone through has heard, and what still waits for it: everything and
nothing if it is marked, nothing and everything if it is not. -/
structure Outcome (size : Nat) (mark : Bool) (engine : Nat) (address : Endpoint)
    (before after : Resources) : Prop where
  hearings_eq : hearings engine after.journal = hearings engine before.journal ++
    (if mark then before.fabric.waiting address else []).map fun datagram => datagram.2.take size
  queue_eq : after.fabric.queue address = if mark then [] else before.fabric.queue address

/-- **Each session finds what waited for it from the start,** when no two of them have the same
engine or the same socket. -/
theorem outcome (handsOver : HandsOver size marks before after)
    (engines : (marks.filterMap fun entry => entry.1.engine).Nodup)
    (sockets : (marks.filterMap fun entry => entry.1.socket).Nodup)
    (attended : before.Attended marks) {leg : Session} {mark : Bool}
    (member : (leg, mark) ∈ marks) {engine : Nat} {address : Endpoint}
    (has : leg.engine = some engine) (bound : leg.socket = some address) :
    Outcome size mark engine address before after := by
  -- Whoever stands before or behind a session in the list has another engine and another socket.
  induction handsOver with
  | nil => cases member
  | @marked head rest headEngine headAddress first second third headHas headBound handed later ih =>
    obtain ⟨engineAlone, engines⟩ := alone engines headHas
    obtain ⟨socketAlone, sockets⟩ := alone sockets headBound
    obtain ⟨_, place, _, placed, clean⟩ := attended _ List.mem_cons_self
    cases headBound.symm.trans placed
    have faultless : first.fabric.Faultless headAddress := clean rfl
    have others : first.Attended rest :=
      fun entry member => attended entry (List.mem_cons_of_mem _ member)
    rcases List.mem_cons.mp member with same | member
    · cases same
      cases has.symm.trans headHas
      cases bound.symm.trans headBound
      refine ⟨?_, ?_⟩
      · rw [later.hearings_eq fun leg => engineAlone leg true, handed.hearings_self]
        rfl
      · rw [later.queue_eq fun leg => socketAlone leg true, handed.fabric, faultless.queue_drain,
          if_pos rfl]
        rfl
    · have engineDiffers : engine ≠ headEngine := by
        rintro rfl
        exact engineAlone _ _ member has
      have socketDiffers : address ≠ headAddress := by
        rintro rfl
        exact socketAlone _ _ member bound
      obtain ⟨heard, left⟩ := ih engines sockets (others.handedOver faultless handed) member
      rw [handed.hearings_other engineDiffers, Fabric.waiting,
        handed.queue_other socketDiffers] at heard
      rw [handed.queue_other socketDiffers] at left
      exact ⟨heard, left⟩
  | @unmarked head rest first second later ih =>
    have others : first.Attended rest :=
      fun entry member => attended entry (List.mem_cons_of_mem _ member)
    obtain ⟨headEngine, headAddress, headHas, headBound, _⟩ := attended _ List.mem_cons_self
    obtain ⟨engineAlone, engines⟩ := alone engines headHas
    obtain ⟨socketAlone, sockets⟩ := alone sockets headBound
    rcases List.mem_cons.mp member with same | member
    · cases same
      cases has.symm.trans headHas
      cases bound.symm.trans headBound
      refine ⟨?_, ?_⟩
      · rw [later.hearings_eq fun leg => engineAlone leg true]
        exact (List.append_nil _).symm
      · exact later.queue_eq fun leg => socketAlone leg true
    · exact ih engines sockets others member

end HandsOver

end Resources

/-! ## The scan -/

namespace Table

variable {table : Table} {source target : Nat}

theorem drop_changeSlot {index : Nat} (below : index < source) (change : Slot → Slot) :
    (table.changeSlot index change).slots.drop source = table.slots.drop source :=
  List.drop_modify_of_lt change index source table.slots below

/-- Moving a slot up changes nothing behind it. -/
theorem drop_moveUp (order : target ≤ source) :
    (table.moveUp target source).slots.drop (source + 1) = table.slots.drop (source + 1) := by
  rw [moveUp]
  split
  · rfl
  split
  · rw [List.drop_set_of_lt (Nat.lt_succ_self _), List.drop_set_of_lt (Nat.lt_succ_of_le order)]
  · rfl

/-- The session of a slot that moves up is found at its new place. -/
theorem session?_moveUp {slot : Slot} (order : target ≤ source)
    (found : table.slots[source]? = some slot) :
    ∃ session, (table.moveUp target source).session? target = some session ∧
      session.gist = slot.session.gist := by
  obtain ⟨place, foundMoved⟩ := slot_moveUp order found
  refine ⟨{ slot.session with index := place }, ?_, rfl⟩
  rw [session?, foundMoved]
  rfl

theorem session?_clearReadable (index : Nat) :
    (table.clearReadable index).session? index = table.session? index := by
  rw [session?, clearReadable, session?]
  cases found : table.slots[index]? with
  | none => simp [changeSlot, found]
  | some slot => simp [changeSlot, found]

end Table

namespace Exchange

/-- Dispatching a slot that was moved up hands over what waits for its session, and changes nothing
behind the slot that it was moved from. -/
theorem dispatch_moveUp {table : Table} {source target : Nat} {slot : Slot} {engine : Nat}
    {address : Endpoint} (order : target ≤ source) (found : table.slots[source]? = some slot)
    (has : slot.session.engine = some engine) (bound : slot.session.socket = some address)
    (size : Nat) {resources : Resources} (faultless : resources.fabric.Faultless address)
    (counters : Counters) :
    ∃ later after, atSlot (handleMedia size) target
        ((table.moveUp target source).clearReadable target, resources, counters) =
          (later, after, counters) ∧
      later.slots.drop (source + 1) = table.slots.drop (source + 1) ∧
      resources.HandedOver size engine address after := by
  obtain ⟨session, place, gist⟩ := Table.session?_moveUp order found
  have hasToo : session.engine = some engine := (congrArg Session.engine gist).trans has
  have boundToo : session.socket = some address := (congrArg Session.socket gist).trans bound
  have cleared : ((table.moveUp target source).clearReadable target).session? target =
      some session := (Table.session?_clearReadable target).trans place
  obtain ⟨later, after, handled, handed⟩ :=
    handleMedia_eq (ofScan ((table.moveUp target source).clearReadable target, resources, counters))
      cleared hasToo boundToo size faultless
  have below : target < source + 1 := Nat.lt_succ_of_le order
  refine ⟨((table.moveUp target source).clearReadable target).setSession target later, after,
    ?_, ?_, handed⟩
  · rw [atSlot, handled]
    rfl
  · rw [Table.setSession, Table.changeSession, Table.drop_changeSlot below, Table.clearReadable,
      Table.drop_changeSlot below, Table.drop_moveUp order]

/-- **A scan hands over what waits for the sessions that are marked,** slot by slot. -/
theorem handsOver_compactFrom (size : Nat) (rest : List Slot) {source target : Nat}
    (state : Table × Resources × Counters) (order : target ≤ source)
    (suffix : state.1.slots.drop source = rest)
    (attended : state.2.1.Attended (rest.filterMap Slot.mark?)) :
    state.2.1.HandsOver size (rest.filterMap Slot.mark?)
      (Table.compactFrom (atSlot (handleMedia size)) rest.length source target state).2.2.1 := by
  -- What lies behind the source is not touched before the scan reaches it, so the induction is
  -- over the slots that are left.
  induction rest generalizing source target state with
  | nil => exact .nil _
  | cons slot rest ih =>
    obtain ⟨table, resources, counters⟩ := state
    have found : table.slots[source]? = some slot := by
      rw [← List.head?_drop, suffix, List.head?_cons]
    have behind : table.slots.drop (source + 1) = rest := by
      rw [← List.tail_drop, suffix, List.tail_cons]
    rw [List.length_cons, Table.compactFrom, found]
    dsimp only
    by_cases live : slot.isLive = true
    case neg =>
      have skipped : slot.mark? = none := by
        rw [Slot.mark?, Slot.gist?_eq_none (Bool.eq_false_iff.mpr live)]
        rfl
      rw [List.filterMap_cons_none skipped] at attended ⊢
      rw [if_neg live]
      exact ih (table, resources, counters) (Nat.le_succ_of_le order) behind attended
    have picked : slot.mark? = some (slot.session.gist, slot.descriptor.readable) := by
      rw [Slot.mark?, Slot.gist?_of_isLive live]
      rfl
    rw [List.filterMap_cons_some picked] at attended ⊢
    rw [if_pos live]
    have others : resources.Attended (rest.filterMap Slot.mark?) :=
      fun entry member => attended entry (List.mem_cons_of_mem _ member)
    cases readable : slot.descriptor.readable with
    | false =>
      rw [if_neg Bool.false_ne_true]
      exact .unmarked _ (ih (table.moveUp target source, resources, counters)
        (Nat.succ_le_succ order) ((Table.drop_moveUp order).trans behind) others)
    | true =>
      obtain ⟨engine, address, has, bound, faultless⟩ := attended _ List.mem_cons_self
      have clean := faultless readable
      obtain ⟨later, after, dispatched, further, handed⟩ :=
        dispatch_moveUp order found has bound size clean counters
      rw [if_pos rfl, dispatched]
      exact .marked has bound handed (ih (later, after, counters) (Nat.succ_le_succ order)
        (further.trans behind) (others.handedOver clean handed))

end Exchange

end FaxRelay
