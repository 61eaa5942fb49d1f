import FaxRelay.Proofs.Rounds
import Mathlib.Logic.Relation

/-!
# Moments

A step of a round is still made of many things that happen one after the other,
and the bridges go on between any two of them. A moment is one of these: one
frame that a bridge moves, one datagram that an engine is handed, one session
that is destroyed, one setup (`Exchange.Moment`). Moments may follow each other
in any order, with one restriction: a session is destroyed only when no bridge
that is kept in the table uses its engine.

The end of a call is made of such moments (`Sound.moments_destroyCall`), because
the bridge is stopped before either leg is touched. So are the passes of a
bridge, the handling of a datagram of signaling, and that of the media of a
slot.
-/

set_option autoImplicit false

namespace FaxRelay

open FaxRelay.Media FaxRelay.Net FaxRelay.Pool FaxRelay.Signal

/-- Whether an engine is on one of the sides of a bridge. -/
def Bridge.Uses (bridge : Bridge) (engine : Nat) : Prop :=
  engine = bridge.inbound ∨ engine = bridge.outbound

/-- Whether a session has an engine or keeps a bridge. -/
def Session.isEngaged (session : Session) : Bool := session.engine.isSome || session.bridge.isSome

theorem Session.isEngaged_eq_false {session : Session} :
    session.isEngaged = false ↔ session.engine = none ∧ session.bridge = none := by
  simp [isEngaged]

/-- No bridge that is kept in the table uses the engine of the session in a slot. -/
def Table.Unbridged (table : Table) (index : Nat) : Prop :=
  ∀ (session : Session) (engine : Nat), table.session? index = some session →
    session.engine = some engine → ∀ (place : Nat) (keeper : Session) (bridge : Bridge),
      table.session? place = some keeper → keeper.bridge = some bridge → ¬ bridge.Uses engine

namespace Exchange

/-- The exchange after the bridge that the session in a slot keeps came so far. -/
def advance (index : Nat) (exchange : Exchange) (session : Session) (bridge : Bridge)
    (state : Progress × Resources) : Exchange :=
  { exchange with
    table := exchange.table.setSession index
      { session with bridge := some { bridge with progress := state.1 } }
    resources := state.2 }

/-- The exchange after the session in a slot was handed the first datagram of its socket, and the
rest of the queue remained. -/
def hearAt (size index : Nat) (exchange : Exchange) (session : Session) (address : Endpoint)
    (datagram : Endpoint × Payload) (rest : List Arrival) : Exchange :=
  let (session, resources) := session.hear size datagram.1 datagram.2
    { exchange.resources with
      fabric := exchange.resources.fabric.update address fun socket =>
        { socket with queue := rest } }
  { exchange with table := exchange.table.setSession index session, resources := resources }

/-- The exchange after the session in a slot was destroyed. -/
def closeAt (index : Nat) (exchange : Exchange) : Exchange :=
  let (table, resources) := Table.closeSlot index exchange.table exchange.resources
  { exchange with table := table, resources := resources }

/-- What can happen to an exchange at once. A datagram of media has at most `size` bytes when it is
handed over. -/
inductive Moment (size : Nat) : Exchange → Exchange → Prop where
  /-- Somebody else uses the network. -/
  | network (exchange : Exchange) {fabric : Fabric}
      (moved : exchange.resources.fabric.Outside fabric) :
      Moment size exchange
        { exchange with resources := { exchange.resources with fabric := fabric } }
  /-- A wait ends for one socket. -/
  | settled (exchange : Exchange) (address : Endpoint) :
      Moment size exchange
        { exchange with
          resources :=
            { exchange.resources with fabric := exchange.resources.fabric.settle address } }
  /-- A socket is emptied, up to the first fault. -/
  | drained (exchange : Exchange) (address : Endpoint) :
      Moment size exchange
        { exchange with
          resources :=
            { exchange.resources with fabric := (exchange.resources.fabric.drain address).2 } }
  /-- A slot is marked as readable, or its mark is cleared. -/
  | marked (exchange : Exchange) (index : Nat) (mark : Bool) :
      Moment size exchange
        { exchange with
          table := exchange.table.changeSlot index fun slot =>
            { slot with descriptor := { slot.descriptor with readable := mark } } }
  /-- Something is counted. -/
  | counted (exchange : Exchange) (counters : Counters) :
      Moment size exchange { exchange with counters := counters }
  /-- The control session takes note of a datagram and its sender. -/
  | noted (exchange : Exchange) {control : Session}
      (first : exchange.table.session? 0 = some control) (signaling : control.IsSignaling)
      (sender : Endpoint) (payload : Payload) :
      Moment size exchange
        { exchange with
          table := exchange.table.changeSession 0 fun session => session.heardFrom sender
          resources := exchange.resources.note (.signaled sender payload) }
  /-- The control session replies. -/
  | replied (exchange : Exchange) (message : Message) :
      Moment size exchange (exchange.reply message)
  /-- A call is set up, or the setup fails. -/
  | setUp (exchange : Exchange) (setup : Setup) : Moment size exchange (exchange.setUp setup).2
  /-- A session is handed the datagram that comes first in its socket. -/
  | heard (exchange : Exchange) {index : Nat} {session : Session} {address : Endpoint}
      {datagram : Endpoint × Payload} {rest : List Arrival}
      (found : exchange.table.session? index = some session)
      (bound : session.socket = some address)
      (waits : exchange.resources.fabric.queue address =
        .datagram datagram.1 datagram.2 :: rest) :
      Moment size exchange (exchange.hearAt size index session address datagram rest)
  /-- A bridge that has not failed moves a frame away from one side, if one is there. -/
  | forwarded (exchange : Exchange) {index : Nat} {session : Session} {bridge : Bridge}
      (found : exchange.table.session? index = some session)
      (kept : session.bridge = some bridge) (runs : bridge.progress.failed = false)
      (source : Direction) :
      Moment size exchange (exchange.advance index session bridge
        (forward (Resources.sides bridge.inbound bridge.outbound) source bridge.progress
          exchange.resources))
  /-- A bridge fails, for whatever reason. -/
  | failed (exchange : Exchange) (index : Nat) : Moment size exchange (exchange.failBridge index)
  /-- The bridge that a session keeps is stopped. -/
  | stopped (exchange : Exchange) (index : Nat) :
      Moment size exchange
        { exchange with table := exchange.table.changeSession index Session.stopBridge }
  /-- A session is destroyed, whose engine no bridge uses. -/
  | closed (exchange : Exchange) {index : Nat} (unused : exchange.table.Unbridged index) :
      Moment size exchange (exchange.closeAt index)
  /-- Two slots are exchanged. -/
  | moved (exchange : Exchange) (target source : Nat) :
      Moment size exchange { exchange with table := exchange.table.moveUp target source }
  /-- Slots with nothing in them are cut off. -/
  | cut (exchange : Exchange) {count : Nat}
      (idle : ∀ slot ∈ exchange.table.slots.drop count, slot.session.isEngaged = false) :
      Moment size exchange
        { exchange with
          table := { exchange.table with slots := exchange.table.slots.take count } }

/-- What can happen to an exchange in a number of moments. -/
abbrev Moments (size : Nat) : Exchange → Exchange → Prop :=
  Relation.ReflTransGen (Moment size)

end Exchange

/-! ## Sessions in a table -/

/-- Changing what stands behind a list. -/
theorem modify_length {α : Type} (front : List α) (value : α) (back : List α) (change : α → α) :
    (front ++ value :: back).modify front.length change = front ++ change value :: back := by
  induction front with
  | nil => rfl
  | cons head front ih =>
    rw [List.cons_append, List.length_cons, List.modify_succ_cons, ih, List.cons_append]

namespace Table

theorem setSession_setSession (table : Table) (index : Nat) (first second : Session) :
    (table.setSession index first).setSession index second = table.setSession index second := by
  simp only [setSession, changeSession, changeSlot, List.modify_modify_eq]
  rfl

theorem setSession_self {table : Table} {index : Nat} {session : Session}
    (found : table.session? index = some session) : table.setSession index session = table := by
  refine changeSession_eq_self fun other place => ?_
  exact Option.some.inj (found.symm.trans place)

theorem session?_setSession {table : Table} {index : Nat} {session : Session}
    (found : table.session? index = some session) (other : Session) :
    (table.setSession index other).session? index = some other := by
  rw [setSession, session?_changeSession, if_pos rfl, found]
  rfl

theorem session?_of_slot {table : Table} {index : Nat} {slot : Slot}
    (found : table.slots[index]? = some slot) : table.session? index = some slot.session := by
  rw [session?, found]
  rfl

theorem slot_of_session? {table : Table} {index : Nat} {session : Session}
    (found : table.session? index = some session) :
    ∃ slot, table.slots[index]? = some slot ∧ slot.session = session :=
  Option.map_eq_some_iff.mp found

/-- After the bridges of some slots were stopped, the sessions elsewhere are as they were. -/
theorem session?_stops (slots : List Nat) (table : Table) (place : Nat) :
    (slots.foldl (fun table slot => table.changeSession slot Session.stopBridge)
      table).session? place =
      if place ∈ slots then (table.session? place).map Session.stopBridge
      else table.session? place := by
  induction slots generalizing table with
  | nil => simp
  | cons slot rest ih =>
    rw [List.foldl_cons, ih, session?_changeSession]
    by_cases here : slot = place
    · subst here
      cases table.session? slot <;> simp [Session.stopBridge]
    · simp [here, Ne.symm here]

/-- After a slot was closed, its session has no engine and keeps no bridge, or is as it was; all
others are as they were. -/
theorem session?_closeSlot {table : Table} {index place : Nat} {resources : Resources}
    {later : Session} (found : (closeSlot index table resources).1.session? place = some later) :
    ∃ session, table.session? place = some session ∧
      (later.engine = none ∨ later.engine = session.engine) ∧
      (later.bridge = none ∨ later.bridge = session.bridge) := by
  rw [closeSlot] at found
  split at found
  · exact ⟨later, found, .inr rfl, .inr rfl⟩
  next session present =>
  dsimp only at found
  by_cases here : index = place
  · subst here
    obtain ⟨slot, foundSlot, rfl⟩ := slot_of_session? present
    simp only [session?, changeSlot, List.getElem?_modify_eq, foundSlot] at found
    cases found
    refine ⟨slot.session, present, ?_⟩
    by_cases isOpen : slot.session.stage = .complete
    · simp [Session.destroy, isOpen]
    · rw [Session.destroy_eq isOpen]
      exact ⟨.inl rfl, .inl rfl⟩
  · rw [session?_changeSlot_ne table here] at found
    exact ⟨later, found, .inr rfl, .inr rfl⟩

/-- Closing a slot makes no bridge use an engine that none used before. -/
theorem Unbridged.closeSlot {table : Table} {index : Nat} (unused : table.Unbridged index)
    (other : Nat) (resources : Resources) :
    (closeSlot other table resources).1.Unbridged index := by
  intro later engine found has place laterKeeper bridge foundKeeper kept
  obtain ⟨session, before, engines, _⟩ := session?_closeSlot found
  obtain ⟨keeper, beforeKeeper, _, bridges⟩ := session?_closeSlot foundKeeper
  rw [has] at engines
  rw [kept] at bridges
  have had : some engine = session.engine := by simpa using engines
  have keptBefore : some bridge = keeper.bridge := by simpa using bridges
  exact unused session engine before had.symm place keeper bridge beforeKeeper keptBefore.symm

end Table

/-- A session that does not signal is behind the control session. -/
theorem Table.Sound.behind {table : Table} (sound : table.Sound) {index : Nat} {slot : Slot}
    (found : table.slots[index]? = some slot) (talks : ¬ slot.session.IsSignaling) : 0 < index := by
  obtain ⟨control, rest, slots, _, signaling⟩ := sound.control
  refine Nat.pos_of_ne_zero ?_
  rintro rfl
  rw [slots] at found
  cases found
  exact talks signaling

/-- A session that neither signals nor is gone is a live leg. -/
theorem Table.Sound.isLeg {table : Table} (sound : table.Sound) {index : Nat} {slot : Slot}
    (found : table.slots[index]? = some slot) (talks : ¬ slot.session.IsSignaling)
    (here : ¬ slot.session.IsGone) : slot.isLive = true ∧ slot.session.gist ∈ table.legs := by
  have live : slot.isLive = true := by
    cases live : slot.isLive with
    | true => rfl
    | false => exact absurd (sound.closed slot (List.mem_of_getElem? found) live).session here
  exact ⟨live, gist_mem_legs found (sound.behind found talks) live⟩

/-- A session that has an engine or keeps a bridge is a live leg. -/
theorem Table.Sound.isLeg_of_isEngaged {table : Table} (sound : table.Sound) {index : Nat}
    {slot : Slot} (found : table.slots[index]? = some slot)
    (engaged : slot.session.isEngaged = true) :
    slot.isLive = true ∧ slot.session.gist ∈ table.legs := by
  refine sound.isLeg found (fun signaling => ?_) (fun gone => ?_)
  · simp [Session.isEngaged, signaling.no_engine, signaling.no_bridge] at engaged
  · simp [Session.isEngaged, gone.no_engine, gone.no_bridge] at engaged

/-- A session has an engine exactly when it is a live leg. -/
theorem Table.Sound.has_engine_iff {table : Table} (sound : table.Sound) {slot : Slot}
    (member : slot ∈ table.slots) :
    (∃ engine, slot.session.engine = some engine) ↔
      slot.isLive = true ∧ slot.session.isControl = false := by
  obtain ⟨index, found⟩ := List.getElem?_of_mem member
  constructor
  · rintro ⟨engine, has⟩
    obtain ⟨live, isLeg⟩ := sound.isLeg_of_isEngaged found (by simp [Session.isEngaged, has])
    obtain ⟨_, _, established⟩ := sound.paired.established isLeg
    exact ⟨live, established.media⟩
  · rintro ⟨live, media⟩
    have behind := sound.behind found fun signaling => by
      cases signaling.control.symm.trans media
    obtain ⟨_, _, established⟩ := sound.paired.established (gist_mem_legs found behind live)
    exact Option.isSome_iff_exists.mp established.has_engine

/-! ## Reading a socket -/

namespace Net.Fabric

theorem update_update (fabric : Fabric) (address : Endpoint) (first second : Socket → Socket) :
    (fabric.update address first).update address second =
      fabric.update address (second ∘ first) := by
  simp only [update, List.map_map]
  refine congrArg (Fabric.mk · fabric.policy) (List.map_congr_left fun entry _ => ?_)
  by_cases here : entry.1 = address <;> simp [here]

/-- A socket in which something waits is there. -/
theorem queue_update_of_waits {fabric : Fabric} {address : Endpoint} {first : Arrival}
    {rest : List Arrival} (waits : fabric.queue address = first :: rest) (later : List Arrival) :
    (fabric.update address fun socket => { socket with queue := later }).queue address = later := by
  rw [queue] at waits
  rw [queue, socket?_update, if_pos rfl]
  cases found : fabric.socket? address with
  | none =>
    rw [found] at waits
    cases waits
  | some socket => rfl

end Net.Fabric

namespace Session

variable {session : Session} {size : Nat} {resources : Resources} {address : Endpoint}

/-- Being handed a datagram does not depend on the network. -/
theorem hear_fabric (session : Session) (size : Nat) (sender : Endpoint) (payload : Payload)
    (resources : Resources) (fabric : Fabric) :
    session.hear size sender payload { resources with fabric := fabric } =
      ((session.hear size sender payload resources).1,
        { (session.hear size sender payload resources).2 with fabric := fabric }) := by
  rw [hear, hear]
  cases (session.heardFrom sender).engine <;> rfl

theorem onReadable_snd (bound : session.socket = some address) (resources : Resources) :
    (session.onReadable size resources).2 =
      session.hearAll size (Fabric.leadingDatagrams (resources.fabric.queue address))
        { resources with fabric := (resources.fabric.drain address).2 } := by
  rw [onReadable, bound]
  dsimp only
  split <;> rfl

/-- Reading a socket in which no datagram comes first changes no session. -/
theorem onReadable_of_blocked (bound : session.socket = some address)
    (blocked : Fabric.leadingDatagrams (resources.fabric.queue address) = []) :
    (session.onReadable size resources).2 =
      (session, { resources with fabric := (resources.fabric.drain address).2 }) := by
  rw [onReadable_snd bound, blocked]
  rfl

/-- Reading a socket in which a datagram comes first is being handed this datagram, and then reading
the rest. -/
theorem onReadable_cons {sender : Endpoint} {payload : Payload} {rest : List Arrival}
    (bound : session.socket = some address)
    (waits : resources.fabric.queue address = .datagram sender payload :: rest) :
    (session.onReadable size resources).2 =
      ((session.hear size sender payload
        { resources with
          fabric := resources.fabric.update address fun socket =>
            { socket with queue := rest } }).1.onReadable size
        (session.hear size sender payload
          { resources with
            fabric := resources.fabric.update address fun socket =>
              { socket with queue := rest } }).2).2 := by
  have still : ((session.hear size sender payload resources).1).socket = some address :=
    (session.socket_heardFrom sender).trans bound
  simp only [hear_fabric, onReadable_snd bound, onReadable_snd still, waits,
    Fabric.queue_update_of_waits waits, Fabric.leadingDatagrams, hearAll, List.foldl_cons,
    Fabric.drain, Fabric.firstFault, Fabric.update_update]
  rfl

end Session

namespace Exchange

variable {exchange : Exchange} {size : Nat}

/-! ## Bridges and media -/

/-- The passes of a bridge are moments. -/
theorem moments_passes {index : Nat} {session : Session}
    (found : exchange.table.session? index = some session) (bridge : Bridge) (count : Nat)
    (progress : Progress) (resources : Resources) :
    Moments size (exchange.advance index session bridge (progress, resources))
      (exchange.advance index session bridge
        (passes (Resources.sides bridge.inbound bridge.outbound) count progress resources)) := by
  have forwarded : ∀ (source : Direction) (progress : Progress) (resources : Resources),
      progress.failed = false →
      Moments size (exchange.advance index session bridge (progress, resources))
        (exchange.advance index session bridge
          (forward (Resources.sides bridge.inbound bridge.outbound) source progress
            resources)) := by
    intro source progress resources runs
    have moment : Moment size _ _ := .forwarded
      (exchange.advance index session bridge (progress, resources))
      (Table.session?_setSession found _) rfl runs source
    simp only [advance, Table.setSession_setSession] at moment ⊢
    exact .single moment
  induction count generalizing progress resources with
  | zero => exact .refl
  | succ count ih =>
    refine Relation.ReflTransGen.trans (b := exchange.advance index session bridge
      (Media.pass (Resources.sides bridge.inbound bridge.outbound) progress resources)) ?_ (ih _ _)
    rw [Media.pass]
    split
    · exact .refl
    next runs =>
    have first := forwarded .inbound progress resources (Bool.eq_false_iff.mpr runs)
    dsimp only
    split
    · exact first
    next stillRuns => exact first.trans (forwarded .outbound _ _ (Bool.eq_false_iff.mpr stillRuns))

theorem moments_runBridge (exchange : Exchange) (index count : Nat) :
    Moments size exchange (exchange.runBridge index count) := by
  cases found : exchange.table.session? index with
  | none =>
    simp only [runBridge, found]
    exact .refl
  | some session =>
    cases kept : session.bridge with
    | none =>
      simp only [runBridge, found, Session.runBridge, kept, Table.setSession_self found]
      exact .refl
    | some bridge =>
      have start : exchange.advance index session bridge (bridge.progress, exchange.resources) =
          exchange := by
        have same : { session with bridge := some { bridge with progress := bridge.progress } } =
            session := by rw [← kept]
        simp only [advance, same, Table.setSession_self found]
      have passed : Moments size _ _ :=
        moments_passes found bridge count bridge.progress exchange.resources
      rw [start] at passed
      simp only [runBridge, found, Session.runBridge, kept]
      exact passed

/-- What happens beside the rounds happens in moments. -/
theorem Beside.moments {before after : Exchange} (beside : Beside before after) :
    Moments size before after := by
  induction beside with
  | nothing => exact .refl
  | network earlier moved ih => exact ih.tail (.network _ moved)
  | bridged earlier index count ih => exact ih.trans (moments_runBridge _ index count)
  | failed earlier index ih => exact ih.tail (.failed _ index)

/-- Reading a socket in which no datagram comes first is one moment. -/
theorem moments_onReadable_of_blocked {exchange : Exchange} {index : Nat} {session : Session}
    {address : Endpoint} (found : exchange.table.session? index = some session)
    (bound : session.socket = some address)
    (blocked : Fabric.leadingDatagrams (exchange.resources.fabric.queue address) = []) :
    Moments size exchange
      { exchange with
        table := exchange.table.setSession index
          (session.onReadable size exchange.resources).2.1
        resources := (session.onReadable size exchange.resources).2.2 } := by
  rw [Session.onReadable_of_blocked bound blocked, Table.setSession_self found]
  exact .single (.drained exchange address)

/-- Reading a socket hands over its datagrams one by one. -/
theorem moments_onReadable (waiting : List Arrival) {exchange : Exchange} {index : Nat}
    {session : Session} {address : Endpoint} (found : exchange.table.session? index = some session)
    (bound : session.socket = some address)
    (waits : exchange.resources.fabric.queue address = waiting) :
    Moments size exchange
      { exchange with
        table := exchange.table.setSession index
          (session.onReadable size exchange.resources).2.1
        resources := (session.onReadable size exchange.resources).2.2 } := by
  induction waiting generalizing exchange session with
  | nil =>
    exact moments_onReadable_of_blocked found bound (congrArg _ waits)
  | cons arrival rest ih =>
    cases arrival with
    | fault cause =>
      exact moments_onReadable_of_blocked found bound (congrArg _ waits)
    | datagram sender payload =>
      have moment : Moment size exchange
          (exchange.hearAt size index session address (sender, payload) rest) :=
        .heard exchange found bound waits
      have foundLater : Table.session?
          (exchange.hearAt size index session address (sender, payload) rest).table index =
            some (session.heardFrom sender) := Table.session?_setSession found _
      have waitsLater : (exchange.hearAt size index session address (sender, payload)
          rest).resources.fabric.queue address = rest := by
        rw [hearAt, Session.hear_fabric]
        exact Fabric.queue_update_of_waits waits rest
      have later := ih foundLater ((session.socket_heardFrom sender).trans bound) waitsLater
      rw [hearAt, Table.setSession_setSession] at later
      rw [Session.onReadable_cons bound waits]
      exact .head moment later

/-! ## The end of a call -/

theorem moments_stops (slots : List Nat) (exchange : Exchange) :
    Moments size exchange
      { exchange with
        table := slots.foldl (fun table slot => table.changeSession slot Session.stopBridge)
          exchange.table } := by
  induction slots generalizing exchange with
  | nil => exact .refl
  | cons slot rest ih => exact .head (.stopped exchange slot) (ih _)

/-- Slots whose engines no bridge uses are closed one after the other. -/
theorem moments_closes (slots : List Nat) (exchange : Exchange)
    (unused : ∀ slot ∈ slots, exchange.table.Unbridged slot) :
    Moments size exchange
      { exchange with
        table := (slots.foldl (fun state slot => Table.closeSlot slot state.1 state.2)
          (exchange.table, exchange.resources)).1
        resources := (slots.foldl (fun state slot => Table.closeSlot slot state.1 state.2)
          (exchange.table, exchange.resources)).2 } := by
  induction slots generalizing exchange with
  | nil => exact .refl
  | cons slot rest ih =>
    refine .head (.closed exchange (unused slot List.mem_cons_self)) ?_
    exact ih (exchange.closeAt slot) fun other member =>
      (unused other (List.mem_cons_of_mem _ member)).closeSlot slot _

/-- A bridge is kept by one of the two legs whose engines it uses, and these name each other. -/
theorem Sound.keeper_of_uses (sound : exchange.Sound) {index place : Nat}
    {session keeper : Session} {bridge : Bridge} {engine : Nat}
    (found : exchange.table.session? index = some session) (has : session.engine = some engine)
    (foundKeeper : exchange.table.session? place = some keeper)
    (kept : keeper.bridge = some bridge) (uses : bridge.Uses engine) :
    place = index ∨ session.peer = some keeper.id ∧ keeper.peer = some session.id := by
  obtain ⟨slot, foundSlot, rfl⟩ := Table.slot_of_session? found
  obtain ⟨slot', foundSlot', rfl⟩ := Table.slot_of_session? foundKeeper
  obtain ⟨live, _⟩ := sound.table.isLeg_of_isEngaged foundSlot (by simp [Session.isEngaged, has])
  obtain ⟨live', leg'⟩ :=
    sound.table.isLeg_of_isEngaged foundSlot' (by simp [Session.isEngaged, kept])
  have distinct : (exchange.table.gists.filterMap Session.engine).Nodup :=
    sound.ledger.engines_ordered.imp Nat.ne_of_lt
  obtain ⟨callId, _, inbound, outbound, _, legs, bridged, which, _, _⟩ :=
    sound.table.paired.split leg'
  obtain ⟨engineIn, engineOut, progress, hasIn, hasOut, keptIn⟩ := bridged.engines
  have keeps : slot'.session.gist.bridge = some { bridge with progress := Progress.fresh } := by
    simp [Session.gist, kept]
  rcases which with same | same
  case inr =>
    rw [same, bridged.outbound_bridge] at keeps
    cases keeps
  rw [← same] at bridged hasIn keptIn
  cases keptIn.symm.trans keeps
  rcases uses with rfl | rfl
  · exact .inl (Table.place_of_field distinct foundSlot' foundSlot live' live hasIn has)
  · have member : outbound ∈ exchange.table.legs := by simp [legs]
    obtain ⟨other, partner, foundPartner, _, livePartner, rfl⟩ := Table.slot_of_mem_legs member
    obtain rfl := Table.place_of_field distinct foundPartner foundSlot livePartner live hasOut has
    cases foundPartner.symm.trans foundSlot
    exact .inr ⟨bridged.outbound_leg.names_peer, bridged.inbound_leg.names_peer⟩

/-- A leg and the session in the slot of its peer name each other. -/
theorem Sound.peer_of_callSlots (sound : exchange.Sound) {index other : Nat}
    {session peer : Session} (found : exchange.table.session? index = some session)
    (foundPeer : exchange.table.session? other = some peer)
    (named : session.peer.bind exchange.table.indexOf? = some other) :
    peer.peer = some session.id ∧ exchange.table.indexOf? session.id = some index := by
  obtain ⟨slot, foundSlot, rfl⟩ := Table.slot_of_session? found
  obtain ⟨id, names, place⟩ := Option.bind_eq_some_iff.mp named
  obtain ⟨slot', foundSlot', holds⟩ := Table.findSlot?_eq_some place
  rw [Bool.and_eq_true, decide_eq_true_iff] at holds
  obtain ⟨live', rfl⟩ := holds
  cases foundPeer.symm.trans (Table.session?_of_slot foundSlot')
  obtain ⟨live, leg⟩ := sound.table.isLeg foundSlot
    (fun signaling => by simp [signaling.no_peer] at names)
    (fun gone => by simp [gone.no_peer] at names)
  obtain ⟨callId, partner, _, _, established, established', _, legs⟩ :=
    sound.table.paired.partner leg
  have member : partner ∈ exchange.table.legs := by
    rcases legs with legs | legs <;> rw [legs] <;> simp
  obtain ⟨place', partnerSlot, foundPartner, _, livePartner, rfl⟩ := Table.slot_of_mem_legs member
  have same : partnerSlot.session.id = slot'.session.id :=
    Option.some.inj (established.names_peer.symm.trans names)
  obtain rfl :=
    Table.place_of_id sound.ledger.ids_nodup foundPartner foundSlot' livePartner live' same
  cases foundPartner.symm.trans foundSlot'
  exact ⟨established'.names_peer, sound.indexOf?_eq foundSlot live⟩

/-- After the bridges of both slots of a call were stopped, no bridge uses an engine of theirs. -/
theorem Sound.unbridged_callSlots (sound : exchange.Sound) {index : Nat} {session : Session}
    (found : exchange.table.session? index = some session) :
    ∀ slot ∈ exchange.table.callSlots index session,
      ((exchange.table.callSlots index session).foldl
        (fun table slot => table.changeSession slot Session.stopBridge)
        exchange.table).Unbridged slot := by
  intro slot member stopped engine foundStopped has place keeper bridge foundKeeper kept uses
  rw [Table.session?_stops, if_pos member] at foundStopped
  obtain ⟨leg, foundLeg, rfl⟩ := Option.map_eq_some_iff.mp foundStopped
  rw [Table.session?_stops] at foundKeeper
  -- A bridge that is still there is kept in none of the slots of the call.
  split at foundKeeper
  · obtain ⟨other, _, rfl⟩ := Option.map_eq_some_iff.mp foundKeeper
    cases kept
  next stranger =>
  rcases sound.keeper_of_uses foundLeg has foundKeeper kept uses with rfl | ⟨names, _⟩
  · exact stranger member
  obtain ⟨keeperSlot, foundSlot, rfl⟩ := Table.slot_of_session? foundKeeper
  obtain ⟨live, _⟩ :=
    sound.table.isLeg_of_isEngaged foundSlot (by simp [Session.isEngaged, kept])
  have place_eq := sound.indexOf?_eq foundSlot live
  refine stranger ?_
  rcases List.mem_cons.mp member with rfl | partner
  · cases found.symm.trans foundLeg
    simp [Table.callSlots, names, place_eq]
  · obtain ⟨named, own⟩ := sound.peer_of_callSlots found foundLeg (Option.mem_toList.mp partner)
    have same : keeperSlot.session.id = session.id := Option.some.inj (names.symm.trans named)
    rw [same, own] at place_eq
    cases place_eq
    exact List.mem_cons_self

/-- **The end of a call is made of moments:** its bridge is stopped before either leg is
destroyed. -/
theorem Sound.moments_destroyCall (sound : exchange.Sound) (index : Nat) :
    Moments size exchange (exchange.destroyCall index).2 := by
  cases found : exchange.table.session? index with
  | none =>
    simp only [Exchange.destroyCall, Table.destroyCall, found]
    exact .refl
  | some session =>
    cases control : session.isControl with
    | true =>
      simp only [Exchange.destroyCall, Table.destroyCall, found, control, if_true]
      exact .refl
    | false =>
      have stopped : Moments size exchange _ :=
        moments_stops (exchange.table.callSlots index session) exchange
      simp only [Exchange.destroyCall, Table.destroyCall, found, control, Bool.false_eq_true,
        if_false]
      exact stopped.trans (moments_closes _ _ (sound.unbridged_callSlots found))

end Exchange

end FaxRelay
