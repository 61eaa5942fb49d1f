import FaxRelay.Proofs.HandOver

/-!
# What a round delivers

In a round nothing that waits is lost, taken twice or given to somebody else
(`Gateway.Delivers`). The control session takes in the signaling that waited for
it, in order; the engine of each leg hears the datagrams that waited for this
leg, in order, unless the leg is destroyed before its turn comes; and nobody
else hears anything, in particular no leg that was made in this round and none
that is destroyed in it.

The relay may be its own correspondent: a reply may go to one of its own
sockets while the round goes on. Such a datagram joins the queue and is taken in
behind what waited from the start, or remains for a later round.
-/

set_option autoImplicit false

namespace FaxRelay

open FaxRelay.Media FaxRelay.Net FaxRelay.Pool FaxRelay.Signal

namespace Resources

/-- Between two states the control session has taken in what waited in its socket, each datagram
once and in order, and behind it at most what the relay itself has sent there since; the rest of
that still waits. -/
def TakesIn (size : Nat) (address : Endpoint) (before after : Resources) : Prop :=
  ∃ later, signalings after.journal = signalings before.journal ++
      (before.fabric.waiting address ++ later).map (cut size) ∧
    sendings address after.journal = sendings address before.journal ++
      (later ++ after.fabric.waiting address)

/-- Between two states an engine has heard what waited in the socket of its leg, each datagram once
and in order, and behind it at most what the relay itself has sent there since; the rest of that
still waits. -/
def Hears (size engine : Nat) (address : Endpoint) (before after : Resources) : Prop :=
  ∃ later, hearings engine after.journal = hearings engine before.journal ++
      (before.fabric.waiting address ++ later).map (fun datagram => datagram.2.take size) ∧
    sendings address after.journal = sendings address before.journal ++
      (later ++ after.fabric.waiting address)

end Resources

namespace Gateway

end Gateway

/-! ## The signaling of a round -/

namespace Exchange

variable {exchange : Exchange}

/-- A sound exchange has its control session, with a socket. -/
theorem Sound.control_socket (sound : exchange.Sound) :
    ∃ control address, exchange.table.control? = some control ∧ control.socket = some address ∧
      control.gist ∈ exchange.table.gists ∧ control.isControl = true ∧ control.engine = none := by
  obtain ⟨slot, rest, slots, live, signaling, present⟩ := sound.table.control?_eq
  obtain ⟨address, bound⟩ := Option.isSome_iff_exists.mp signaling.has_socket
  refine ⟨slot.session, address, present, bound, ?_, signaling.control, signaling.no_engine⟩
  · rw [Table.gists, slots, List.filterMap_cons_some (Slot.gist?_of_isLive live)]
    exact List.mem_cons_self

/-- A sound exchange takes signaling somewhere. -/
theorem Sound.exists_listens (sound : exchange.Sound) :
    ∃ address, exchange.table.control?.bind Session.socket = some address := by
  obtain ⟨control, address, present, bound, _⟩ := sound.control_socket
  exact ⟨address, by rw [present, Option.bind_some, bound]⟩

/-- Where a sound exchange takes signaling, its control session has its socket. -/
theorem Sound.control_of_listens (sound : exchange.Sound) {address : Endpoint}
    (listens : exchange.table.control?.bind Session.socket = some address) :
    ∃ control, exchange.table.control? = some control ∧ control.socket = some address ∧
      control.gist ∈ exchange.table.gists ∧ control.isControl = true ∧ control.engine = none := by
  obtain ⟨control, _, present, _, others⟩ := sound.control_socket
  rw [present, Option.bind_some] at listens
  exact ⟨control, present, listens, others⟩

/-- The socket of the control session is a matter of the outline. -/
theorem Sound.control_socket_eq {before after : Exchange} (sound : before.Sound)
    (soundAfter : after.Sound) (same : after.table.gists = before.table.gists)
    {control : Session} {address : Endpoint} (member : control ∈ before.table.gists)
    (signals : control.isControl = true) (bound : control.socket = some address) :
    ∃ control, after.table.control? = some control ∧ control.socket = some address := by
  obtain ⟨other, _, found, _, otherMember, otherSignals, _⟩ := soundAfter.control_socket
  have gist : other.gist = control :=
    sound.table.control_unique (same ▸ otherMember) member otherSignals signals
  refine ⟨other, found, ?_⟩
  rw [← bound, ← gist]
  rfl

/-- Clearing the mark of the control session leaves the marks of the legs. -/
theorem marks_clearReadable {leg : Session} {mark : Bool} (sound : exchange.Sound)
    (media : leg.isControl = false)
    (member : (leg, mark) ∈ (exchange.table.clearReadable 0).marks) :
    (leg, mark) ∈ exchange.table.marks := by
  have soundCleared := sound.of_quiet (quiet_clearReadable exchange 0)
  obtain ⟨control, rest, slots, _⟩ := sound.table.control
  have legMarks : (exchange.table.clearReadable 0).legMarks = exchange.table.legMarks := by
    rw [Table.legMarks, Table.clearReadable, Table.changeSlot, Table.legMarks, slots]
    rfl
  have isLeg := soundCleared.table.mem_legMarks_iff.mpr ⟨member, media⟩
  rw [legMarks] at isLeg
  exact (sound.table.mem_legMarks_iff.mp isLeg).1

end Exchange

namespace Gateway

/-- The state of a round before its media is handled. -/
def beforeMedia (size ready : Nat) (exchange : Exchange) : Exchange :=
  ((if 0 < ready then
      Exchange.handleControl size { exchange with table := exchange.table.clearReadable 0 }
    else exchange).reap).2

theorem dispatch_eq (size ready : Nat) (exchange : Exchange) :
    dispatch size ready exchange = ((beforeMedia size ready exchange).compact size).2 := rfl

/-- What there is when the signaling of a round was read and nothing of it handled yet: the
sessions and their marks are as the wait has left them, and of the sockets that of the control
session alone was read. -/
structure Listens (address : Endpoint) (before start : Exchange) : Prop where
  sound : start.Sound
  journal_eq : start.resources.journal = before.resources.journal
  engines_eq : start.resources.engines.length = before.resources.engines.length
  gists_eq : start.table.gists = before.table.gists
  marks : ∀ leg mark, leg.isControl = false → (leg, mark) ∈ start.table.marks →
    (leg, mark) ∈ (wait before).2.table.marks
  read : start.resources.fabric.queue address = []
  others : ∀ other, other ≠ address →
    start.resources.fabric.queue other = before.resources.fabric.queue other

variable {exchange : Exchange}

/-- **All signaling that waits is read and then handled,** and then the calls whose bridges have
failed are ended. -/
theorem ReportsAll.beforeMedia (reports : ReportsAll exchange) (sound : exchange.Sound)
    (size : Nat) {control : Session} {address : Endpoint} (member : control ∈ exchange.table.gists)
    (signals : control.isControl = true) (bound : control.socket = some address) :
    ∃ start, Listens address exchange start ∧
      (Gateway.beforeMedia size (wait exchange).1 (wait exchange).2).Sound ∧
      start.Carried (Gateway.beforeMedia size (wait exchange).1 (wait exchange).2) ∧
      signalings (Gateway.beforeMedia size (wait exchange).1 (wait exchange).2).resources.journal =
        signalings exchange.resources.journal ++
          (exchange.resources.fabric.waiting address).map (cut size) := by
  have soundWaited := sound.of_quiet (quiet_wait exchange)
  have watches := mem_watched member bound
  rw [Gateway.beforeMedia]
  by_cases ready : 0 < (wait exchange).1
  case neg =>
    -- Nothing was reported, so nothing waits for the control session either.
    have nothing : exchange.resources.fabric.queue address = [] := by
      apply Classical.byContradiction
      intro waits
      have named : control.id ∈ reported exchange :=
        List.mem_map.mpr ⟨_, List.mem_filter.mpr ⟨watches, reports.ready _ watches waits⟩, rfl⟩
      exact ready (List.length_pos_of_mem named)
    have listens : Listens address exchange (wait exchange).2 :=
      ⟨soundWaited, rfl, rfl, (quiet_wait exchange).outline.gists_eq, fun _ _ _ member => member,
        (queue_wait exchange address).trans nothing, fun other _ => queue_wait exchange other⟩
    rw [if_neg ready]
    obtain ⟨soundReaped, carried⟩ := soundWaited.carried_reap
    refine ⟨(wait exchange).2, listens, soundReaped, carried, ?_⟩
    rw [(Exchange.silent_reap _).signalings_eq, listens.journal_eq, Fabric.waiting, nothing]
    exact (List.append_nil _).symm
  rw [if_pos ready]
  have quiet := Exchange.quiet_clearReadable (wait exchange).2 0
  have soundCleared := soundWaited.of_quiet quiet
  have sameGists : ((wait exchange).2.table.clearReadable 0).gists = exchange.table.gists :=
    quiet.outline.gists_eq.trans (quiet_wait exchange).outline.gists_eq
  obtain ⟨session, found, bound'⟩ :=
    sound.control_socket_eq soundCleared sameGists member signals bound
  have faultless : (wait exchange).2.resources.fabric.Faultless address := by
    intro cause
    rw [queue_wait]
    exact reports.faultless _ watches cause
  have waits : (wait exchange).2.resources.fabric.waiting address =
      exchange.resources.fabric.waiting address :=
    congrArg Fabric.leadingDatagrams (queue_wait exchange address)
  -- The state in which the control socket is read and nothing handled yet.
  obtain ⟨start, startEq⟩ : ∃ start : Exchange, start =
      { (wait exchange).2 with
        table := (wait exchange).2.table.clearReadable 0
        resources :=
          { (wait exchange).2.resources with
            fabric := ((wait exchange).2.resources.fabric.drain address).2 } } := ⟨_, rfl⟩
  have listens : Listens address exchange start := by
    subst startEq
    refine ⟨soundCleared.of_quiet (Exchange.quiet_fabric _ (Fabric.keeps_drain _ address)), rfl,
      rfl, sameGists, fun leg mark media => Exchange.marks_clearReadable soundWaited media, ?_,
      fun other differs => ?_⟩
    · exact (faultless.queue_drain address).trans (if_pos rfl)
    · have undrained := (faultless.queue_drain other).trans (if_neg differs)
      exact undrained.trans (queue_wait exchange other)
  have handled : Exchange.handleControl size
      { (wait exchange).2 with table := (wait exchange).2.table.clearReadable 0 } =
      (exchange.resources.fabric.waiting address).foldl (Exchange.signal size) start := by
    have socket : ((wait exchange).2.table.clearReadable 0).control?.bind Session.socket =
        some address := by rw [found, Option.bind_some, bound']
    rw [Exchange.handleControl, socket]
    dsimp only
    rw [faultless.drain_eq, waits, startEq]
  rw [handled]
  obtain ⟨soundSignaled, carried, taken⟩ :=
    listens.sound.carried_signals size (exchange.resources.fabric.waiting address)
  obtain ⟨soundReaped, carried'⟩ := soundSignaled.carried_reap
  refine ⟨start, listens, soundReaped, carried.trans carried', ?_⟩
  rw [(Exchange.silent_reap _).signalings_eq, taken, listens.journal_eq]

/-- **A mark is that of the session for which it was made.** Whatever leg is there before its media
is handled either was made in this round, and is not marked, or was there at the wait, is marked
exactly if it was marked then, and what waits for it was only added to. -/
theorem Listens.carried {before start after : Exchange} {control : Session} {address : Endpoint}
    (listens : Listens address before start) (carried : start.Carried after)
    (sound : before.Sound) (soundAfter : after.Sound) (member : control ∈ before.table.gists)
    (signals : control.isControl = true) (bound : control.socket = some address) {leg : Session}
    {mark : Bool} (isLeg : (leg, mark) ∈ after.table.legMarks) :
    (mark = false ∧ ∃ engine, leg.engine = some engine ∧
      before.resources.engines.length ≤ engine) ∨
    (leg ∈ before.table.gists ∧ (leg, mark) ∈ (wait before).2.table.marks ∧
      ∀ other, leg.socket = some other → Resources.Fed other before.resources after.resources) := by
  obtain ⟨marked, media⟩ := soundAfter.table.mem_legMarks_iff.mp isLeg
  rcases carried.marks leg mark marked with ⟨unmarked, ⟨engine, has, recent⟩, _⟩ | ⟨stays, fed⟩
  · exact .inl ⟨unmarked, engine, has, listens.engines_eq ▸ recent⟩
  have legMember : leg ∈ before.table.gists := listens.gists_eq ▸ Table.gist_of_mark stays
  refine .inr ⟨legMember, listens.marks leg mark media stays, fun other has => ?_⟩
  have differs : other ≠ address := by
    rintro rfl
    obtain rfl := sound.wired.gist_eq legMember member has bound
    cases signals.symm.trans media
  obtain ⟨sent, sendings_eq, queue⟩ := fed other has
  rw [listens.journal_eq] at sendings_eq
  rw [listens.others other differs] at queue
  exact ⟨sent, sendings_eq, queue⟩

/-- The socket of the control session, once it was read, has only what was sent there since. -/
theorem Listens.control {before start after : Exchange} {control : Session} {address : Endpoint}
    (listens : Listens address before start) (carried : start.Carried after)
    (sound : before.Sound) (soundAfter : after.Sound) (member : control ∈ before.table.gists)
    (signals : control.isControl = true) (bound : control.socket = some address) :
    sendings address after.resources.journal =
      sendings address before.resources.journal ++ after.resources.fabric.waiting address := by
  obtain ⟨other, _, _, _, otherMember, otherSignals, noEngine⟩ := soundAfter.control_socket
  obtain ⟨mark, marked⟩ := Table.mark_of_gist otherMember
  rcases carried.marks other.gist mark marked with ⟨_, ⟨engine, has, _⟩, _⟩ | ⟨stays, fed⟩
  · cases noEngine.symm.trans has
  have stayed : other.gist ∈ before.table.gists := listens.gists_eq ▸ Table.gist_of_mark stays
  have same : other.gist = control :=
    sound.table.control_unique stayed member otherSignals signals
  obtain ⟨sent, sendings_eq, queue⟩ := fed address (same ▸ bound)
  rw [listens.read, List.nil_append] at queue
  rw [sendings_eq, listens.journal_eq, Fabric.waiting, queue, Fabric.leadingDatagrams_map]

end Gateway

/-! ## The media of a round -/

namespace Exchange

variable {exchange : Exchange}

/-- A leg has an engine and a socket. -/
theorem Sound.leg_engine_socket (sound : exchange.Sound) {leg : Session}
    (member : leg ∈ exchange.table.legs) :
    ∃ engine address, leg.engine = some engine ∧ leg.socket = some address := by
  obtain ⟨_, _, established⟩ := sound.table.paired.established member
  obtain ⟨engine, has⟩ := Option.isSome_iff_exists.mp established.has_engine
  obtain ⟨address, bound⟩ := Option.isSome_iff_exists.mp established.has_socket
  exact ⟨engine, address, has, bound⟩

/-- An engine is in use exactly when a leg has it. -/
theorem Sound.mem_held_iff (sound : exchange.Sound) {engine : Nat} :
    (∃ mark leg, (leg, mark) ∈ exchange.table.legMarks ∧ leg.engine = some engine) ↔
      engine ∈ attachments exchange.resources.journal ∧
        engine ∉ retirements exchange.resources.journal := by
  rw [← sound.ledger.settled.held_iff, List.mem_filterMap]
  obtain ⟨control, signaling, gists⟩ := sound.table.gists_eq
  constructor
  · rintro ⟨mark, leg, member, has⟩
    exact ⟨leg, Table.gist_of_mark (sound.table.mem_legMarks_iff.mp member).1, has⟩
  · rintro ⟨leg, member, has⟩
    obtain ⟨mark, marked⟩ := Table.mark_of_gist member
    refine ⟨mark, leg, sound.table.mem_legMarks_iff.mpr ⟨marked, ?_⟩, has⟩
    rw [gists] at member
    rcases List.mem_cons.mp member with rfl | member
    · rw [signaling.no_engine] at has
      cases has
    · obtain ⟨_, _, established⟩ := sound.table.paired.established member
      exact established.media

/-- No two legs have the same of what no two sessions have the same of. -/
theorem nodup_legMarks {β : Type} {field : Session → Option β} (sound : exchange.Sound)
    (nodup : (exchange.table.gists.filterMap field).Nodup) :
    (exchange.table.legMarks.filterMap fun entry => field entry.1).Nodup := by
  have legs : exchange.table.legMarks.filterMap (fun entry => field entry.1) =
      exchange.table.legs.filterMap field := by
    rw [← Table.map_fst_legMarks, List.filterMap_map]
    rfl
  obtain ⟨control, _, gists⟩ := sound.table.gists_eq
  rw [gists] at nodup
  rw [legs]
  exact nodup.sublist ((List.sublist_cons_self control exchange.table.legs).filterMap field)

/-- **A compaction hands over what waits for the legs that are marked.** -/
theorem Sound.handsOver_compact (sound : exchange.Sound) (size : Nat)
    (clean : ∀ leg address, (leg, true) ∈ exchange.table.legMarks → leg.socket = some address →
      exchange.resources.fabric.Faultless address) :
    exchange.resources.Attended exchange.table.legMarks ∧
      exchange.resources.HandsOver size exchange.table.legMarks
        (exchange.compact size).2.resources := by
  have attended : exchange.resources.Attended exchange.table.legMarks := by
    rintro ⟨leg, mark⟩ member
    have isLeg : leg ∈ exchange.table.legs := by
      rw [← Table.map_fst_legMarks]
      exact List.mem_map_of_mem member
    obtain ⟨engine, address, has, bound⟩ := sound.leg_engine_socket isLeg
    refine ⟨engine, address, has, bound, fun isMarked => ?_⟩
    cases isMarked
    exact clean leg address member bound
  refine ⟨attended, ?_⟩
  have length : exchange.table.slots.tail.length = exchange.table.size - 1 := List.length_tail
  have scanned := handsOver_compactFrom size exchange.table.slots.tail
    (exchange.table, exchange.resources, exchange.counters) (Nat.le_refl 1) List.drop_one attended
  rw [length] at scanned
  exact scanned

end Exchange

/-! ## The whole round -/

namespace Gateway

/-- What is known of a round: of the state `ready`, in which its signaling is handled, and of the
media that is handed over from there on. -/
structure Phases (size : Nat) (address : Endpoint) (before ready after : Exchange) : Prop where
  sound : before.Sound
  soundReady : ready.Sound
  journal : before.resources.journal <:+ ready.resources.journal
  hearings_eq : ∀ engine,
    hearings engine ready.resources.journal = hearings engine before.resources.journal
  signaled : signalings ready.resources.journal = signalings before.resources.journal ++
    (before.resources.fabric.waiting address).map (cut size)
  control : sendings address ready.resources.journal =
    sendings address before.resources.journal ++ ready.resources.fabric.waiting address
  unread : ∀ leg, (leg, true) ∈ ready.table.legMarks → leg.socket ≠ some address
  origin : ∀ leg mark, (leg, mark) ∈ ready.table.legMarks →
    (mark = false ∧ ∃ engine, leg.engine = some engine ∧
      before.resources.engines.length ≤ engine) ∨
    (leg ∈ before.table.gists ∧ (leg, mark) ∈ (wait before).2.table.marks ∧
      ∀ other, leg.socket = some other → Resources.Fed other before.resources ready.resources)
  attended : ready.resources.Attended ready.table.legMarks
  handsOver : ready.resources.HandsOver size ready.table.legMarks after.resources

/-- A round in which everything is reported goes through these phases. -/
theorem ReportsAll.phases {exchange : Exchange} (reports : ReportsAll exchange)
    (sound : exchange.Sound) (size : Nat) :
    ∃ address ready, exchange.table.control?.bind Session.socket = some address ∧
      Phases size address exchange ready
        (dispatch size (wait exchange).1 (wait exchange).2) := by
  obtain ⟨control, address, found, bound, member, signals, _⟩ := sound.control_socket
  obtain ⟨start, listens, soundReady, carried, signaled⟩ :=
    reports.beforeMedia sound size member signals bound
  rw [dispatch_eq]
  generalize Gateway.beforeMedia size (wait exchange).1 (wait exchange).2 = ready at *
  have origin := fun (leg : Session) (mark : Bool) (isLeg : (leg, mark) ∈ ready.table.legMarks) =>
    listens.carried carried sound soundReady member signals bound isLeg
  have clean : ∀ leg other, (leg, true) ∈ ready.table.legMarks → leg.socket = some other →
      ready.resources.fabric.Faultless other := by
    intro leg other isLeg has
    rcases origin leg true isLeg with ⟨unmarked, _⟩ | ⟨legMember, _, fed⟩
    · cases unmarked
    · exact ((fed other has).waiting_eq (reports.faultless _ (mem_watched legMember has))).1
  obtain ⟨attended, handsOver⟩ := soundReady.handsOver_compact size clean
  refine ⟨address, ready, by rw [found, Option.bind_some, bound], sound, soundReady, ?_,
    fun engine => ?_, signaled, listens.control carried sound soundReady member signals bound,
    fun leg isLeg has => ?_, origin, attended, handsOver⟩
  · rw [← listens.journal_eq]
    exact carried.journal
  · rw [carried.hearings_eq, listens.journal_eq]
  · rcases origin leg true isLeg with ⟨unmarked, _⟩ | ⟨legMember, _, _⟩
    · cases unmarked
    · obtain rfl := sound.wired.gist_eq legMember member has bound
      have isMedia := (soundReady.table.mem_legMarks_iff.mp isLeg).2
      cases isMedia.symm.trans signals

namespace Phases

variable {size : Nat} {address : Endpoint} {before ready after : Exchange}
variable (phases : Phases size address before ready after)
include phases

/-- All signaling that waited is taken in. -/
theorem takesIn : before.resources.TakesIn size address after.resources := by
  obtain ⟨signalings_eq, sendings_eq, _⟩ := phases.handsOver.journal_rest
  have queue := phases.handsOver.queue_eq phases.unread
  refine ⟨[], ?_, ?_⟩
  · rw [signalings_eq, phases.signaled, List.append_nil]
  · rw [sendings_eq, phases.control, Fabric.waiting, Fabric.waiting, queue, List.nil_append]

/-- The engine of a leg that is not destroyed hears what waited for the leg. -/
theorem hears (reports : ReportsAll before) {leg : Session} {engine : Nat} {socket : Endpoint}
    (member : leg ∈ before.table.gists) (has : leg.engine = some engine)
    (bound : leg.socket = some socket)
    (spared : engine ∉ retirements after.resources.journal) :
    before.resources.Hears size engine socket after.resources := by
  obtain ⟨_, sendings_eq, retirements_eq⟩ := phases.handsOver.journal_rest
  rw [retirements_eq] at spared
  have settled := phases.sound.ledger.settled
  have attached : engine ∈ attachments before.resources.journal :=
    settled.attached_of_held (List.mem_filterMap.mpr ⟨leg, member, has⟩)
  have stillAttached : engine ∈ attachments ready.resources.journal :=
    (phases.journal.filterMap _).subset attached
  -- The engine is still in use, and nobody can have it but the leg that had it at the wait.
  obtain ⟨mark, other, isLeg, otherHas⟩ :=
    phases.soundReady.mem_held_iff.mpr ⟨stillAttached, spared⟩
  rcases phases.origin other mark isLeg with
    ⟨_, recent, recentHas, new⟩ | ⟨otherMember, marked, fed⟩
  · cases otherHas.symm.trans recentHas
    exact absurd (settled.recent engine attached).2 (Nat.not_lt.mpr new)
  have engines : (before.table.gists.filterMap Session.engine).Nodup :=
    phases.sound.ledger.engines_ordered.imp Nat.ne_of_lt
  obtain rfl := eq_of_pick engines member otherMember has otherHas
  have faultless := reports.faultless _ (mem_watched member bound)
  obtain ⟨_, sent, sent_eq, waits⟩ := (fed socket bound).waiting_eq faultless
  have apartEngines := Exchange.nodup_legMarks phases.soundReady
    (phases.soundReady.ledger.engines_ordered.imp Nat.ne_of_lt)
  have apartSockets := Exchange.nodup_legMarks phases.soundReady phases.soundReady.wired.nodup
  obtain ⟨heard, left⟩ :=
    phases.handsOver.outcome apartEngines apartSockets phases.attended isLeg has bound
  cases mark with
  | true =>
    refine ⟨sent, ?_, ?_⟩
    · rw [heard, phases.hearings_eq, ← waits]
      rfl
    · rw [sendings_eq, sent_eq, Fabric.waiting, left]
      exact congrArg (_ ++ ·) (List.append_nil sent).symm
  | false =>
    -- Where something waits the wait has marked the leg, so nothing waited for this one.
    have nothing : before.resources.fabric.queue socket = [] := by
      apply Classical.byContradiction
      intro something
      have markedToo := reports.marked phases.sound member bound something
      have distinct := (phases.sound.of_quiet (quiet_wait before)).ledger.ids_nodup
      cases Table.mark_unique distinct marked markedToo
    have noneWaited : before.resources.fabric.waiting socket = [] :=
      congrArg Fabric.leadingDatagrams nothing
    rw [noneWaited, List.nil_append] at waits
    refine ⟨[], ?_, ?_⟩
    · rw [heard, phases.hearings_eq, noneWaited]
      rfl
    · rw [sendings_eq, sent_eq, Fabric.waiting, left, ← waits]
      rfl

/-- An engine that hears something is that of a leg that was marked and is not destroyed. -/
theorem marked {engine : Nat}
    (heard : hearings engine after.resources.journal ≠ hearings engine before.resources.journal) :
    engine ∉ retirements after.resources.journal ∧
      ∃ leg, (leg, true) ∈ (wait before).2.table.marks ∧ leg.engine = some engine := by
  have isMarked : ∃ leg, (leg, true) ∈ ready.table.legMarks ∧ leg.engine = some engine := by
    apply Classical.byContradiction
    intro nobody
    refine heard ((phases.handsOver.hearings_eq fun leg member has => ?_).trans
      (phases.hearings_eq engine))
    exact nobody ⟨leg, member, has⟩
  obtain ⟨leg, isLeg, has⟩ := isMarked
  constructor
  · rw [phases.handsOver.journal_rest.2.2]
    exact (phases.soundReady.mem_held_iff.mp ⟨true, leg, isLeg, has⟩).2
  · rcases phases.origin leg true isLeg with ⟨unmarked, _⟩ | ⟨_, marked, _⟩
    · cases unmarked
    · exact ⟨leg, marked, has⟩

end Phases

theorem poll_eq (gateway : Gateway) : gateway.poll.2.exchange =
    dispatch gateway.settings.bufferSize.toNat (wait gateway.exchange).1
      (wait gateway.exchange).2 := by
  simp only [poll]

/-- A datagram arrives at an endpoint from outside. -/
def arrive (address : Endpoint) (datagram : Endpoint × Payload) (exchange : Exchange) : Exchange :=
  { exchange with
    resources :=
      { exchange.resources with
        fabric := exchange.resources.fabric.deliver address (Fabric.arrival datagram) } }

theorem Reachable.arrive {settings : Settings} {exchange : Exchange}
    (reached : Reachable ⟨settings, exchange⟩) (address : Endpoint)
    (datagram : Endpoint × Payload) :
    Reachable ⟨settings, Gateway.arrive address datagram exchange⟩ :=
  reached.advanced (.beside (.network (.nothing _) (.arrived _ address _)))

/-- A relay with one call, for whose legs audio waits, one datagram and two, while another call is
requested. -/
def busy : Exchange :=
  arrive ⟨Ipv4.unspecified, 23232⟩
      (⟨Ipv4.loopback, 5000⟩, textBytes "SETUP 1 GT 127.0.0.1:4000".toList)
    (arrive ⟨Ipv4.loopback, 37001⟩ (⟨Ipv4.loopback, 4000⟩, [5, 6])
      (arrive ⟨Ipv4.loopback, 37001⟩ (⟨Ipv4.loopback, 4000⟩, [3, 4])
        (arrive ⟨Ipv4.loopback, 37000⟩ (⟨Ipv4.loopback, 5000⟩, [1, 2])
          (idle.exchange.signal 2048
            (⟨Ipv4.loopback, 5000⟩, textBytes "SETUP 0 GT 127.0.0.1:4000".toList)))))

end Gateway

end FaxRelay
