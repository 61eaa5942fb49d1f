import FaxRelay.Proofs.MediaAside
import FaxRelay.Proofs.Places

/-!
# Media does not show in signaling

Two gateways have started with the same settings, on networks that refuse the
same and on which others hold the same sockets. Both are given the same cues
(`Gateway.Cue`): the same signaling before the same rounds, while others open
and close the same sockets. The media may be different in every way, in what
arrives, from whom and how much, and in how far the bridges get; and it may come
between any two rounds and between any two steps of one (`Exchange.Round`). As
long as no bridge fails, no socket reports a fault and no leg would send to the
control socket, none of this can be told from the replies, the live sessions and
their places, the pools and the statistics (`Gateway.media_unobservable`).

Either gateway is compared with an exchange without any media
(`Gateway.Bare`). A round of it handles the signaling that was unread and drops
the closed slots, and is a function of the cues alone.
-/

set_option autoImplicit false

namespace FaxRelay

open FaxRelay.Media FaxRelay.Net FaxRelay.Pool FaxRelay.Signal

namespace Exchange

/-! ## Rounds with media in between -/

/-- Some signaling is handled, one datagram after the other, with media around each of them. -/
inductive Signaled (size : Nat) (address : Endpoint) :
    List (Endpoint × Payload) → Exchange → Exchange → Prop where
  | nothing {before after : Exchange} (media : Media address before after) :
      Signaled size address [] before after
  | next {before between after : Exchange} {datagram : Endpoint × Payload}
      {rest : List (Endpoint × Payload)} (media : Media address before between)
      (further : Signaled size address rest (between.signal size datagram) after) :
      Signaled size address (datagram :: rest) before after

/-- The control socket is read until it is empty, and everything that waited there is handled. -/
inductive TakesIn (size : Nat) (address : Endpoint) (before : Exchange) : Exchange → Prop where
  | drained {unmarked after : Exchange}
      (media : Media address { before with table := before.table.clearReadable 0 } unmarked)
      (signaled : Signaled size address (unmarked.resources.fabric.waiting address)
        (unmarked.drained address) after) :
      TakesIn size address before after

/-- The calls whose bridges have failed are destroyed, and the table is compacted, with media behind
the handling of each slot. -/
inductive Finishes (size : Nat) (address : Endpoint) (before : Exchange) : Exchange → Prop where
  | compacted {reaped : Exchange} {between : Nat → Exchange → Exchange}
      (media : Media address before.reap.2 reaped)
      (beside : ∀ index exchange, Media address exchange (between index exchange)) :
      Finishes size address before
        (reaped.compactWith fun index exchange =>
          between index (exchange.handleMedia size index)).2

/-- A round of a gateway that takes signaling at an endpoint, with media between its steps. Without
any report the control socket is not read. -/
inductive Round (size : Nat) (address : Endpoint) (before after : Exchange) : Prop where
  | idle {waited : Exchange} (silent : (Gateway.wait before).1 = 0)
      (media : Media address (Gateway.wait before).2 waited)
      (finishes : Finishes size address waited after)
  | busy {waited signaled : Exchange} (reports : 0 < (Gateway.wait before).1)
      (media : Media address (Gateway.wait before).2 waited)
      (takesIn : TakesIn size address waited signaled)
      (finishes : Finishes size address signaled after)

variable {reference exchange after : Exchange} {settings : Settings} {address : Endpoint}
  {unread : List (Endpoint × Payload)}

theorem signaled_foldl (size : Nat) (address : Endpoint) (datagrams : List (Endpoint × Payload))
    (exchange : Exchange) :
    Signaled size address datagrams exchange (datagrams.foldl (signal size) exchange) := by
  induction datagrams generalizing exchange with
  | nil => exact .nothing (.nothing exchange)
  | cons datagram rest ih => exact .next (.nothing exchange) (ih (exchange.signal size datagram))

/-- Without media in between the calls are destroyed and the table is compacted as they are. -/
theorem finishes_compact (size : Nat) (address : Endpoint) (before : Exchange) :
    Finishes size address before (before.reap.2.compact size).2 := by
  rw [compact_eq]
  exact @Finishes.compacted size address before _ (fun _ exchange => exchange) (.nothing _)
    fun _ exchange => .nothing exchange

/-- A round of a gateway is one with no media in between. -/
theorem Sound.round_poll (sound : exchange.Sound) {address : Endpoint}
    (listens : exchange.table.control?.bind Session.socket = some address) (settings : Settings) :
    Round settings.bufferSize.toNat address exchange
      (Gateway.poll ⟨settings, exchange⟩).2.exchange := by
  rw [Gateway.poll_eq, Gateway.dispatch]
  dsimp only
  by_cases reports : 0 < (Gateway.wait exchange).1
  · have waited := Gateway.quiet_wait exchange
    have cleared := quiet_clearReadable (Gateway.wait exchange).2 0
    have quiet := waited.trans cleared
    have still := sound.listens_of_gists (sound.of_quiet quiet) quiet.outline.gists_eq listens
    rw [if_pos reports, handleControl_eq still]
    exact .busy reports (.nothing _) (.drained (.nothing _) (signaled_foldl ..))
      (finishes_compact ..)
  · rw [if_neg reports]
    exact .idle (Nat.eq_zero_of_not_pos reports) (.nothing _) (finishes_compact ..)

/-! ## Following an exchange without media -/

/-- The exchange on another network. -/
def onto (fabric : Fabric) (exchange : Exchange) : Exchange :=
  { exchange with resources := { exchange.resources with fabric := fabric } }

/-- A gateway, in the state of an exchange, and the exchange without media with which it is
compared: the one tracks the other, with some signaling still unread, and there is as much room in
both tables. -/
structure Follows (settings : Settings) (address : Endpoint) (unread : List (Endpoint × Payload))
    (reference exchange : Exchange) : Prop where
  reached : Gateway.Reachable ⟨settings, exchange⟩
  roomy : maxMessageLength ≤ settings.bufferSize.toNat
  sound : reference.Sound
  listens : reference.table.control?.bind Session.socket = some address
  tracks : Tracks settings.bufferSize.toNat address unread reference exchange
  capacity_eq : exchange.table.capacity = reference.table.capacity
  size_eq : exchange.table.size = reference.table.size

namespace Follows

section Steps

variable (follows : Follows settings address unread reference exchange)
include follows

theorem listens_at :
    exchange.table.control?.bind Session.socket = some address :=
  follows.tracks.agrees.listens follows.sound follows.reached.sound follows.listens

/-- The relay holds the control socket. -/
theorem holds_control :
    exchange.resources.fabric.holder? address = some .relay := by
  obtain ⟨control, _, bound, member, _⟩ :=
    follows.reached.sound.control_of_listens follows.listens_at
  exact follows.reached.sound.wired.held _ (List.mem_filterMap.mpr ⟨_, member, bound⟩)

/-- What leaves everything at rest. -/
theorem rests (reached : Gateway.Reachable ⟨settings, after⟩)
    (rests : exchange.Rests address after)
    (size : after.table.size = exchange.table.size) :
    Follows settings address unread reference after :=
  { follows with
    reached := reached
    tracks := follows.tracks.rests rests
    capacity_eq := rests.capacity_eq.trans follows.capacity_eq
    size_eq := size.trans follows.size_eq }

theorem media (media : Media address exchange after) :
    Follows settings address unread reference after ∧
      after.resources.fabric.socket? address =
        exchange.resources.fabric.socket? address := by
  obtain ⟨rests, same⟩ := media.rests follows.reached.sound follows.reached.attained
    follows.tracks.calm follows.listens_at
  exact ⟨follows.rests (follows.reached.advanced (.beside media.beside)) rests
    media.beside.quiet.outline.size_eq, same⟩

theorem waited : Follows settings address unread reference (Gateway.wait exchange).2 :=
  follows.rests follows.reached.wait (follows.tracks.calm.rests_wait _)
    (Gateway.quiet_wait exchange).outline.size_eq

theorem unmarked :
    Follows settings address unread reference
      { exchange with table := exchange.table.clearReadable 0 } :=
  follows.rests (follows.reached.advanced (.unmarked exchange))
    ((exchange.rearranged_clearReadable 0).rests follows.tracks.calm _)
    (quiet_clearReadable exchange 0).outline.size_eq

/-- Reading the control socket yields echoes, and then what was unread. -/
theorem drained :
    Follows settings address [] reference (exchange.drained address) ∧
      ∃ echoes, exchange.resources.fabric.waiting address = echoes ++ unread ∧
        ∀ echo ∈ echoes, IsEcho settings.bufferSize.toNat echo := by
  obtain ⟨tracks, echoes⟩ :=
    follows.tracks.drained follows.sound follows.reached.sound follows.listens
  exact ⟨{ follows with
    reached := follows.reached.advanced (.drained exchange follows.listens_at)
    tracks := tracks }, echoes⟩

end Steps

section Signaling

variable (follows : Follows settings address [] reference exchange)
include follows

/-- An echo is ignored. -/
theorem echoed {echo : Endpoint × Payload} (ignored : IsEcho settings.bufferSize.toNat echo) :
    Follows settings address [] reference (exchange.signal settings.bufferSize.toNat echo) := by
  have reached := follows.reached.advanced (.signaled exchange echo)
  rw [signal_echo ignored] at reached ⊢
  exact follows.rests reached (follows.tracks.calm.rests_noting _ _ _)
    (quiet_heard exchange _ _).outline.size_eq

/-- A datagram that was unread is signaled to both. -/
theorem signaled (datagram : Endpoint × Payload) :
    Follows settings address [] (reference.signal settings.bufferSize.toNat datagram)
      (exchange.signal settings.bufferSize.toNat datagram) := by
  have sound := follows.sound
  have sound' := follows.reached.sound
  have room : reference.table.remaining < 2 ↔ exchange.table.remaining < 2 := by
    rw [Table.remaining, Table.remaining, follows.capacity_eq, follows.size_eq]
  obtain ⟨_, _, edit, _, table, table'⟩ :=
    follows.tracks.agrees.signal sound sound' settings.bufferSize.toNat datagram fun _ => room
  have noted := (quiet_heard reference datagram.1
    (datagram.2.take settings.bufferSize.toNat)).outline
  have noted' := (quiet_heard exchange datagram.1
    (datagram.2.take settings.bufferSize.toNat)).outline
  exact {
    reached := follows.reached.advanced (.signaled exchange datagram)
    roomy := follows.roomy
    sound := sound.signal _ datagram
    listens := sound.listens_signal follows.listens _ datagram
    tracks := follows.tracks.signal sound sound' follows.listens follows.roomy datagram
      fun _ => room
    capacity_eq := by
      rw [table, table', edit.capacity_apply, edit.capacity_apply]
      exact noted'.capacity_eq.trans (follows.capacity_eq.trans noted.capacity_eq.symm)
    size_eq := by
      rw [table, table', edit.size_apply, edit.size_apply]
      exact congrArg (· + 2 * edit.calls)
        (noted'.size_eq.trans (follows.size_eq.trans noted.size_eq.symm)) }

theorem signaledAll
    (signaled : Signaled settings.bufferSize.toNat address unread exchange after) :
    Follows settings address [] (unread.foldl (signal settings.bufferSize.toNat) reference)
      after := by
  induction unread generalizing reference exchange with
  | nil =>
    cases signaled with
    | nothing media => exact (follows.media media).1
  | cons datagram rest ih =>
    cases signaled with
    | next media further => exact ih ((follows.media media).1.signaled datagram) further

/-- The echoes in front of what was unread make no difference. -/
theorem signaledBehind {echoes : List (Endpoint × Payload)}
    (ignored : ∀ echo ∈ echoes, IsEcho settings.bufferSize.toNat echo)
    (signaled : Signaled settings.bufferSize.toNat address (echoes ++ unread)
      exchange after) :
    Follows settings address [] (unread.foldl (signal settings.bufferSize.toNat) reference)
      after := by
  induction echoes generalizing exchange with
  | nil => exact follows.signaledAll signaled
  | cons echo rest ih =>
    cases signaled with
    | next media further =>
      exact ih ((follows.media media).1.echoed (ignored echo List.mem_cons_self))
        (fun other member => ignored other (List.mem_cons_of_mem _ member)) further

/-- Throughout a scan of its table the gateway is at rest, and no slot in front of the target is
closed. -/
theorem scans {between : Nat → Exchange → Exchange}
    (beside : ∀ index exchange, Media address exchange (between index exchange)) :
    Scans (fun index exchange =>
        between index (exchange.handleMedia settings.bufferSize.toNat index))
      fun target later => exchange.Rests address later ∧
        Gateway.Attained ⟨settings, later⟩ ∧ later.table.DenseTo target where
  moved := by
    intro target source later slot scanning found live ⟨rests, attained, dense⟩
    exact ⟨rests.trans ((scanning.rearranged_move found).rests rests.calm _),
      attained.passed (.moved later target source), dense.moveUp scanning.order found live⟩
  handled := by
    intro target later slot sound behind found live ⟨rests, attained, dense⟩
    have sound' := follows.reached.sound
    have listens := follows.listens_at
    -- The mark of the slot is cleared.
    have cleared := quiet_clearReadable later target
    have soundCleared := sound.of_quiet cleared
    have restsCleared :=
      rests.trans ((rearranged_clearReadable later target).rests rests.calm _)
    have attainedCleared := attained.passed (.marked later target false)
    have foundCleared : (later.table.clearReadable target).slots[target]? =
        some { slot with descriptor := { slot.descriptor with readable := false } } := by
      simp [Table.clearReadable, Table.changeSlot, found]
    -- The media of the slot is handled.
    obtain ⟨passing, handled⟩ := soundCleared.rests_handleMedia restsCleared.calm
      (restsCleared.agrees.listens sound' soundCleared listens) settings.bufferSize.toNat
      foundCleared behind live
    have soundHandled := (soundCleared.handleMedia settings.bufferSize.toNat target).1
    have restsHandled := restsCleared.trans handled
    have attainedHandled :=
      attainedCleared.moments (soundCleared.moments_handleMedia target)
    -- And other media is passed on behind it.
    have media := beside target (handleMedia settings.bufferSize.toNat target
      { later with table := later.table.clearReadable target })
    have aside := (media.rests soundHandled attainedHandled restsHandled.calm
      (restsHandled.agrees.listens sound' soundHandled listens)).1
    exact ⟨restsHandled.trans aside, attainedHandled.moments media.beside.moments,
      dense.of_sameOutline
        ((cleared.outline.trans passing.outline).trans media.beside.quiet.outline)⟩

/-- **Compaction drops the closed slots** and does nothing else that would show, whatever media is
handled in it. -/
theorem compacted {between : Nat → Exchange → Exchange}
    (beside : ∀ index exchange, Media address exchange (between index exchange)) :
    Follows settings address [] reference.packed
        (exchange.compactWith fun index exchange =>
          between index (exchange.handleMedia settings.bufferSize.toNat index)).2 ∧
      (exchange.compactWith fun index exchange =>
        between index (exchange.handleMedia settings.bufferSize.toNat index)).2.table.Dense := by
  have besides := fun index exchange => (beside index exchange).beside
  have reached := follows.reached.advanced (.compacted exchange besides)
  obtain ⟨target, scanned, scanning, ⟨rests, _, dense⟩, same⟩ :=
    (follows.scans beside).compactWith (keeps_handleMedia besides) follows.reached.sound
      ⟨follows.tracks.calm.rests _, follows.reached.attained,
        follows.reached.sound.table.denseTo_one⟩
  rw [same] at reached ⊢
  have restsCut := rests.trans (scanning.rearranged_cut.rests rests.calm _)
  have tracks := follows.tracks.rests restsCut
  have agrees := (Agrees.of_rearranged reference.rearranged_packed).symm.trans tracks.agrees
  -- Without closed slots both tables have as many slots as live sessions.
  have size_eq := dense.take.size_eq.trans
    ((congrArg List.length agrees.gists_eq).trans reference.table.dense_packed.size_eq.symm)
  exact ⟨{
    reached := reached
    roomy := follows.roomy
    sound := follows.sound.packed
    listens := follows.sound.listens_of_gists follows.sound.packed
      reference.table.gists_packed follows.listens
    tracks := { tracks with agrees := agrees }
    capacity_eq := restsCut.capacity_eq.trans follows.capacity_eq
    size_eq := size_eq }, dense.take⟩

theorem finished
    (finishes : Finishes settings.bufferSize.toNat address exchange after) :
    Follows settings address [] reference.packed after ∧ after.table.Dense := by
  cases finishes with
  | compacted media beside =>
    rw [follows.tracks.calm.reap_eq] at media
    exact (follows.media media).1.compacted beside

end Signaling

/-- **A round shows only in the signaling that was unread.** -/
theorem round (follows : Follows settings address unread reference exchange)
    (ready : unread ≠ [] → exchange.resources.fabric.isReady address = true)
    (round : Round settings.bufferSize.toNat address exchange after) :
    Follows settings address []
        (unread.foldl (signal settings.bufferSize.toNat) reference).packed after ∧
      after.table.Dense := by
  cases round with
  | idle silent media finishes =>
    -- Whatever is unread would have been reported.
    have nothing : unread = [] := by
      refine Classical.byContradiction fun some => ?_
      exact Nat.ne_of_gt (follows.reached.sound.wait_pos follows.listens_at (ready some)) silent
    subst nothing
    exact (follows.waited.media media).1.finished finishes
  | busy reports media takesIn finishes =>
    cases takesIn with
    | drained media' signaled =>
      obtain ⟨start, echoes, waits, ignored⟩ :=
        (((follows.waited.media media).1.unmarked).media media').1.drained
      rw [waits] at signaled
      exact (start.signaledBehind ignored signaled).finished finishes

/-- The network changes for both in the same way, and leaves the control socket as it is. -/
theorem network (follows : Follows settings address unread reference exchange)
    {fabric fabric' : Fabric} (moved : exchange.resources.fabric.Outside fabric)
    (moved' : reference.resources.fabric.Outside fabric') (policy : fabric.policy = fabric'.policy)
    (holder : ∀ other, fabric.holder? other = fabric'.holder? other)
    (socket : fabric.socket? address =
      exchange.resources.fabric.socket? address)
    (faultless : ∀ other, exchange.resources.fabric.Faultless other → fabric.Faultless other) :
    Follows settings address unread (reference.onto fabric') (exchange.onto fabric) where
  reached := follows.reached.advanced (.beside (.network (.nothing exchange) moved))
  roomy := follows.roomy
  sound := follows.sound.of_quiet (quiet_fabric reference moved'.keeps)
  listens := follows.listens
  tracks := by
    obtain ⟨⟨gists_eq, alike, counters_eq⟩, _, dispatches_eq, calm, waits⟩ := follows.tracks
    refine ⟨⟨gists_eq, { alike with
        bindFault_eq := congrArg Policy.bindFault policy
        holder_eq := holder }, counters_eq⟩, policy, dispatches_eq,
      ⟨fun leg member other has => faultless other (calm.faultless leg member other has),
        calm.running⟩, ?_⟩
    show ∃ echoes, Fabric.leadingDatagrams (fabric.queue address) = _ ∧ _
    rw [Fabric.queue, socket]
    exact waits
  capacity_eq := follows.capacity_eq
  size_eq := follows.size_eq

end Follows

end Exchange

namespace Gateway

/-! ## Cues -/

/-- What two runs have in common. Some signaling arrives; somebody else opens or closes a socket;
from now on the network refuses other things; or the gateway goes through a round. -/
inductive Cue where
  | signaled (datagrams : List (Endpoint × Payload))
  | opened (address : Endpoint)
  | closed (address : Endpoint)
  | refusing (policy : Policy)
  | round

/-- What an exchange may become on a cue. -/
inductive Cue.Met (size : Nat) (address : Endpoint) : Cue → Exchange → Exchange → Prop where
  | signaled (exchange : Exchange) (datagrams : List (Endpoint × Payload)) :
      Met size address (.signaled datagrams) exchange (exchange.receivingAll address datagrams)
  | opened {exchange : Exchange} {other : Endpoint} {fabric : Fabric}
      (bound : exchange.resources.fabric.bind .outside other = .ok fabric) :
      Met size address (.opened other) exchange (exchange.onto fabric)
  | closed {exchange : Exchange} {other : Endpoint}
      (held : exchange.resources.fabric.holder? other = some .outside) :
      Met size address (.closed other) exchange
        (exchange.onto (exchange.resources.fabric.close other))
  | refusing (exchange : Exchange) (policy : Policy) :
      Met size address (.refusing policy) exchange
        (exchange.onto { exchange.resources.fabric with policy := policy })
  | round {before after : Exchange} (round : before.Round size address after) :
      Met size address .round before after

/-- The states to which some cues lead from a state of a gateway, with any media before, between and
behind them. -/
inductive Plays (first : Gateway) : List Cue → Gateway → Prop where
  | begun : Plays first [] first
  | media {cues : List Cue} {gateway : Gateway} {exchange : Exchange}
      (earlier : Plays first cues gateway)
      (media : gateway.exchange.Media first.signalingAddress exchange) :
      Plays first cues { gateway with exchange := exchange }
  | cued {cues : List Cue} {gateway : Gateway} {cue : Cue} {exchange : Exchange}
      (earlier : Plays first cues gateway)
      (met : cue.Met gateway.settings.bufferSize.toNat first.signalingAddress
        gateway.exchange exchange) :
      Plays first (cues ++ [cue]) { gateway with exchange := exchange }

/-! ## Without media -/

/-- An exchange without media, and the signaling that has arrived and was not read yet. -/
structure Bare where
  exchange : Exchange
  unread : List (Endpoint × Payload)

/-- What becomes of an exchange without media on a cue. -/
def Bare.after (size : Nat) (bare : Bare) : Cue → Bare
  | .signaled datagrams => { bare with unread := bare.unread ++ datagrams }
  | .opened address =>
    match bare.exchange.resources.fabric.bind .outside address with
    | .ok fabric => { bare with exchange := bare.exchange.onto fabric }
    | .error _ => bare
  | .closed address =>
    { bare with exchange := bare.exchange.onto (bare.exchange.resources.fabric.close address) }
  | .refusing policy =>
    { bare with
      exchange := bare.exchange.onto { bare.exchange.resources.fabric with policy := policy } }
  | .round => ⟨(bare.unread.foldl (Exchange.signal size) bare.exchange).packed, []⟩

/-- Between two rounds a gateway follows the exchange without media; it has no closed slots, and
what is unread will be reported. -/
structure Bare.Mirrored (settings : Settings) (address : Endpoint) (bare : Bare)
    (exchange : Exchange) : Prop where
  follows : Exchange.Follows settings address bare.unread bare.exchange exchange
  dense : exchange.table.Dense
  ready : bare.unread ≠ [] →
    exchange.resources.fabric.isReady address = true

namespace Bare.Mirrored

variable {settings : Settings} {address : Endpoint} {bare : Bare} {exchange after : Exchange}
  (mirrored : bare.Mirrored settings address exchange)
include mirrored

theorem media (media : exchange.Media address after) :
    bare.Mirrored settings address after := by
  obtain ⟨follows, same⟩ := mirrored.follows.media media
  refine ⟨follows, mirrored.dense.of_sameOutline media.beside.quiet.outline, fun some => ?_⟩
  rw [Fabric.isReady, same]
  exact mirrored.ready some

/-- What others do to the network. -/
theorem network {fabric fabric' : Fabric} (moved : exchange.resources.fabric.Outside fabric)
    (moved' : bare.exchange.resources.fabric.Outside fabric')
    (policy : fabric.policy = fabric'.policy)
    (holder : ∀ other, fabric.holder? other = fabric'.holder? other)
    (socket : fabric.socket? address =
      exchange.resources.fabric.socket? address)
    (faultless : ∀ other, exchange.resources.fabric.Faultless other → fabric.Faultless other) :
    Bare.Mirrored settings address { bare with exchange := bare.exchange.onto fabric' }
      (exchange.onto fabric) := by
  refine ⟨mirrored.follows.network moved moved' policy holder socket faultless, mirrored.dense,
    fun some => ?_⟩
  show fabric.isReady address = true
  rw [Fabric.isReady, socket]
  exact mirrored.ready some

/-- Signaling that arrives is unread. -/
theorem receiving (datagrams : List (Endpoint × Payload)) :
    Bare.Mirrored settings address { bare with unread := bare.unread ++ datagrams }
      (exchange.receivingAll address datagrams) := by
  have follows := mirrored.follows
  have arrived := (Exchange.Beside.nothing exchange).receivingAll address datagrams
  obtain ⟨tracks, ready⟩ := follows.tracks.receivingAll follows.sound follows.reached.sound
    follows.listens datagrams
  refine ⟨{ follows with
    reached := follows.reached.advanced (.beside arrived)
    tracks := tracks }, mirrored.dense, fun some => ?_⟩
  by_cases nothing : datagrams = []
  · subst nothing
    rw [List.append_nil] at some
    exact mirrored.ready some
  · exact ready nothing

/-- **On a cue a gateway becomes what the exchange without media becomes.** -/
theorem met {cue : Cue}
    (met : cue.Met settings.bufferSize.toNat address exchange after) :
    (bare.after settings.bufferSize.toNat cue).Mirrored settings address after := by
  have held := mirrored.follows.holds_control
  have policy := mirrored.follows.tracks.policy_eq
  have holders := mirrored.follows.tracks.agrees.alike.holder_eq
  cases met with
  | signaled _ datagrams => exact mirrored.receiving datagrams
  | @opened _ other fabric bound =>
    obtain ⟨fabric', bound'⟩ := Fabric.exists_bind policy holders bound
    have differs : address ≠ other := by
      rintro rfl
      rw [Fabric.holder?, (Fabric.bind_eq_ok bound).1] at held
      cases held
    rw [Bare.after, bound']
    refine mirrored.network (.opened bound) (.opened bound') ?_ (fun third => ?_) ?_
      fun third faultless => faultless.of_queue_eq (Fabric.queue_bind bound third)
    · rw [Fabric.policy_bind bound, Fabric.policy_bind bound', policy]
    · rw [Fabric.holder?_bind bound, Fabric.holder?_bind bound', holders]
    · rw [Fabric.socket?_bind bound, if_neg differs]
  | @closed _ other foreign =>
    have differs : address ≠ other := by
      rintro rfl
      cases held.symm.trans foreign
    obtain ⟨socket, found, outside⟩ := Option.map_eq_some_iff.mp foreign
    obtain ⟨socket', found', outside'⟩ :=
      Option.map_eq_some_iff.mp ((holders other).symm.trans foreign)
    refine mirrored.network (.closed found outside) (.closed found' outside') policy
      (fun third => ?_) ?_ fun third faultless => faultless.close other
    · rw [Fabric.holder?_close, Fabric.holder?_close, holders]
    · rw [Fabric.socket?_close, if_neg differs]
  | refusing _ refused =>
    exact mirrored.network (.policy _ refused) (.policy _ refused) rfl holders rfl
      fun _ faultless => faultless
  | round round =>
    obtain ⟨follows, dense⟩ := mirrored.follows.round mirrored.ready round
    exact ⟨follows, dense, fun some => absurd rfl some⟩

end Bare.Mirrored

/-! ## Two runs -/

section Start

variable {settings : Settings} {supply : EngineSupply} {fabric fabric' : Fabric}
  {first first' : Gateway} (started : start settings supply fabric = .ok first)
  (started' : start settings supply fabric' = .ok first')
  (policy : fabric'.policy = fabric.policy)
  (holders : ∀ address, fabric'.holder? address = fabric.holder? address)
include started started' policy holders

/-- Both networks place the control socket at the same endpoint. -/
theorem signalingAddress_start : first'.signalingAddress = first.signalingAddress :=
  Except.ok.inj ((placed_start started').symm.trans
    ((Fabric.place_congr policy holders settings.controlAddress).trans (placed_start started)))

/-- What waits in the sockets of others does not show when a gateway starts. -/
theorem mirrored_start :
    Bare.Mirrored settings first.signalingAddress ⟨first.exchange, []⟩ first'.exchange := by
  have here := signalingAddress_start started started' policy holders
  obtain ⟨placed, id, ids, opened, found, issued, bound, resources, table⟩ :=
    start_resources started
  obtain ⟨placed', id', ids', opened', found', issued', bound', resources', table'⟩ :=
    start_resources started'
  cases issued.symm.trans issued'
  rw [Fabric.place_congr policy holders, found] at found'
  cases found'
  have sameTable : first'.exchange.table = first.exchange.table := table'.trans table.symm
  have samePolicy : opened'.policy = opened.policy := by
    rw [Fabric.policy_bind bound, Fabric.policy_bind bound', policy]
  have alike : first.exchange.resources.Alike first'.exchange.resources := by
    rw [resources, resources', policy]
    refine { Resources.Alike.refl _ with
      bindFault_eq := congrArg Policy.bindFault samePolicy
      holder_eq := fun address => ?_ }
    show opened'.holder? address = opened.holder? address
    rw [Fabric.holder?_bind bound, Fabric.holder?_bind bound', holders]
  have counters : first'.exchange.counters = first.exchange.counters := by
    obtain ⟨_, _, _, _, _, _, _, _, zero⟩ := start_eq_ok started
    obtain ⟨_, _, _, _, _, _, _, _, zero'⟩ := start_eq_ok started'
    rw [zero, zero']
  have own := tracks_start started' settings.bufferSize.toNat
  rw [here] at own
  refine ⟨{
    reached := by
      rw [← (start_eq_ok started').2.1]
      exact .started started'
    roomy := (Settings.bounds_of_validate (start_eq_ok started).1).2.2.2.2.2
    sound := sound_start started
    listens := listening_start started
    tracks := { own with
      agrees := ⟨congrArg Table.gists sameTable, alike, counters⟩
      policy_eq := by
        rw [resources, resources']
        exact samePolicy
      dispatches_eq := by
        rw [resources, resources']
        rfl }
    capacity_eq := congrArg Table.capacity sameTable
    size_eq := congrArg Table.size sameTable }, fun slot member => ?_,
    fun some => absurd rfl some⟩
  rw [table'] at member
  cases List.mem_singleton.mp member
  rfl

/-- **However media comes in between, the cues lead to what they make of the exchange without it.**
-/
theorem Plays.mirrored {gateway : Gateway} {cues : List Cue} (plays : first'.Plays cues gateway) :
    gateway.settings = settings ∧
      (cues.foldl (Bare.after settings.bufferSize.toNat) ⟨first.exchange, []⟩).Mirrored settings
        first.signalingAddress gateway.exchange := by
  have own := (start_eq_ok started').2.1
  have here := signalingAddress_start started started' policy holders
  induction plays with
  | begun => exact ⟨own, mirrored_start started started' policy holders⟩
  | media earlier media ih =>
    obtain ⟨same, mirrored⟩ := ih
    rw [here] at media
    exact ⟨same, mirrored.media media⟩
  | cued earlier met ih =>
    obtain ⟨same, mirrored⟩ := ih
    rw [same, here] at met
    rw [List.foldl_append]
    exact ⟨same, mirrored.met met⟩

end Start

/-- Signaling that arrives and a round of the gateway are two of the cues. -/
theorem Plays.takeIn {settings : Settings} {supply : EngineSupply} {fabric : Fabric}
    {first gateway : Gateway} {cues : List Cue} (started : start settings supply fabric = .ok first)
    (plays : first.Plays cues gateway) (batch : List (Endpoint × Payload)) :
    first.Plays (cues ++ [.signaled batch] ++ [.round]) (gateway.takeIn batch) := by
  have received := plays.cued (.signaled gateway.exchange batch)
  obtain ⟨same, mirrored⟩ := received.mirrored started started rfl fun _ => rfl
  have here : gateway.signalingAddress = first.signalingAddress :=
    signalingAddress_eq mirrored.follows.listens_at
  have round := mirrored.follows.reached.sound.round_poll mirrored.follows.listens_at settings
  rw [← same] at round
  have taken : gateway.takeIn batch =
      { gateway with exchange := (gateway.takeIn batch).exchange } := by
    rw [← gateway.settings_takeIn batch]
  rw [taken, Gateway.takeIn, here]
  exact received.cued (.round round)

/-- **Media does not show in signaling.** Two gateways that have started with the same settings, on
networks that refuse the same and on which others hold the same sockets, and that are given the same
cues, come to the same, whatever media passes through either of them. Their live sessions stand at
the same places, too. -/
theorem media_unobservable {settings : Settings} {supply : EngineSupply} {fabric fabric' : Fabric}
    {first first' left right : Gateway} {cues : List Cue}
    (started : start settings supply fabric = .ok first)
    (started' : start settings supply fabric' = .ok first')
    (policy : fabric'.policy = fabric.policy)
    (holders : ∀ address, fabric'.holder? address = fabric.holder? address)
    (plays : first.Plays cues left) (plays' : first'.Plays cues right) :
    SameOutcome first.signalingAddress left right ∧
      left.exchange.table.liveSessions.map Session.standing =
        right.exchange.table.liveSessions.map Session.standing := by
  obtain ⟨_, mirrored⟩ := plays.mirrored started started rfl fun _ => rfl
  obtain ⟨_, mirrored'⟩ := plays'.mirrored started started' policy holders
  have gists : left.exchange.table.gists = right.exchange.table.gists :=
    mirrored.follows.tracks.agrees.gists_eq.trans
      mirrored'.follows.tracks.agrees.gists_eq.symm
  refine ⟨.of_tracks mirrored.follows.tracks mirrored'.follows.tracks
    mirrored.follows.reached.sound mirrored'.follows.reached.sound, ?_⟩
  rw [mirrored.dense.standings_eq mirrored.follows.reached.placed,
    mirrored'.dense.standings_eq mirrored'.follows.reached.placed, gists]

/-- A peer requests a call. -/
def dialing : Endpoint × Payload :=
  (⟨Ipv4.loopback, 5000⟩, textBytes "SETUP 0 GT 127.0.0.1:4000".toList)

/-- A peer releases its call. -/
def hangingUp : Endpoint × Payload := (⟨Ipv4.loopback, 5000⟩, textBytes "RELEASE 0".toList)

/-- A call is requested, and in the round in which it is released, so is another one. -/
def twoCalls : List Cue :=
  [.signaled [dialing], .round, .signaled [], .round, .signaled [hangingUp, dialing], .round]

/-- A relay in which nothing is said in these calls. -/
def silent : Gateway := ((idle.takeIn [dialing]).takeIn []).takeIn [hangingUp, dialing]

/-- Something is said to either leg of the first call. -/
def spokenTo (exchange : Exchange) : Exchange :=
  (exchange.receivingAll ⟨Ipv4.loopback, 37000⟩ [(⟨Ipv4.loopback, 5000⟩, [1, 2])]).receivingAll
    ⟨Ipv4.loopback, 37001⟩ [(⟨Ipv4.loopback, 4000⟩, [3, 4]), (⟨Ipv4.loopback, 4000⟩, [5, 6])]

theorem media_spokenTo (exchange : Exchange) :
    Exchange.Media ⟨Ipv4.unspecified, 23232⟩ exchange (spokenTo exchange) :=
  ((Exchange.Media.nothing exchange).arrived (by decide) _).arrived (by decide) _

/-- What was said in the first call is passed on. -/
def chatting : Exchange :=
  (takeIn ⟨{}, spokenTo (idle.takeIn [dialing]).exchange⟩ []).exchange.runBridge 1 1

/-- A relay in which more is said, before the call is released. -/
def chatted : Gateway := takeIn ⟨{}, spokenTo chatting⟩ [hangingUp, dialing]

/-- Whether anything is said in the first call or not, the second call, which is entered behind it,
ends up in its places. -/
theorem media_unobservable_chatted :
    start {} .unfailing .loopback = .ok idle ∧ idle.Plays twoCalls silent ∧
      idle.Plays twoCalls chatted ∧
      (List.range 4).map (fun engine => sentAudio engine silent.exchange.resources.journal) =
        [[], [], [], []] ∧
      (List.range 4).map (fun engine => sentAudio engine chatted.exchange.resources.journal) =
        [[772, 1286], [258], [], []] ∧
      SameOutcome ⟨Ipv4.unspecified, 23232⟩ silent chatted ∧
      silent.exchange.table.liveSessions.map Session.standing =
        chatted.exchange.table.liveSessions.map Session.standing := by
  have dialed := Plays.begun.takeIn start_idle [dialing]
  have quiet : idle.Plays twoCalls silent :=
    (dialed.takeIn start_idle []).takeIn start_idle [hangingUp, dialing]
  have heard := (dialed.media (media_spokenTo _)).takeIn start_idle []
  have passed := heard.media (.bridged (.nothing _) (by unfold Exchange.Outward; decide +kernel) 1 1
    (by unfold Table.Running; decide +kernel))
  have noisy : idle.Plays twoCalls chatted :=
    (passed.media (media_spokenTo chatting)).takeIn start_idle [hangingUp, dialing]
  exact ⟨start_idle, quiet, noisy, by decide +kernel, by decide +kernel,
    media_unobservable start_idle start_idle rfl (fun _ => rfl) quiet noisy⟩

end Gateway

end FaxRelay
