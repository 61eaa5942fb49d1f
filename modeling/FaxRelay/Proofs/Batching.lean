import FaxRelay.Proofs.Calm

/-!
# How signaling is cut does not matter

A gateway that has just started is given some signaling, in batches with a round
after each (`Gateway.Batched`). As long as its table cannot fill up, it makes no
difference where one batch ends and the next one begins: the replies and their
addressees are the same, and so are the live sessions, both pools and the
statistics.

All cuts are compared with one exchange, to which the datagrams are signaled one
after the other without any rounds between them, so that no closed slot is ever
dropped there (`Exchange.Tracks`). What a round does besides signaling leaves the
exchange at rest; and what came back to the control socket meanwhile, because
the relay was made to answer itself, is ignored when it is read.
-/

set_option autoImplicit false

namespace FaxRelay

open FaxRelay.Media FaxRelay.Net FaxRelay.Pool FaxRelay.Signal

/-! ## Arrivals -/

namespace Net.Fabric

/-- The network after a batch of datagrams has arrived at an endpoint. -/
def deliverAll (fabric : Fabric) (address : Endpoint) (batch : List (Endpoint × Payload)) :
    Fabric :=
  batch.foldl (fun fabric datagram => fabric.deliver address (arrival datagram)) fabric

section Delivery

variable (fabric : Fabric) (address : Endpoint) (batch : List (Endpoint × Payload))

theorem policy_deliverAll : (fabric.deliverAll address batch).policy = fabric.policy := by
  induction batch generalizing fabric with
  | nil => rfl
  | cons datagram rest ih => exact ih (fabric.deliver address (arrival datagram))

theorem holder?_deliver (arrived : Arrival) (other : Endpoint) :
    (fabric.deliver address arrived).holder? other = fabric.holder? other :=
  holder?_update address other fun _ => rfl

theorem holder?_deliverAll (other : Endpoint) :
    (fabric.deliverAll address batch).holder? other = fabric.holder? other := by
  induction batch generalizing fabric with
  | nil => rfl
  | cons datagram rest ih => exact (ih _).trans (fabric.holder?_deliver address _ other)

variable {fabric}

theorem queue_deliverAll {other : Endpoint} (bound : (fabric.holder? other).isSome = true) :
    (fabric.deliverAll address batch).queue other =
      fabric.queue other ++ if other = address then batch.map arrival else [] := by
  induction batch generalizing fabric with
  | nil => simp [deliverAll]
  | cons datagram rest ih =>
    have still : ((fabric.deliver address (arrival datagram)).holder? other).isSome = true := by
      rw [holder?_deliver]
      exact bound
    refine (ih still).trans ?_
    rw [queue_deliver _ bound]
    split <;> simp

/-- A wait reports the socket in which something has arrived. -/
theorem isReady_deliverAll (bound : (fabric.holder? address).isSome = true) (some : batch ≠ []) :
    (fabric.deliverAll address batch).isReady address = true := by
  induction batch generalizing fabric with
  | nil => exact absurd rfl some
  | cons datagram rest ih =>
    cases rest with
    | nil =>
      show (fabric.deliver address (arrival datagram)).isReady address = true
      rw [isReady, deliver, socket?_update, if_pos rfl]
      cases found : fabric.socket? address with
      | none => simp [holder?, found] at bound
      | some socket => simp
    | cons next others =>
      refine ih ?_ (List.cons_ne_nil _ _)
      rw [holder?_deliver]
      exact bound

theorem Faultless.deliverAll {other : Endpoint} (faultless : fabric.Faultless other) :
    (fabric.deliverAll address batch).Faultless other := by
  induction batch generalizing fabric with
  | nil => exact faultless
  | cons datagram rest ih => exact ih (faultless.deliver address datagram)

/-- What is found at any other endpoint stays as it is. -/
theorem socket?_deliverAll_ne {other : Endpoint} (elsewhere : other ≠ address) :
    (fabric.deliverAll address batch).socket? other = fabric.socket? other := by
  induction batch generalizing fabric with
  | nil => rfl
  | cons datagram rest ih =>
    have delivered : (fabric.deliver address (arrival datagram)).socket? other =
        fabric.socket? other := by rw [deliver, socket?_update, if_neg elsewhere]
    exact ih.trans delivered

end Delivery

end Net.Fabric

namespace Exchange

/-- The exchange after a batch of datagrams has arrived at an endpoint. -/
def receivingAll (address : Endpoint) (batch : List (Endpoint × Payload)) (exchange : Exchange) :
    Exchange :=
  { exchange with
    resources :=
      { exchange.resources with
        fabric := exchange.resources.fabric.deliverAll address batch } }

variable {reference exchange after : Exchange} {size : Nat} {address : Endpoint}

/-- Datagrams arrive beside whatever the gateway does. -/
theorem Beside.receivingAll {before after : Exchange} (beside : Beside before after)
    (address : Endpoint) (batch : List (Endpoint × Payload)) :
    Beside before (after.receivingAll address batch) := by
  induction batch generalizing after with
  | nil => exact beside
  | cons datagram rest ih =>
    exact ih (beside.network (.arrived _ address (Fabric.arrival datagram)))

/-- Datagrams that arrive leave an exchange calm. -/
theorem Calm.receivingAll (calm : exchange.Calm) (address : Endpoint)
    (batch : List (Endpoint × Payload)) : (exchange.receivingAll address batch).Calm :=
  ⟨fun leg member other has => (calm.faultless leg member other has).deliverAll address batch,
    calm.running⟩

/-! ## Comparing with one exchange -/

/-- An exchange and the one with which it is compared: they agree, have sent the same from the
control socket over networks that refuse the same, and the former is calm, with some datagrams still
unread in its control socket, behind nothing but echoes. -/
structure Tracks (size : Nat) (address : Endpoint) (unread : List (Endpoint × Payload))
    (reference exchange : Exchange) : Prop where
  agrees : reference.Agrees exchange
  policy_eq : exchange.resources.fabric.policy = reference.resources.fabric.policy
  dispatches_eq : dispatches address exchange.resources.journal =
    dispatches address reference.resources.journal
  calm : exchange.Calm
  waits : ∃ echoes, exchange.resources.fabric.waiting address = echoes ++ unread ∧
    ∀ echo ∈ echoes, IsEcho size echo

theorem Tracks.rests {unread : List (Endpoint × Payload)}
    (tracks : Tracks size address unread reference exchange)
    (rests : exchange.Rests address after) : Tracks size address unread reference after where
  agrees := tracks.agrees.trans rests.agrees
  policy_eq := rests.policy_eq.trans tracks.policy_eq
  dispatches_eq := rests.dispatches_eq.trans tracks.dispatches_eq
  calm := rests.calm
  waits := by
    rw [Fabric.waiting, rests.queue_eq]
    exact tracks.waits

/-- What arrives at the control socket is unread. -/
theorem Tracks.receivingAll {unread : List (Endpoint × Payload)}
    (tracks : Tracks size address unread reference exchange)
    (sound : reference.Sound) (sound' : exchange.Sound)
    (listens : reference.table.control?.bind Session.socket = some address)
    (batch : List (Endpoint × Payload)) :
    Tracks size address (unread ++ batch) reference (exchange.receivingAll address batch) ∧
      (batch ≠ [] →
        (exchange.receivingAll address batch).resources.fabric.isReady address = true) := by
  obtain ⟨agrees, policy_eq, dispatches_eq, calm, echoes, waits, ignored⟩ := tracks
  obtain ⟨control, _, bound, member, _⟩ :=
    sound'.control_of_listens (agrees.listens sound sound' listens)
  have held := sound'.mem_sockets_bound (List.mem_filterMap.mpr ⟨_, member, bound⟩)
  have queue := Fabric.queue_deliverAll address batch held
  rw [if_pos rfl, (calm.faultless _ member address bound).queue_eq, ← List.map_append] at queue
  have alike : exchange.resources.Alike (exchange.receivingAll address batch).resources :=
    { Resources.Alike.refl exchange.resources with
      bindFault_eq := congrArg Policy.bindFault (Fabric.policy_deliverAll _ address batch)
      holder_eq := Fabric.holder?_deliverAll _ address batch }
  refine ⟨⟨agrees.trans ⟨rfl, alike, rfl⟩, (Fabric.policy_deliverAll ..).trans policy_eq,
    dispatches_eq, calm.receivingAll address batch, echoes, ?_, ignored⟩,
    Fabric.isReady_deliverAll address batch held⟩
  show Fabric.leadingDatagrams
    ((exchange.resources.fabric.deliverAll address batch).queue address) = _
  rw [queue, Fabric.leadingDatagrams_map, waits, List.append_assoc]

/-- What is left in the control socket is read and ignored. -/
theorem Calm.rests_echoes (calm : exchange.Calm) (address : Endpoint)
    {echoes : List (Endpoint × Payload)} (ignored : ∀ echo ∈ echoes, IsEcho size echo) :
    exchange.Rests address (echoes.foldl (Exchange.signal size) exchange) := by
  induction echoes generalizing exchange with
  | nil => exact calm.rests address
  | cons echo rest ih =>
    have noted := calm.rests_noting address echo.1 (echo.2.take size)
    rw [List.foldl_cons, signal_echo (ignored echo List.mem_cons_self)]
    exact noted.trans
      (ih noted.calm fun other member => ignored other (List.mem_cons_of_mem _ member))

/-- The next datagram is signaled to both. When it asks for a call, there is room for it in both
tables or in neither. -/
theorem Tracks.signal (tracks : Tracks size address [] reference exchange) (sound : reference.Sound)
    (sound' : exchange.Sound)
    (listens : reference.table.control?.bind Session.socket = some address)
    (roomy : maxMessageLength ≤ size) (datagram : Endpoint × Payload)
    (room : asksForCall (datagram.2.take size) = true →
      (reference.table.remaining < 2 ↔ exchange.table.remaining < 2)) :
    Tracks size address [] (reference.signal size datagram) (exchange.signal size datagram) := by
  have listens' := tracks.agrees.listens sound sound' listens
  obtain ⟨reply, alongside⟩ := tracks.agrees.signal sound sound' size datagram room
  obtain ⟨replies, replied, sent⟩ := sound.dispatches_signal listens size datagram
  obtain ⟨replies', replied', sent'⟩ := sound'.dispatches_signal listens' size datagram
  rw [← reply] at replied'
  obtain rfl := replied'.unique replied
  obtain ⟨echoes, waits, ignored⟩ := sound'.waiting_signal tracks.calm listens' roomy datagram
  refine ⟨alongside.agrees, ?_, ?_, sound'.calm_signal tracks.calm size datagram, ?_⟩
  · rw [sound'.policy_signal, sound.policy_signal, tracks.policy_eq]
  · rw [sent', sent, tracks.dispatches_eq, tracks.policy_eq]
  · obtain ⟨before, waited, ignoredBefore⟩ := tracks.waits
    refine ⟨before ++ echoes, by rw [waits, waited, List.append_nil, List.append_nil], ?_⟩
    intro echo member
    rcases List.mem_append.mp member with member | member
    · exact ignoredBefore echo member
    · exact ignored echo member

/-- How many of some datagrams ask for a call, as far as they are read. -/
def requests (size : Nat) (datagrams : List (Endpoint × Payload)) : Nat :=
  datagrams.countP fun datagram => asksForCall (datagram.2.take size)

/-- A batch is signaled to both, and the room for what comes later is left. -/
theorem Tracks.signals (tracks : Tracks size address [] reference exchange)
    (sound : reference.Sound) (sound' : exchange.Sound)
    (listens : reference.table.control?.bind Session.socket = some address)
    (roomy : maxMessageLength ≤ size) (batch later : List (Endpoint × Payload))
    (room : reference.HasRoom (requests size (batch ++ later)))
    (room' : exchange.HasRoom (requests size (batch ++ later))) :
    Tracks size address [] (batch.foldl (Exchange.signal size) reference)
        (batch.foldl (Exchange.signal size) exchange) ∧
      (batch.foldl (Exchange.signal size) reference).HasRoom (requests size later) ∧
      (batch.foldl (Exchange.signal size) exchange).HasRoom (requests size later) := by
  induction batch generalizing reference exchange with
  | nil => exact ⟨tracks, room, room'⟩
  | cons datagram rest ih =>
    have count : requests size (datagram :: rest ++ later) =
        requests size (rest ++ later) +
          if asksForCall (datagram.2.take size) then 1 else 0 := List.countP_cons ..
    rw [count] at room room'
    refine ih (tracks.signal sound sound' listens roomy datagram fun asks => ?_)
      (sound.signal size datagram) (sound'.signal size datagram)
      (sound.listens_signal listens size datagram) (sound.hasRoom_signal room)
      (sound'.hasRoom_signal room')
    rw [if_pos asks] at room room'
    exact iff_of_false room.not_tight room'.not_tight

/-! ## A round -/

/-- What waits in the control socket is read: echoes, and then what was unread. -/
theorem Tracks.drained {unread : List (Endpoint × Payload)}
    (tracks : Tracks size address unread reference exchange) (sound : reference.Sound)
    (sound' : exchange.Sound)
    (listens : reference.table.control?.bind Session.socket = some address) :
    Tracks size address [] reference (exchange.drained address) ∧
      ∃ echoes, exchange.resources.fabric.waiting address = echoes ++ unread ∧
        ∀ echo ∈ echoes, IsEcho size echo := by
  obtain ⟨control, _, bound, member, _⟩ :=
    sound'.control_of_listens (tracks.agrees.listens sound sound' listens)
  have clean := tracks.calm.faultless _ member address bound
  refine ⟨⟨tracks.agrees.trans (.of_passing (exchange.passing_drain address)), tracks.policy_eq,
    tracks.dispatches_eq, ⟨fun leg member other has cause waits => ?_, tracks.calm.running⟩,
    [], ?_, fun _ member => by cases member⟩, tracks.waits⟩
  · change _ ∈ (exchange.resources.fabric.drain address).2.queue other at waits
    rw [clean.queue_drain] at waits
    split at waits
    · cases waits
    · exact tracks.calm.faultless leg member other has cause waits
  · change Fabric.leadingDatagrams ((exchange.resources.fabric.drain address).2.queue address) = _
    rw [clean.queue_drain, if_pos rfl]
    rfl

/-- Without failed bridges, there is nothing to reap. -/
theorem Calm.reap_eq (calm : exchange.Calm) : exchange.reap = (0, exchange) := by
  have none : exchange.table.failedBridges = [] := by
    rw [Table.failedBridges, List.map_eq_nil_iff, List.filter_eq_nil_iff]
    intro entry member
    simp [calm.running entry.1 (List.fst_mem_of_mem_zipIdx member)]
  rw [reap, none]
  rfl

/-- When something has arrived at the control socket, a wait reports it. -/
theorem Sound.wait_pos (sound : exchange.Sound)
    (listens : exchange.table.control?.bind Session.socket = some address)
    (ready : exchange.resources.fabric.isReady address = true) :
    0 < (Gateway.wait exchange).1 := by
  obtain ⟨control, _, bound, member, _⟩ := sound.control_of_listens listens
  have reports : control.gist.id ∈ Gateway.reported exchange :=
    List.mem_map.mpr ⟨_, List.mem_filter.mpr ⟨Gateway.mem_watched member bound, ready⟩, rfl⟩
  exact List.length_pos_of_mem reports

section Round

variable {unread : List (Endpoint × Payload)}
  (tracks : Tracks size address unread reference exchange) (sound : reference.Sound)
  (sound' : exchange.Sound)
  (listens : reference.table.control?.bind Session.socket = some address)
  (roomy : maxMessageLength ≤ size) (later : List (Endpoint × Payload))
  (room : reference.HasRoom (requests size (unread ++ later)))
  (room' : exchange.HasRoom (requests size (unread ++ later)))
include tracks sound sound' listens roomy room room'

/-- Handling the control socket ignores the echoes and signals what was unread. -/
theorem Tracks.handleControl :
    (exchange.handleControl size).Sound ∧
      Tracks size address [] (unread.foldl (Exchange.signal size) reference)
        (exchange.handleControl size) ∧
      (unread.foldl (Exchange.signal size) reference).HasRoom (requests size later) ∧
      (exchange.handleControl size).HasRoom (requests size later) := by
  obtain ⟨start, echoes, waits, ignored⟩ := tracks.drained sound sound' listens
  have listens' := tracks.agrees.listens sound sound' listens
  have soundStart := sound'.drained address
  have ignoring := start.calm.rests_echoes address ignored
  have soundIgnoring := (soundStart.carried_signals size echoes).1
  have handled : exchange.handleControl size = unread.foldl (Exchange.signal size)
      (echoes.foldl (Exchange.signal size) (exchange.drained address)) := by
    rw [handleControl_eq listens', ← List.foldl_append, ← waits]
    rfl
  have roomStart : (exchange.drained address).HasRoom (requests size (unread ++ later)) := room'
  rw [handled]
  exact ⟨(soundIgnoring.carried_signals size unread).1,
    (start.rests ignoring).signals sound soundIgnoring listens roomy unread later room
      (roomStart.rests ignoring)⟩

/-- **A round signals what was unread** and leaves everything else at rest. -/
theorem Tracks.poll {settings : Settings} (buffer : size = settings.bufferSize.toNat)
    (ready : unread ≠ [] → exchange.resources.fabric.isReady address = true) :
    Tracks size address [] (unread.foldl (Exchange.signal size) reference)
        (Gateway.poll ⟨settings, exchange⟩).2.exchange ∧
      (unread.foldl (Exchange.signal size) reference).HasRoom (requests size later) ∧
      (Gateway.poll ⟨settings, exchange⟩).2.exchange.HasRoom (requests size later) := by
  subst buffer
  have waited := tracks.calm.rests_wait address
  have tracksWaited := tracks.rests waited
  have soundWaited := sound'.of_quiet (Gateway.quiet_wait exchange)
  obtain ⟨signaled, made, soundSignaled, tracksSignaled, left, left'⟩ : ∃ signaled,
      (if 0 < (Gateway.wait exchange).1 then
        Exchange.handleControl settings.bufferSize.toNat
          { (Gateway.wait exchange).2 with
            table := (Gateway.wait exchange).2.table.clearReadable 0 }
        else (Gateway.wait exchange).2) = signaled ∧ signaled.Sound ∧
      Tracks settings.bufferSize.toNat address []
        (unread.foldl (Exchange.signal settings.bufferSize.toNat) reference) signaled ∧
      (unread.foldl (Exchange.signal settings.bufferSize.toNat) reference).HasRoom
        (requests settings.bufferSize.toNat later) ∧
      signaled.HasRoom (requests settings.bufferSize.toNat later) := by
    split
    · have cleared := ((Gateway.wait exchange).2.rearranged_clearReadable 0).rests
        tracksWaited.calm address
      exact ⟨_, rfl, (tracksWaited.rests cleared).handleControl sound
        (soundWaited.of_quiet (quiet_clearReadable _ 0)) listens roomy later room
        ((room'.rests waited).rests cleared)⟩
    · next idle =>
      -- If anything were unread, the wait would have reported the control socket.
      have nothing : unread = [] := by
        refine Classical.byContradiction fun some => ?_
        exact idle (sound'.wait_pos (tracks.agrees.listens sound sound' listens) (ready some))
      subst nothing
      exact ⟨_, rfl, soundWaited, tracksWaited, room, room'.rests waited⟩
  have listensSignaled := tracksSignaled.agrees.listens (sound.carried_signals _ unread).1
    soundSignaled (sound.listens_signals listens _ unread)
  have compacted := soundSignaled.rests_compact tracksSignaled.calm listensSignaled
    settings.bufferSize.toNat
  rw [Gateway.poll_eq, Gateway.dispatch]
  dsimp only
  rw [made, tracksSignaled.calm.reap_eq]
  exact ⟨tracksSignaled.rests compacted, left, left'.rests compacted⟩

end Round

end Exchange

namespace Gateway

/-! ## Batches -/

/-- One round, before which a batch of signaling has arrived. -/
def takeIn (gateway : Gateway) (batch : List (Endpoint × Payload)) : Gateway :=
  (poll { gateway with
    exchange := gateway.exchange.receivingAll gateway.signalingAddress batch }).2

/-- The states to which some signaling leads from a state of a gateway, when it arrives in batches
and a round follows each. Meanwhile a bridge may make passes, as long as it has no audio to move. -/
inductive Batched (first : Gateway) : List (Endpoint × Payload) → Gateway → Prop where
  | nothing : Batched first [] first
  | round {datagrams : List (Endpoint × Payload)} {gateway : Gateway}
      (earlier : Batched first datagrams gateway) (batch : List (Endpoint × Payload)) :
      Batched first (datagrams ++ batch) (gateway.takeIn batch)
  | idled {datagrams : List (Endpoint × Payload)} {gateway : Gateway}
      (earlier : Batched first datagrams gateway) (index count : Nat)
      (idle : ∀ session bridge, gateway.exchange.table.session? index = some session →
        session.bridge = some bridge →
          Session.passesLeft bridge gateway.exchange.resources = 0) :
      Batched first datagrams { gateway with exchange := gateway.exchange.runBridge index count }

/-- Signaling may be cut anywhere. -/
theorem Batched.foldl {first gateway : Gateway} {datagrams : List (Endpoint × Payload)}
    (batched : first.Batched datagrams gateway) (batches : List (List (Endpoint × Payload))) :
    first.Batched (datagrams ++ batches.flatten) (batches.foldl takeIn gateway) := by
  induction batches generalizing datagrams gateway with
  | nil =>
    rw [List.flatten_nil, List.append_nil]
    exact batched
  | cons batch rest ih =>
    rw [List.flatten_cons, ← List.append_assoc, List.foldl_cons]
    exact ih (batched.round batch)

theorem settings_takeIn (gateway : Gateway) (batch : List (Endpoint × Payload)) :
    (gateway.takeIn batch).settings = gateway.settings := by
  simp only [takeIn, poll]

theorem Batched.settings_eq {first gateway : Gateway} {datagrams : List (Endpoint × Payload)}
    (batched : first.Batched datagrams gateway) : gateway.settings = first.settings := by
  induction batched with
  | nothing => rfl
  | round _ batch ih => rw [settings_takeIn, ih]
  | idled _ _ _ _ ih => exact ih

theorem Batched.reachable {first gateway : Gateway} {datagrams : List (Endpoint × Payload)}
    (batched : first.Batched datagrams gateway) (reached : first.Reachable) :
    gateway.Reachable := by
  induction batched with
  | nothing => exact reached
  | round earlier batch ih =>
    exact (ih.advanced (.beside ((Exchange.Beside.nothing _).receivingAll _ batch))).poll
  | idled earlier index count _ ih =>
    exact ih.advanced (.beside (.bridged (.nothing _) index count))

section Start

variable {settings : Settings} {supply : EngineSupply} {fabric : Fabric} {first gateway : Gateway}
  (started : start settings supply fabric = .ok first)
include started

/-- A gateway starts calm, and nothing waits for it. -/
theorem tracks_start (size : Nat) :
    first.exchange.Tracks size first.signalingAddress [] first.exchange := by
  obtain ⟨placed, _, _, opened, found, _, bound, resources, table⟩ := start_resources started
  obtain rfl := Except.ok.inj (found.symm.trans (placed_start started))
  have empty : first.exchange.resources.fabric.queue first.signalingAddress = [] := by
    rw [resources]
    show opened.queue first.signalingAddress = []
    rw [Fabric.queue, Fabric.socket?_bind bound, if_pos rfl]
    rfl
  refine ⟨.refl _, rfl, rfl, ⟨fun leg member address has cause waits => ?_, ?_⟩, [], ?_,
    fun _ member => by cases member⟩
  · rw [table] at member
    cases List.mem_singleton.mp member
    cases has
    rw [empty] at waits
    cases waits
  · rw [table]
    intro slot member
    cases List.mem_singleton.mp member
    rfl
  · rw [Fabric.waiting, empty]
    rfl

/-- **Every cut is compared with the uncut signaling.** -/
theorem Batched.tracks {datagrams : List (Endpoint × Payload)}
    (batched : first.Batched datagrams gateway) (later : List (Endpoint × Payload))
    (room : 1 + 2 * Exchange.requests settings.bufferSize.toNat (datagrams ++ later) ≤
      settings.maxSessions.toNat) :
    Exchange.Tracks settings.bufferSize.toNat first.signalingAddress []
        (datagrams.foldl (Exchange.signal settings.bufferSize.toNat) first.exchange)
        gateway.exchange ∧
      (datagrams.foldl (Exchange.signal settings.bufferSize.toNat) first.exchange).HasRoom
        (Exchange.requests settings.bufferSize.toNat later) ∧
      gateway.exchange.HasRoom (Exchange.requests settings.bufferSize.toNat later) := by
  have same : first.settings = settings := (start_eq_ok started).2.1
  have sound := sound_start started
  have listens := listening_start started
  induction batched generalizing later with
  | nothing =>
    obtain ⟨_, _, _, _, _, _, _, _, table⟩ := start_resources started
    have roomStart : first.exchange.HasRoom
        (Exchange.requests settings.bufferSize.toNat later) := by
      rw [Exchange.HasRoom, table]
      exact room
    exact ⟨tracks_start started _, roomStart, roomStart⟩
  | @round datagrams gateway earlier batch ih =>
    rw [List.append_assoc] at room
    obtain ⟨tracks, left, left'⟩ := ih (batch ++ later) room
    have soundReference := (sound.carried_signals settings.bufferSize.toNat datagrams).1
    have soundBefore := (earlier.reachable (.started started)).sound
    have listensReference := sound.listens_signals listens settings.bufferSize.toNat datagrams
    obtain ⟨received, ready⟩ :=
      tracks.receivingAll soundReference soundBefore listensReference batch
    have soundReceived := soundBefore.of_quiet
      ((Exchange.Beside.nothing gateway.exchange).receivingAll first.signalingAddress batch).quiet
    have here : gateway.signalingAddress = first.signalingAddress :=
      signalingAddress_eq (tracks.agrees.listens soundReference soundBefore listensReference)
    have roomy := (Settings.bounds_of_validate (start_eq_ok started).1).2.2.2.2.2
    rw [List.foldl_append, takeIn, earlier.settings_eq.trans same, here]
    exact received.poll soundReference soundReceived listensReference roomy later left left' rfl
      ready
  | @idled datagrams gateway earlier index count idle ih =>
    obtain ⟨tracks, left, left'⟩ := ih later room
    have rests := tracks.calm.rests_runBridge first.signalingAddress index count idle
    exact ⟨tracks.rests rests, left, left'.rests rests⟩

end Start

/-- Two gateways that have come to the same: what they have sent from the control socket and to
whom, their live sessions, both pools, and the statistics. -/
structure SameOutcome (address : Endpoint) (left right : Gateway) : Prop where
  replies : dispatches address left.exchange.resources.journal =
    dispatches address right.exchange.resources.journal
  sessions : left.exchange.table.liveSessions.map Session.gist =
    right.exchange.table.liveSessions.map Session.gist
  ids : left.exchange.resources.ids = right.exchange.resources.ids
  ports : left.exchange.resources.ports = right.exchange.resources.ports
  statistics : left.statistics = right.statistics

/-- What is compared with the same exchange has come to the same. -/
theorem SameOutcome.of_tracks {size : Nat} {address : Endpoint}
    {unread : List (Endpoint × Payload)} {reference : Exchange} {left right : Gateway}
    (tracks : reference.Tracks size address unread left.exchange)
    (tracks' : reference.Tracks size address unread right.exchange)
    (sound : left.exchange.Sound) (sound' : right.exchange.Sound) :
    SameOutcome address left right := by
  have agrees := tracks'.agrees.symm.trans tracks.agrees
  have gists : left.exchange.table.gists = right.exchange.table.gists := agrees.gists_eq
  obtain ⟨sessions, calls⟩ := sound.table.length_gists
  obtain ⟨sessions', calls'⟩ := sound'.table.length_gists
  refine ⟨tracks.dispatches_eq.trans tracks'.dispatches_eq.symm, ?_, agrees.alike.ids_eq,
    agrees.alike.ports_eq, ?_⟩
  · rw [← Table.gists_eq_liveSessions, ← Table.gists_eq_liveSessions, gists]
  · rw [Gateway.statistics, Gateway.statistics, Exchange.statistics, Exchange.statistics, sessions,
      sessions', gists, agrees.counters_eq]
    rw [gists] at calls
    congr 1
    omega

/-- **How signaling is cut into batches makes no difference** to a gateway that has just started and
whose table has room for every call that is asked for. -/
theorem batching_unobservable {settings : Settings} {supply : EngineSupply} {fabric : Fabric}
    {first left right : Gateway} {datagrams : List (Endpoint × Payload)}
    (started : start settings supply fabric = .ok first)
    (room : 1 + 2 * Exchange.requests settings.bufferSize.toNat datagrams ≤
      settings.maxSessions.toNat)
    (cut : first.Batched datagrams left) (cut' : first.Batched datagrams right) :
    SameOutcome first.signalingAddress left right := by
  have whole : 1 + 2 * Exchange.requests settings.bufferSize.toNat (datagrams ++ []) ≤
      settings.maxSessions.toNat := by rwa [List.append_nil]
  exact .of_tracks (cut.tracks started [] whole).1 (cut'.tracks started [] whole).1
    (cut.reachable (.started started)).sound (cut'.reachable (.started started)).sound

/-- A request, the release of its call, the same request by two other peers, the second of which is
refused, and something that is no message. -/
def fewRequests : List (Endpoint × Payload) :=
  [(5000, "SETUP 0 GT 127.0.0.1:4000"), (5000, "RELEASE 0"), (6000, "SETUP 0 GT 127.0.0.1:4000"),
    (7000, "SETUP 0 GT 127.0.0.1:4000"), (6000, "HELLO")].map fun entry =>
      (⟨Ipv4.loopback, entry.1⟩, textBytes entry.2.toList)

/-- Taken in at once, which leaves the closed slots of the first call in the way of the second, they
come to the same as one by one. -/
theorem batching_unobservable_fewRequests :
    start {} .unfailing .loopback = .ok idle ∧
      1 + 2 * Exchange.requests 2048 fewRequests ≤ 7 ∧
      idle.Batched fewRequests (idle.takeIn fewRequests) ∧
      idle.Batched fewRequests ((fewRequests.map fun datagram => [datagram]).foldl takeIn idle) ∧
      (idle.takeIn fewRequests).statistics = ⟨3, 1, ⟨2, 1, 1, 1, 0⟩⟩ ∧
      SameOutcome ⟨Ipv4.unspecified, 23232⟩ (idle.takeIn fewRequests)
        ((fewRequests.map fun datagram => [datagram]).foldl takeIn idle) := by
  have few : 1 + 2 * Exchange.requests 2048 fewRequests ≤ 7 := by decide +kernel
  have atOnce : idle.Batched fewRequests (idle.takeIn fewRequests) :=
    Batched.nothing.round fewRequests
  have oneByOne : idle.Batched fewRequests
      ((fewRequests.map fun datagram => [datagram]).foldl takeIn idle) :=
    Batched.nothing.foldl (fewRequests.map fun datagram => [datagram])
  have here : idle.signalingAddress = ⟨Ipv4.unspecified, 23232⟩ := by decide +kernel
  exact ⟨start_idle, few, atOnce, oneByOne, by decide +kernel, here ▸
    batching_unobservable start_idle (Nat.le_trans few (by decide)) atOnce oneByOne⟩

end Gateway

end FaxRelay
