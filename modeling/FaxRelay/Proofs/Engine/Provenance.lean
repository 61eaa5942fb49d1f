import FaxRelay.Proofs.Engine.Audio

/-!
# Audio stays in its call

While a session has an engine, this engine sends from the session's socket to
its remote endpoint (`Resources.Serves`). Every turn keeps this true, and
engines faithful.

So all that happens to datagrams at any moment can be told in terms of the table
(`Exchange.Tells`): an engine hears what came to the socket of its session, the
control session replies, and a frame that the mate handed out goes from the
socket of the session whose engine took it. Nothing else touches a datagram,
and what is sent for a leg was heard by its peer in the same call.
-/

set_option autoImplicit false

namespace FaxRelay

open FaxRelay.Media FaxRelay.Net FaxRelay.Pool FaxRelay.Signal

namespace Resources

/-! ## Engines and their sockets -/

/-- The engine of a session sends from the session's socket to its remote endpoint. -/
def Serves (resources : Resources) (session : Session) : Prop :=
  ∀ engine, session.engine = some engine → ∃ state address,
    resources.engines[engine]? = some state ∧ session.socket = some address ∧
      session.localAddress = some address ∧ state.outlet = some ⟨address, session.remote⟩

namespace Serves

variable {before after : Resources} {session later : Session}

/-- Without an engine there is nothing to show. -/
theorem of_none (without : session.engine = none) : before.Serves session := by
  intro engine has
  cases without.symm.trans has

/-- Nothing changes about a session that concerns its engine. -/
theorem of_session (serves : before.Serves session) (engine_eq : later.engine = session.engine)
    (socket_eq : later.socket = session.socket)
    (address_eq : later.localAddress = session.localAddress)
    (remote_eq : later.remote = session.remote) : before.Serves later := by
  intro engine has
  rw [socket_eq, address_eq, remote_eq]
  exact serves engine (engine_eq.symm.trans has)

/-- No engine goes away, and none sends anywhere else. -/
theorem of_outlets (serves : before.Serves session)
    (same : ∀ (engine : Nat) (state : Engine), before.engines[engine]? = some state →
      ∃ state' : Engine, after.engines[engine]? = some state' ∧ state'.outlet = state.outlet) :
    after.Serves session := by
  intro engine has
  obtain ⟨state, address, found, bound, here, aimed⟩ := serves engine has
  obtain ⟨state', found', outlet⟩ := same engine state found
  exact ⟨state', address, found', bound, here, outlet.trans aimed⟩

theorem of_append (serves : before.Serves session) {state : Engine}
    (engines : after.engines = before.engines ++ [state]) : after.Serves session := by
  refine serves.of_outlets fun engine state' found => ⟨state', ?_, rfl⟩
  rw [engines, List.getElem?_append_left (List.getElem?_eq_some_iff.mp found).1]
  exact found

/-- Whatever happens to the engine of another session. -/
theorem of_changeEngine_ne (serves : before.Serves session) {engine : Nat}
    (other : session.engine ≠ some engine) (change : Engine → Engine) :
    (before.changeEngine engine change).Serves session := by
  intro own has
  have differs : engine ≠ own := fun same => other (same ▸ has)
  obtain ⟨state, address, found, rest⟩ := serves own has
  exact ⟨state, address, (List.getElem?_modify_ne _ _ differs).trans found, rest⟩

/-- Changing an engine leaves the outlets as they were when it leaves that of this engine. -/
theorem of_changeEngine (serves : before.Serves session) (engine : Nat) (change : Engine → Engine)
    (keeps : ∀ state, (change state).outlet = state.outlet) :
    (before.changeEngine engine change).Serves session := by
  refine serves.of_outlets fun other state found => ?_
  rw [changeEngine, List.getElem?_modify, found]
  by_cases same : engine = other
  · simp [same, keeps]
  · simp [same]

end Serves

/-! ## Turns -/

/-- No turn changes the settings of engines. -/
theorem settings_eq_of_turn {first second : List Session × Resources}
    (turn : Turn first second) : second.2.engineSettings = first.2.engineSettings := by
  cases turn with
  | aside _ aside => exact aside.settings_eq
  | forwarded _ _ source progress resources =>
    exact (resources.moving _ source progress).engines_eq.2
  | _ => rfl

/-- Everything that is always true of audio: engines pass it on faithfully, in frames of the right
size, and serve the sessions that have them. -/
structure Sends (sessions : List Session) (resources : Resources) : Prop where
  faithful : resources.Faithful
  framed : resources.Framed
  serves : ∀ session ∈ sessions, resources.Serves session

namespace Sends

/-- What concerns no engine keeps this true. -/
theorem aside {sessions : List Session} {before after : Resources}
    (sends : Sends sessions before) (aside : before.Aside after) : Sends sessions after := by
  refine ⟨sends.faithful.aside aside, sends.framed.aside aside, fun session member => ?_⟩
  refine (sends.serves session member).of_outlets fun engine state found => ⟨state, ?_, rfl⟩
  rw [aside.engines_eq]
  exact found

/-- A new leg is served by its engine. -/
theorem equipped {sessions : List Session} {resources : Resources}
    (sends : Sends sessions resources) {session : Session} {leg : Leg} (fits : session.Fits leg)
    (aimed : session.remote = leg.remote) (has : session.engine = some resources.engines.length) :
    Sends (session :: sessions) (resources.equipped leg) := by
  have engines := resources.engines_equipped leg
  refine ⟨sends.faithful.equipped leg, sends.framed.append rfl engines rfl,
    List.forall_mem_cons.mpr ⟨fun engine hasToo => ?_, fun other member => ?_⟩⟩
  · cases has.symm.trans hasToo
    refine ⟨(Engine.blank resources.engineSettings).attach leg, leg.localAddress, ?_,
      fits.socket_eq, fits.localAddress_eq, ?_⟩
    · rw [engines, List.getElem?_concat_length]
    · rw [aimed]
      rfl
  · exact (sends.serves other member).of_append engines

/-- An engine that is handed a datagram serves its session at the address that was heard. -/
theorem heard {session : Session} {sessions : List Session} {resources : Resources}
    (sends : Sends (session :: sessions) resources)
    (tracked : Tracked (session :: sessions) resources) {engine : Nat}
    (has : session.engine = some engine) (sender : Endpoint) (payload : Payload) :
    Sends (session.heardFrom sender :: sessions)
      ((resources.aimEngine engine (session.heardFrom sender).remote).hear engine payload) := by
  obtain ⟨first, rest⟩ := List.forall_mem_cons.mp sends.serves
  obtain ⟨remote, same⟩ := session.heardFrom_eq sender
  simp only [same]
  refine ⟨sends.faithful.heard engine remote payload,
    (sends.framed.changeEngine engine (Engine.aim · remote) fun _ => rfl).changeEngine engine
      (Engine.hear · payload) fun _ => rfl,
    List.forall_mem_cons.mpr ⟨fun engine' hasToo => ?_, fun other member => ?_⟩⟩
  · cases has.symm.trans hasToo
    obtain ⟨state, address, found, bound, here, aimed⟩ := first engine has
    refine ⟨(state.aim remote).hear payload, address, ?_, bound, here, ?_⟩
    · simp [Resources.hear, note, aimEngine, changeEngine, found]
    · simp [Engine.hear, Engine.aim, aimed]
  · have differs := tracked.nobody_else has other member
    exact ((rest other member).of_changeEngine_ne differs _).of_changeEngine_ne differs _

/-- A bridge that moves a frame changes no outlet. -/
theorem forwarded {sessions : List Session} {resources : Resources}
    (sends : Sends sessions resources) (tracked : Tracked sessions resources) {keeper : Session}
    {bridge : Bridge} (member : keeper ∈ sessions) (kept : keeper.bridge = some bridge)
    (source : Direction) (progress : Progress) :
    Sends sessions (forward (Resources.sides bridge.inbound bridge.outbound) source progress
      resources).2 := by
  have moving := resources.moving bridge source progress
  obtain ⟨engines, settings⟩ := moving.engines_eq
  have produced := sends.framed.changeEngine (bridge.engine source) (fun state => state.produce.2)
    fun _ => rfl
  refine ⟨sends.faithful.moved tracked.orderly (tracked.mates member kept source) moving,
    fun engine state found => ?_, fun session member => ?_⟩
  · rw [settings]
    rw [engines] at found
    exact produced engine state found
  · have still := (sends.serves session member).of_changeEngine (bridge.engine source)
      (fun state => state.produce.2) fun _ => rfl
    refine still.of_outlets fun engine state found => ⟨state, ?_, rfl⟩
    rw [engines]
    exact found

/-- **Every turn keeps this true.** -/
theorem turn {first second : List Session × Resources} (sends : Sends first.1 first.2)
    (tracked : Tracked first.1 first.2) (turn : Turn first second) :
    Sends second.1 second.2 := by
  have ⟨faithful, framed, serves⟩ := sends
  cases turn with
  | aside _ aside => exact sends.aside aside
  | reordered same =>
    exact ⟨faithful, framed, fun session member => serves session (same.mem_iff.mpr member)⟩
  | changed _ still =>
    refine ⟨faithful, framed, List.forall_mem_cons.mpr ⟨.of_none still, ?_⟩⟩
    exact (List.forall_mem_cons.mp serves).2
  | dropped => exact ⟨faithful, framed, (List.forall_mem_cons.mp serves).2⟩
  | equipped fits aimed _ _ _ has => exact sends.equipped fits aimed has
  | refused sessions resources leg =>
    have engines : (resources.refused leg).engines =
      resources.engines ++ [Engine.blank resources.engineSettings] := rfl
    exact ⟨faithful.refused leg, framed.append rfl engines rfl,
      fun session member => (serves session member).of_append engines⟩
  | joined =>
    obtain ⟨inbound, outbound, rest⟩ := by simpa only [List.forall_mem_cons] using serves
    refine ⟨faithful, framed, ?_⟩
    simp only [List.forall_mem_cons]
    exact ⟨inbound.of_session rfl rfl rfl rfl, outbound.of_session rfl rfl rfl rfl, rest⟩
  | heard has _ _ sender payload => exact sends.heard tracked has sender payload
  | forwarded member kept source progress =>
    exact sends.forwarded tracked member kept source progress
  | stopped =>
    obtain ⟨first, rest⟩ := List.forall_mem_cons.mp serves
    exact ⟨faithful, framed, List.forall_mem_cons.mpr ⟨first.of_session rfl rfl rfl rfl, rest⟩⟩
  | @retired session later engine sessions has still _ _ resources =>
    refine ⟨faithful.retired engine, framed.changeEngine engine Engine.retire fun _ => rfl,
      List.forall_mem_cons.mpr ⟨.of_none still, fun other member => ?_⟩⟩
    exact (serves other (.tail _ member)).of_changeEngine_ne
      (tracked.nobody_else has other member) _

theorem turns {first second : List Session × Resources} (sends : Sends first.1 first.2)
    (tracked : Tracked first.1 first.2) (turns : Turns first second) :
    Tracked second.1 second.2 ∧ Sends second.1 second.2 ∧
      second.2.engineSettings = first.2.engineSettings := by
  induction turns with
  | refl => exact ⟨tracked, sends, rfl⟩
  | tail _ step ih =>
    obtain ⟨tracked, sends, same⟩ := ih
    exact ⟨tracked.turn step, sends.turn tracked step, (settings_eq_of_turn step).trans same⟩

end Sends

/-- A frame is not longer than the settings say. -/
theorem Framed.length_produce_le {resources : Resources} (framed : resources.Framed)
    (engine : Nat) :
    (resources.produce engine).1.length ≤ resources.engineSettings.frameSamples.toNat := by
  rw [produce]
  cases found : resources.engines[engine]? with
  | none => exact Nat.zero_le _
  | some state =>
    rw [← framed engine state found]
    exact List.length_take_le _ _

end Resources

/-! ## Moments -/

/-- Whether an event hands a datagram to an engine or puts one on the network. -/
def Event.isTransfer : Event → Bool
  | .heard _ _ => true
  | .sent _ none => true
  | _ => false

theorem Event.IsSilent.no_transfer {event : Event} (silent : event.IsSilent) :
    event.isTransfer = false := by
  cases event with
  | heard engine payload => simpa [heard?] using silent.hears_none engine
  | sent transmission fault =>
    cases fault with
    | none => simpa [sentTo?] using silent.sends_none transmission.destination
    | some cause => rfl
  | _ => rfl

namespace Exchange

/-- What an exchange does with datagrams at one moment, and how the journal tells it. A datagram of
media has at most `size` bytes when it is handed over, and a frame at most `limit` samples. -/
inductive Tells (size limit : Nat) (exchange : Exchange) : List Event → Prop where
  /-- No datagram comes or goes. -/
  | nothing {events : List Event} (quiet : ∀ event ∈ events, event.isTransfer = false) :
      Tells size limit exchange events
  /-- The engine of a session is handed the datagram that comes first in the session's socket. -/
  | heard {index : Nat} {session : Session} {engine : Nat} {address sender : Endpoint}
      {payload : Payload} {rest : List Arrival}
      (found : exchange.table.session? index = some session) (has : session.engine = some engine)
      (bound : session.socket = some address)
      (waits : exchange.resources.fabric.queue address = .datagram sender payload :: rest) :
      Tells size limit exchange [.heard engine (payload.take size)]
  /-- The control session replies from its socket. -/
  | replied {control : Session} {transmission : Transmission}
      (first : exchange.table.session? 0 = some control) (signals : control.isControl = true)
      (bound : control.socket = some transmission.source) :
      Tells size limit exchange [.sent transmission none]
  /-- A frame that the mate of a session's engine has handed out goes from the session's socket to
  its remote endpoint. -/
  | sent {index : Nat} {session : Session} {engine mate : Nat} {frame : Frame}
      {transmission : Transmission} (found : exchange.table.session? index = some session)
      (has : session.engine = some engine)
      (mates : Mates exchange.resources.journal engine mate ∨
        Mates exchange.resources.journal mate engine)
      (bound : session.socket = some transmission.source)
      (here : session.localAddress = some transmission.source)
      (aimed : session.remote = some transmission.destination)
      (carries : transmission.payload = encodeAudio frame) (audio : 1 ≤ frame.length)
      (fits : frame.length ≤ limit) :
      Tells size limit exchange
        [.took engine frame none, .sent transmission none, .produced mate frame]

variable {size : Nat} {before after : Exchange}

/-- What is silent tells of no datagram. -/
theorem Tells.of_silent {limit : Nat}
    (silent : before.resources.Silent after.resources) :
    ∃ events, after.resources.journal = events ++ before.resources.journal ∧
      before.Tells size limit events := by
  obtain ⟨events, journal, quiet⟩ := silent.history
  exact ⟨events, journal, .nothing fun event member => (quiet event member).no_transfer⟩

/-- A reply that goes out goes from the socket of the control session. -/
theorem tells_reply {limit : Nat} (message : Message) (exchange : Exchange) :
    ∃ events, (exchange.reply message).resources.journal = events ++ exchange.resources.journal ∧
      exchange.Tells size limit events := by
  have unsent : ∀ {event : Event}, event.isTransfer = false →
      exchange.Tells size limit [event] := by
    intro event quiet
    exact .nothing fun other member => by rwa [List.mem_singleton.mp member]
  rw [reply]
  split
  case h_2 => exact ⟨[], rfl, .nothing fun _ member => by cases member⟩
  next payload control _ first =>
  obtain ⟨first, signals⟩ := Option.filter_eq_some_iff.mp first
  rw [Session.send]
  split
  · exact ⟨[], rfl, .nothing fun _ member => by cases member⟩
  · exact ⟨[], rfl, .nothing fun _ member => by cases member⟩
  · next address remote bound _ =>
    dsimp only [Resources.transmit]
    cases exchange.resources.fabric.send address remote payload with
    | ok fabric => exact ⟨[_], rfl, .replied first signals bound⟩
    | error cause => exact ⟨[_], rfl, unsent rfl⟩

/-- A frame that goes out goes from the socket of the session whose engine took it. -/
theorem Tells.of_moving {engine mate : Nat} {moved : Resources}
    (moving : before.resources.Moving engine mate moved)
    (sends : before.resources.Sends before.table.roster)
    (mates : Mates before.resources.journal engine mate ∨
      Mates before.resources.journal mate engine)
    (inUse : phase mate before.resources.journal = .inUse)
    (tracked : before.resources.Tracked before.table.roster) :
    ∃ events, moved.journal = events ++ before.resources.journal ∧
      before.Tells size before.resources.engineSettings.frameSamples.toNat events := by
  cases moving with
  | idle => exact ⟨[.produced _ _], rfl, .nothing (by simp [Event.isTransfer])⟩
  | silent => exact ⟨[.took _ _ _, .produced _ _], rfl, .nothing (by simp [Event.isTransfer])⟩
  | failed =>
    exact ⟨[.took _ _ _, .sent _ _, .produced _ _], rfl, .nothing (by simp [Event.isTransfer])⟩
  | @sent state outlet transmission fabric found ready source aimed carries audio =>
    obtain ⟨session, member, has⟩ := (tracked.inUse_iff mate).mp inUse
    have still := (sends.serves session member).of_changeEngine engine
      (fun state => state.produce.2) fun _ => rfl
    obtain ⟨state', address, found', bound, here, serves⟩ := still mate has
    cases Option.some.inj (found.symm.trans found')
    cases ready.symm.trans serves
    obtain ⟨slot, inTable, rfl⟩ := List.mem_map.mp member
    obtain ⟨index, place⟩ := List.getElem?_of_mem inTable
    refine ⟨[.took _ _ _, .sent _ _, .produced _ _], rfl,
      .sent (Table.session?_of_slot place) has mates.symm ?_ ?_ aimed carries
        (List.length_pos_iff.mpr audio) (sends.framed.length_produce_le engine)⟩
    · rw [source]
      exact bound
    · rw [source]
      exact here

/-- **What happens to datagrams at any moment.** -/
theorem Moment.tells (moment : Moment size before after)
    (tracked : before.resources.Tracked before.table.roster)
    (sends : before.resources.Sends before.table.roster) :
    ∃ events, after.resources.journal = events ++ before.resources.journal ∧
      before.Tells size before.resources.engineSettings.frameSamples.toNat events := by
  have nothing : ∀ {after : Exchange}, after.resources.journal = before.resources.journal →
      ∃ events, after.resources.journal = events ++ before.resources.journal ∧
        before.Tells size before.resources.engineSettings.frameSamples.toNat events :=
    fun same => ⟨[], same, .nothing fun _ member => by cases member⟩
  cases moment with
  | network => exact nothing rfl
  | settled => exact nothing rfl
  | drained => exact nothing rfl
  | marked => exact nothing rfl
  | counted => exact nothing rfl
  | failed => exact nothing rfl
  | stopped => exact nothing rfl
  | moved => exact nothing rfl
  | cut => exact nothing rfl
  | noted _ _ sender payload =>
    refine ⟨[.signaled sender payload], rfl, .nothing fun event member => ?_⟩
    cases List.mem_singleton.mp member
    rfl
  | replied message => exact tells_reply message before
  | setUp setup => exact Tells.of_silent (silent_setUp before setup)
  | @closed index => exact Tells.of_silent (silent_closeSlots [index] before.table before.resources)
  | @heard index session address datagram rest found bound waits =>
    dsimp only [hearAt]
    rw [Session.hear]
    dsimp only
    rw [Session.engine_heardFrom]
    cases has : session.engine with
    | none => exact nothing rfl
    | some engine => exact ⟨[_], rfl, .heard found has bound waits⟩
  | @forwarded index keeper bridge found kept runs source =>
    obtain ⟨slot, place, rfl⟩ := Table.slot_of_session? found
    have member := Table.mem_roster place
    have keeps : slot.session.aspect.bridge = some { bridge with progress := Progress.fresh } := by
      simp [Session.aspect, kept]
    exact Tells.of_moving (before.resources.moving bridge source bridge.progress) sends
      (tracked.mates member keeps source) (tracked.inCall member keeps source.opposite).1 tracked

end Exchange

namespace Gateway

/-! ## The audio of a gateway -/

/-- Audio is always passed on faithfully, under the settings of the gateway. -/
theorem Attained.sends {gateway : Gateway} (attained : gateway.Attained) :
    gateway.exchange.resources.Sends gateway.exchange.table.roster ∧
      gateway.exchange.resources.engineSettings = gateway.settings.engine := by
  induction attained with
  | started started =>
    obtain ⟨same, journal, engines, settings, control, roster, without, _⟩ := start_bare started
    refine ⟨⟨⟨fun engine => ?_, fun engine => ?_⟩, fun engine state found => ?_, ?_⟩, ?_⟩
    · rw [journal, Resources.waiting, engines]
      exact .refl _
    · rw [journal]
      exact .inl rfl
    · rw [engines] at found
      cases found
    · rw [roster]
      exact List.forall_mem_cons.mpr ⟨.of_none without, fun _ member => by cases member⟩
    · rw [same]
      exact settings
  | @passed gateway exchange attained moment ih =>
    obtain ⟨sends, settings⟩ := ih
    obtain ⟨_, still, same⟩ := Resources.Sends.turns sends attained.tracked moment.turns
    exact ⟨still, same.trans settings⟩

/-- What is true of the audio of a gateway. What was sent for an engine is, in order and without
repetition, a part of what its mate has heard, and nothing is sent for an engine without a mate; a
bridge that is kept joins mates; and at any moment a datagram comes and goes only through the socket
of the session that it is for. -/
structure AudioStaysInCall (gateway : Gateway) : Prop where
  passed : ∀ engine mate, Mates gateway.exchange.resources.journal engine mate ∨
      Mates gateway.exchange.resources.journal mate engine →
    (sentAudio engine gateway.exchange.resources.journal).Sublist
      (heardAudio mate gateway.exchange.resources.journal)
  mated : ∀ engine, emissions engine gateway.exchange.resources.journal ≠ [] →
    ∃ mate, Mates gateway.exchange.resources.journal engine mate ∨
      Mates gateway.exchange.resources.journal mate engine
  joined : ∀ {index : Nat} {keeper : Session} {bridge : Bridge},
    gateway.exchange.table.session? index = some keeper → keeper.bridge = some bridge →
    ∃ place partner, gateway.exchange.table.session? place = some partner ∧
      Joins gateway.exchange.resources.journal keeper partner bridge
  told : ∀ {exchange : Exchange},
    gateway.exchange.Moment gateway.settings.bufferSize.toNat exchange →
    ∃ events, exchange.resources.journal = events ++ gateway.exchange.resources.journal ∧
      gateway.exchange.Tells gateway.settings.bufferSize.toNat
        gateway.settings.engine.frameSamples.toNat events

theorem Attained.audioStaysInCall {gateway : Gateway} (attained : gateway.Attained) :
    gateway.AudioStaysInCall := by
  have tracked := attained.tracked
  obtain ⟨sends, settings⟩ := attained.sends
  have faithful := sends.faithful
  refine ⟨fun engine mate mates => ?_, fun engine some => ?_, ?_, fun moment => ?_⟩
  · rcases faithful.relayed engine with none | ⟨other, also, part⟩
    · rw [sentAudio, none]
      exact List.nil_sublist _
    · cases tracked.orderly.mate_unique mates.symm also
      exact (part.trans (List.sublist_append_left _ _)).trans (faithful.kept mate)
  · rcases faithful.relayed engine with none | ⟨mate, mates, _⟩
    · exact absurd none some
    · exact ⟨mate, mates⟩
  · intro index keeper bridge found kept
    obtain ⟨slot, place, rfl⟩ := Table.slot_of_session? found
    have keeps : slot.session.aspect.bridge = some { bridge with progress := Progress.fresh } := by
      simp [Session.aspect, kept]
    obtain ⟨partner, member, joins⟩ := tracked.bridged _ (Table.mem_roster place) _ keeps
    obtain ⟨slot', inTable, rfl⟩ := List.mem_map.mp member
    obtain ⟨place', found'⟩ := List.getElem?_of_mem inTable
    exact ⟨place', slot'.session, Table.session?_of_slot found', joins.mates, joins.keeper_has,
      joins.partner_has, joins.keeper_names, joins.partner_names⟩
  · rw [← settings]
    exact moment.tells tracked sends

/-- Whatever leg a gateway has, its engine and that of its peer are mates. -/
theorem Reachable.mates_of_leg {gateway : Gateway} (reached : gateway.Reachable)
    {index engine : Nat} {session : Session}
    (found : gateway.exchange.table.session? index = some session)
    (has : session.engine = some engine) :
    ∃ place peer mate, gateway.exchange.table.session? place = some peer ∧
      peer.engine = some mate ∧ session.peer = some peer.id ∧ peer.peer = some session.id ∧
      (Mates gateway.exchange.resources.journal engine mate ∨
        Mates gateway.exchange.resources.journal mate engine) := by
  have follow := reached.attained.enginesFollowLegs
  obtain ⟨slot, place, rfl⟩ := Table.slot_of_session? found
  obtain ⟨_, isLeg⟩ :=
    reached.sound.table.isLeg_of_isEngaged place (by simp [Session.isEngaged, has])
  obtain ⟨callId, _, inbound, outbound, _, legs, bridged, which, _⟩ :=
    reached.sound.table.paired.split isLeg
  obtain ⟨engineIn, engineOut, progress, hasIn, hasOut, kept⟩ := bridged.engines
  have member : inbound ∈ gateway.exchange.table.legs := by simp [legs]
  obtain ⟨spot, keeper, foundKeeper, _, _, rfl⟩ := Table.slot_of_mem_legs member
  obtain ⟨bridge, keeps, same⟩ := Option.map_eq_some_iff.mp kept
  obtain ⟨other, partner, foundPartner, joins⟩ :=
    reached.attained.audioStaysInCall.joined (Table.session?_of_slot foundKeeper) keeps
  have foundKeeper := Table.session?_of_slot foundKeeper
  rcases which with isInbound | isOutbound
  · have hasToo : keeper.session.engine = some engine :=
      (congrArg Session.engine isInbound).symm.trans has
    cases follow.alone foundKeeper found hasToo has
    rw [Option.some.inj (foundKeeper.symm.trans found)] at joins
    cases joins.keeper_has.symm.trans has
    exact ⟨other, partner, bridge.outbound, foundPartner, joins.partner_has, joins.keeper_names,
      joins.partner_names, .inl joins.mates⟩
  · have far : bridge.outbound = engineOut := congrArg Bridge.outbound same
    have hasToo : partner.engine = some engine := by
      rw [joins.partner_has, far, ← hasOut, ← isOutbound]
      exact has
    cases follow.alone foundPartner found hasToo has
    rw [Option.some.inj (foundPartner.symm.trans found)] at joins
    cases joins.partner_has.symm.trans has
    exact ⟨spot, keeper.session, bridge.inbound, foundKeeper, joins.keeper_has, joins.partner_names,
      joins.keeper_names, .inr joins.mates⟩

/-- **Audio stays in its call.** In every state that a gateway can reach, at every moment that comes
after it, and once it was shut down: what was sent for a leg is, in order and without repetition, a
part of what its peer in the same call has heard since the call was made, and it went from the leg's
own socket to the leg's remote endpoint in frames of the right size. -/
theorem Reachable.audio_stays_in_call {gateway : Gateway} (reached : gateway.Reachable) :
    gateway.AudioStaysInCall ∧
      (∀ {index engine : Nat} {session : Session},
        gateway.exchange.table.session? index = some session → session.engine = some engine →
        ∃ place peer mate, gateway.exchange.table.session? place = some peer ∧
          peer.engine = some mate ∧ session.peer = some peer.id ∧ peer.peer = some session.id ∧
          (sentAudio engine gateway.exchange.resources.journal).Sublist
            (heardAudio mate gateway.exchange.resources.journal)) ∧
      (∀ exchange, gateway.exchange.Moments gateway.settings.bufferSize.toNat exchange →
        AudioStaysInCall { gateway with exchange := exchange }) ∧
      ∀ stop limit, (run stop limit gateway).AudioStaysInCall := by
  refine ⟨reached.attained.audioStaysInCall, fun found has => ?_,
    fun exchange moments => (reached.attained.moments moments).audioStaysInCall,
    fun stop limit => (reached.attained_run stop limit).1.audioStaysInCall⟩
  obtain ⟨place, peer, mate, foundPeer, hasMate, names, named, mates⟩ :=
    reached.mates_of_leg found has
  exact ⟨place, peer, mate, foundPeer, hasMate, names, named,
    reached.attained.audioStaysInCall.passed _ _ mates⟩

/-- In the first call of this relay each leg has sent what the other one has heard, and nothing was
sent in the second call. -/
theorem audio_stays_in_call_talking :
    Reachable ⟨{}, talking⟩ ∧ AudioStaysInCall ⟨{}, talking⟩ ∧
      (List.range 4).map (fun engine => heardAudio engine talking.resources.journal) =
        [[258], [772, 1286], [], []] ∧
      (List.range 4).map (fun engine => sentAudio engine talking.resources.journal) =
        [[772, 1286], [258], [], []] :=
  ⟨reachable_talking, (Reachable.audio_stays_in_call reachable_talking).1, by decide +kernel,
    by decide +kernel⟩

end Gateway

end FaxRelay
