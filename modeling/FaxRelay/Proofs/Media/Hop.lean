import FaxRelay.Proofs.Engine.Latching
import FaxRelay.Proofs.Engine.States
import FaxRelay.Proofs.Media.Capacity

/-!
# One hop of a frame

A frame that the engine of one leg is given goes over the network to another leg
and into the queue of its engine. On this way it meets three limits, which
settings set apart from each other: a datagram carries no more than the network
allows, the buffer of the reader cuts it, and the queue has a bound. A frame
survives exactly when it is within all three (`Hop.survives_iff`), in whatever
state the relays and the network are otherwise. Every gateway that sends a frame
from one of its legs to another is an instance (`Gateway.Reachable.exists_hop`).

Checked settings keep frames within the first limit and within the third, but
they do not compare a frame with the buffer. So one limit remains: a frame that
does not fit the buffer loses its end, and nothing tells of it, since no sample
is dropped from the queue (`Hop.survives_of_validate`).
-/

set_option autoImplicit false

namespace FaxRelay

open FaxRelay.Media FaxRelay.Net

/-! ## A frame that is cut -/

namespace Media

/-- Of a datagram that was cut, the samples in front of the cut are decoded. -/
theorem decodeAudio_take (frame : Frame) (size : Nat) :
    decodeAudio ((encodeAudio frame).take size) = frame.take (size / 2) := by
  induction frame generalizing size with
  | nil => simp [encodeAudio, decodeAudio]
  | cons sample rest ih =>
    have bytes : encodeAudio (sample :: rest) = bytesOfSample sample ++ encodeAudio rest :=
      List.flatMap_cons
    rcases size with _ | _ | size
    · rfl
    · rfl
    · have half : (size + 2) / 2 = size / 2 + 1 := by omega
      rw [bytes, bytesOfSample, List.cons_append, List.cons_append, List.nil_append,
        List.take_succ_cons, List.take_succ_cons, decodeAudio, sampleOfBytes_bytesOfSample, ih,
        half, List.take_succ_cons]

/-- An empty queue takes a frame as it is exactly when neither the cut nor the bound takes anything
of it away. -/
theorem Engine.hear_take_iff {engine : Engine} (empty : engine.queue = []) (frame : Frame)
    (size : Nat) :
    ((engine.hear ((encodeAudio frame).take size)).queue = frame ∧
        (engine.hear ((encodeAudio frame).take size)).dropped = engine.dropped) ↔
      2 * frame.length ≤ size ∧ frame.length ≤ engine.maxQueued.toNat := by
  constructor
  · rintro ⟨queue, dropped⟩
    obtain ⟨lost, split, many, counted⟩ := engine.hear_split ((encodeAudio frame).take size)
    have none : lost = [] := List.eq_nil_of_length_eq_zero (by omega)
    have bounded := engine.length_queue_hear ((encodeAudio frame).take size)
    rw [decodeAudio_take, empty, none, List.nil_append, List.nil_append, queue] at split
    rw [queue] at bounded
    have whole := congrArg List.length split
    rw [List.length_take] at whole
    omega
  · rintro ⟨uncut, bounded⟩
    have whole : decodeAudio ((encodeAudio frame).take size) = frame := by
      rw [decodeAudio_take, List.take_of_length_le (by omega)]
    have fits : engine.queue.length +
        (decodeAudio ((encodeAudio frame).take size)).length ≤ engine.maxQueued.toNat := by
      rw [empty, whole, List.length_nil, Nat.zero_add]
      exact bounded
    rw [hear_of_fits fits, whole, empty]
    exact ⟨rfl, rfl⟩

end Media

/-! ## What the network carries -/

namespace Net.Fabric

/-- A network carries datagrams from one endpoint to another when it refuses just those that are too
long. -/
def Carries (fabric : Fabric) (source destination : Endpoint) : Prop :=
  ∀ size, fabric.policy.sendFault source destination size = none ↔ size ≤ payloadLimit

/-- A host carries datagrams from itself to any endpoint with a port, except to everybody. -/
theorem carries_loopback {fabric : Fabric} (loopback : fabric.policy = Policy.loopback)
    (source : Endpoint) {destination : Endpoint} (someone : destination.port ≠ 0)
    (one : destination.ip.isBroadcast = false) : fabric.Carries source destination := by
  intro size
  have limits : payloadLimit < lengthLimit := by decide
  simp only [loopback, Policy.loopback, if_neg someone, one, Bool.false_eq_true, if_false]
  split
  · exact ⟨nofun, fun short => by omega⟩
  split
  · exact ⟨nofun, fun short => by omega⟩
  · next short => exact ⟨fun _ => Nat.not_lt.mp short, fun _ => rfl⟩

end Net.Fabric

namespace Resources

variable {resources : Resources} {engine : Nat} {state : Engine} {source destination : Endpoint}

/-- An engine that has a remote endpoint sends a frame there. It succeeds when the frame is not too
long for a datagram, and then this datagram is all that the network takes in. -/
theorem take_carried (found : resources.engines[engine]? = some state)
    (aimed : state.outlet = some ⟨source, some destination⟩)
    (carries : resources.fabric.Carries source destination) (frame : Frame) :
    (2 * frame.length ≤ payloadLimit → (resources.take engine frame).1 = .ok ()) ∧
      (resources.take engine frame).2.fabric =
        if 2 * frame.length ≤ payloadLimit then
          resources.fabric.deliver destination (.datagram source (encodeAudio frame))
        else resources.fabric := by
  have size : (encodeAudio frame).length = 2 * frame.length := length_encodeAudio frame
  have relayed : resources.relay engine frame =
      (answerSent (resources.transmit ⟨source, destination, encodeAudio frame⟩).1,
        (resources.transmit ⟨source, destination, encodeAudio frame⟩).2) := by
    simp [relay, found, Engine.transmission, aimed]
  have noted : (resources.take engine frame).2.fabric =
      (resources.transmit ⟨source, destination, encodeAudio frame⟩).2.fabric := by
    rw [take, relayed]
    split
    · next same => rw [← (Prod.mk.inj same).2, note]
    · next same => rw [← (Prod.mk.inj same).2, note]
  rw [noted]
  by_cases short : 2 * frame.length ≤ payloadLimit
  · have accepted := (carries (encodeAudio frame).length).mpr (size ▸ short)
    simp [take, relayed, transmit, Fabric.send, accepted, short, note, answerSent]
  · cases refused : resources.fabric.policy.sendFault source destination
        (encodeAudio frame).length with
    | none => exact absurd (size ▸ (carries _).mp refused) short
    | some cause => simp [transmit, Fabric.send, refused, short, note]

/-- Taking a frame changes no engine. -/
theorem engines_take (resources : Resources) (engine : Nat) (frame : Frame) :
    (resources.take engine frame).2.engines = resources.engines := by
  obtain ⟨_, taken⟩ := resources.take_eq engine frame
  rw [taken]
  exact (resources.aside_relay engine frame).engines_eq

end Resources

/-! ## Reading one datagram -/

namespace Session

variable {session : Session} {resources : Resources} {address : Endpoint} {engine : Nat}
  {state : Engine}

/-- A session that reads its only datagram hands it to its engine, cut to the size of the buffer. -/
theorem onReadable_single (bound : session.socket = some address)
    (served : session.engine = some engine) (equipped : resources.engines[engine]? = some state)
    {sender : Endpoint} {payload : Payload}
    (waits : resources.fabric.queue address = [.datagram sender payload]) (size : Nat) :
    (session.onReadable size resources).1 = .ok 1 ∧
      ∃ remote, (session.onReadable size resources).2.2.engines[engine]? =
        some ((state.aim remote).hear (payload.take size)) := by
  have has : (session.heardFrom sender).engine = some engine :=
    (session.engine_heardFrom sender).trans served
  refine ⟨?_, (session.heardFrom sender).remote, ?_⟩
  · simp [onReadable, bound, Fabric.drain, waits, Fabric.leadingDatagrams, Fabric.firstFault]
  · rw [onReadable_snd bound, waits]
    simp [Fabric.leadingDatagrams, hearAll, hear, has, Resources.hear, Resources.note,
      Resources.aimEngine, Resources.changeEngine, equipped]

end Session

/-! ## The hop -/

/-- A frame on its way from one leg to another. The engine of the first leg sends it; its relay has
the resources `near` before. The other leg is a session of the same relay or of another one, which
has the resources `far` once the frame was sent. Its engine was made with the given settings, and
nothing waits in its queue, nor did anything wait in its socket before. -/
structure Hop (settings : Settings) where
  frame : Frame
  near : Resources
  sender : Nat
  sending : Engine
  source : Endpoint
  destination : Endpoint
  far : Resources
  session : Session
  receiver : Nat
  receiving : Engine
  fits : frame.length ≤ settings.engine.frameSamples.toNat
  sends : near.engines[sender]? = some sending
  aimed : sending.outlet = some ⟨source, some destination⟩
  carried : near.fabric.Carries source destination
  listening : (near.fabric.holder? destination).isSome = true
  unread : near.fabric.queue destination = []
  sent : far.fabric = (near.take sender frame).2.fabric
  bound : session.socket = some destination
  served : session.engine = some receiver
  equipped : far.engines[receiver]? = some receiving
  reached : receiving.Reachable settings.engine
  empty : receiving.queue = []

namespace Hop

variable {settings : Settings} (hop : Hop settings)

/-- What comes of it when the session reads its socket. -/
def read : Except Fault Nat × Session × Resources :=
  hop.session.onReadable settings.bufferSize.toNat hop.far

/-- After that, certain samples wait in the queue, and none was dropped. -/
def Leaves (queue : Frame) : Prop :=
  ∃ state, hop.read.2.2.engines[hop.receiver]? = some state ∧ state.queue = queue ∧
    state.dropped = hop.receiving.dropped

/-- A frame survives when just its samples wait in the queue, and none was dropped. -/
def Survives : Prop := hop.Leaves hop.frame

/-- What waits in the socket of the other leg: the datagram of the frame, if that is not too
long. -/
theorem queue_far : hop.far.fabric.queue hop.destination =
    if 2 * hop.frame.length ≤ payloadLimit then
      [.datagram hop.source (encodeAudio hop.frame)] else [] := by
  rw [hop.sent, (Resources.take_carried hop.sends hop.aimed hop.carried hop.frame).2]
  split
  · rw [Fabric.queue_deliver _ hop.listening, hop.unread, if_pos rfl, List.nil_append]
  · exact hop.unread

/-- A frame that is not too long for a datagram is heard by the other engine as far as the buffer
holds it. -/
theorem heard (short : 2 * hop.frame.length ≤ payloadLimit) :
    hop.read.1 = .ok 1 ∧
      ∃ remote, hop.read.2.2.engines[hop.receiver]? = some
        ((hop.receiving.aim remote).hear
          ((encodeAudio hop.frame).take settings.bufferSize.toNat)) := by
  have waits := hop.queue_far
  rw [if_pos short] at waits
  exact Session.onReadable_single hop.bound hop.served hop.equipped waits _

/-- Of a longer one, nothing is heard at all. -/
theorem unheard (long : ¬ 2 * hop.frame.length ≤ payloadLimit) :
    hop.read.2.2.engines[hop.receiver]? = some hop.receiving := by
  have waits := hop.queue_far
  rw [if_neg long] at waits
  have nothing : Fabric.leadingDatagrams (hop.far.fabric.queue hop.destination) = [] := by
    rw [waits, Fabric.leadingDatagrams.eq_def]
  rw [read, Session.onReadable_of_blocked hop.bound nothing]
  exact hop.equipped

/-- The samples that are left are those in the queue of the other engine. -/
theorem leaves_iff {state : Engine} (found : hop.read.2.2.engines[hop.receiver]? = some state)
    (queue : Frame) :
    hop.Leaves queue ↔ state.queue = queue ∧ state.dropped = hop.receiving.dropped := by
  constructor
  · rintro ⟨other, foundOther, left⟩
    cases found.symm.trans foundOther
    exact left
  · intro left
    exact ⟨state, found, left⟩

/-- **A frame survives exactly when it is within three limits:** that of a datagram, that of the
buffer, and that of the queue. -/
theorem survives_iff : hop.Survives ↔
    2 * hop.frame.length ≤ payloadLimit ∧
      2 * hop.frame.length ≤ settings.bufferSize.toNat ∧
      hop.frame.length ≤ Account.bound settings.engine := by
  rw [Survives, ← hop.reached.sized.bound_eq]
  by_cases short : 2 * hop.frame.length ≤ payloadLimit
  · obtain ⟨_, remote, found⟩ := hop.heard short
    have empty : (hop.receiving.aim remote).queue = [] := hop.empty
    have intact := Engine.hear_take_iff empty hop.frame settings.bufferSize.toNat
    rw [hop.leaves_iff found]
    exact intact.trans (and_iff_right short).symm
  · -- A frame that is too long is not empty, so it is not what an empty queue holds.
    rw [hop.leaves_iff (hop.unheard short), hop.empty]
    refine ⟨fun ⟨queue, _⟩ => ?_, fun ⟨short', _⟩ => absurd short' short⟩
    rw [← queue, List.length_nil] at short
    exact absurd (Nat.zero_le _) short

/-- Of a frame that is within the limits of a datagram and of the queue, those samples are left that
the buffer holds. -/
theorem leaves_take (short : 2 * hop.frame.length ≤ payloadLimit)
    (room : hop.frame.length ≤ Account.bound settings.engine) :
    hop.Leaves (hop.frame.take (settings.bufferSize.toNat / 2)) := by
  obtain ⟨_, remote, found⟩ := hop.heard short
  have decoded := decodeAudio_take hop.frame settings.bufferSize.toNat
  have empty : (hop.receiving.aim remote).queue = [] := hop.empty
  have limit : (hop.receiving.aim remote).maxQueued.toNat = Account.bound settings.engine :=
    (hop.reached.used (.aim remote)).sized.bound_eq
  have fits : (hop.receiving.aim remote).queue.length +
      (decodeAudio ((encodeAudio hop.frame).take settings.bufferSize.toNat)).length ≤
      (hop.receiving.aim remote).maxQueued.toNat := by
    rw [decoded, empty, limit, List.length_nil, Nat.zero_add]
    exact Nat.le_trans (List.length_take_le' _ _) room
  rw [hop.leaves_iff found, Engine.hear_of_fits fits, decoded, empty, List.nil_append]
  exact ⟨rfl, rfl⟩

/-! ## Two legs of a call -/

/-- The two legs of a call that a relay with default settings opens for a setup which aims each of
them at the other, and the resources that remain. -/
def facing : Except Fault (Session × Session) × Resources :=
  Exchange.openLegs .gateway 1 (.toGateway .placeholder ⟨.loopback, 37001⟩ ⟨.loopback, 37000⟩)
    (.ofSettings {} .unfailing .loopback .loopback)

/-- A frame that the engine of the outbound leg sends to the inbound leg, read by a relay that
differs from the default in the size of its buffer only. -/
def toInbound (bufferSize : UInt64) (frame : Frame) (fits : frame.length ≤ 160) :
    Hop { bufferSize := bufferSize } where
  frame := frame
  near := facing.2
  sender := 1
  sending := ((facing.2.engines)[1]?).getD (.blank {})
  source := ⟨.loopback, 37001⟩
  destination := ⟨.loopback, 37000⟩
  far := (facing.2.take 1 frame).2
  session := (facing.1.toOption.map Prod.fst).getD (.fresh ⟨0⟩ .gateway .inbound 1)
  receiver := 0
  receiving := ((facing.2.engines)[0]?).getD (.blank {})
  fits := fits
  sends := by decide +kernel
  aimed := by decide +kernel
  carried := Fabric.carries_loopback rfl _ (by decide) (by decide)
  listening := by decide +kernel
  unread := by decide +kernel
  sent := rfl
  bound := by decide +kernel
  served := by decide +kernel
  equipped := by
    rw [Resources.engines_take]
    decide +kernel
  reached := by
    have attached : ((facing.2.engines)[0]?).getD (.blank {}) =
        (Engine.blank {}).attach ⟨⟨0⟩, .placeholder, .gateway, .inbound,
          ⟨.loopback, 37000⟩, some ⟨.loopback, 37001⟩⟩ := by decide +kernel
    rw [attached]
    have sized : (Settings.engine {}).queueOverflows = false := by decide
    exact (Engine.Reachable.made (Engine.ofSettings_eq_ok sized)).used (.attach _)
  empty := by decide +kernel

/-- A frame of the default size, under settings with any buffer. -/
def wholeFrame (bufferSize : UInt64) : Hop { bufferSize := bufferSize } :=
  toInbound bufferSize (List.replicate 160 0) (Nat.le_of_eq List.length_replicate)

theorem length_wholeFrame (bufferSize : UInt64) : (wholeFrame bufferSize).frame.length = 160 :=
  List.length_replicate

/-! ## What valid settings leave to the buffer -/

/-- **Under valid settings only the buffer harms a frame:** of the three limits the other two are
kept, so the frame is sent, the datagram is read, and of its samples those wait that the buffer
holds. -/
theorem survives_of_validate (accepted : settings.validate = .ok ()) :
    (hop.Survives ↔
      2 * hop.frame.length ≤ payloadLimit ∧
        2 * hop.frame.length ≤ settings.bufferSize.toNat ∧
        hop.frame.length ≤ Account.bound settings.engine) ∧
      (hop.near.take hop.sender hop.frame).1 = .ok () ∧ hop.read.1 = .ok 1 ∧
      hop.Leaves (hop.frame.take (settings.bufferSize.toNat / 2)) ∧
      (hop.Survives ↔ 2 * hop.frame.length ≤ settings.bufferSize.toNat) := by
  obtain ⟨_, _, _, _, _, _, _, acceptedEngine⟩ := Settings.validate_eq_ok_iff.mp accepted
  obtain ⟨_, bytes, _⟩ := EngineSettings.validate_eq_ok_iff.mp acceptedEngine
  have fits := hop.fits
  have short : 2 * hop.frame.length ≤ payloadLimit := by
    rw [payloadLimit]
    omega
  have room : hop.frame.length ≤ Account.bound settings.engine :=
    Nat.le_trans fits (EngineSettings.frameSamples_le_bound acceptedEngine)
  have sent := (Resources.take_carried hop.sends hop.aimed hop.carried hop.frame).1 short
  refine ⟨hop.survives_iff, sent, (hop.heard short).1, hop.leaves_take short room, ?_⟩
  rw [hop.survives_iff]
  exact ⟨fun within => within.2.1, fun held => ⟨short, held, room⟩⟩

/-- With the default buffer, a frame of the default size survives. -/
theorem survives_wholeFrame :
    Settings.validate { bufferSize := 2048 } = .ok () ∧
      ((wholeFrame 2048).near.take (wholeFrame 2048).sender (wholeFrame 2048).frame).1 = .ok () ∧
      (wholeFrame 2048).read.1 = .ok 1 ∧ (wholeFrame 2048).Survives := by
  have accepted : Settings.validate { bufferSize := 2048 } = .ok () := rfl
  obtain ⟨_, sent, read, _, survives⟩ := survives_of_validate (wholeFrame 2048) accepted
  refine ⟨accepted, sent, read, survives.mpr ?_⟩
  rw [length_wholeFrame]
  decide

/-- **Settings are accepted although a frame does not fit the buffer.** With the smallest buffer, a
frame of the default size loses its last 32 samples on the way. -/
theorem cut_wholeFrame :
    Settings.validate { bufferSize := 256 } = .ok () ∧
      (wholeFrame 256).Leaves (List.replicate 128 0) ∧ ¬ (wholeFrame 256).Survives := by
  have short : 2 * (wholeFrame 256).frame.length ≤ payloadLimit := by
    rw [length_wholeFrame]
    decide
  have room : (wholeFrame 256).frame.length ≤
      Account.bound (Settings.engine { bufferSize := 256 }) := by
    rw [length_wholeFrame]
    decide
  refine ⟨rfl, (wholeFrame 256).leaves_take short room, fun survives => ?_⟩
  obtain ⟨_, held, _⟩ := (wholeFrame 256).survives_iff.mp survives
  rw [length_wholeFrame] at held
  exact absurd held (by decide)

end Hop

/-! ## Hops of a gateway -/

namespace Gateway

/-- **A frame from one leg of a gateway to another is on a hop:** in whatever state the gateway is,
when the leg that is given the frame is aimed at the socket of the other one, where nothing waits to
be read or to be handed out. -/
theorem Reachable.exists_hop {gateway : Gateway} (reached : gateway.Reachable)
    {place other sender receiver : Nat} {leg partner : Session} {source destination : Endpoint}
    (found : gateway.exchange.table.session? place = some leg)
    (foundPartner : gateway.exchange.table.session? other = some partner)
    (has : leg.engine = some sender) (hasPartner : partner.engine = some receiver)
    (bound : leg.socket = some source) (aimed : leg.remote = some destination)
    (boundPartner : partner.socket = some destination)
    (carried : gateway.exchange.resources.fabric.Carries source destination)
    (unread : gateway.exchange.resources.fabric.queue destination = [])
    (empty : gateway.exchange.resources.waiting receiver = []) {frame : Frame}
    (fits : frame.length ≤ gateway.settings.engine.frameSamples.toNat) :
    ∃ hop : Hop gateway.settings, hop.frame = frame ∧ hop.sender = sender ∧
      hop.near = gateway.exchange.resources ∧ hop.session = partner ∧ hop.receiver = receiver ∧
      hop.far = (gateway.exchange.resources.take sender frame).2 := by
  obtain ⟨slot, slotFound, rfl⟩ := Table.slot_of_session? found
  obtain ⟨slot', slotFound', rfl⟩ := Table.slot_of_session? foundPartner
  have serves := reached.attained.sends.1.serves
  obtain ⟨sending, _, sends, boundToo, _, outlet⟩ :=
    serves _ (Table.mem_roster slotFound) sender has
  obtain ⟨receiving, _, equipped, _⟩ := serves _ (Table.mem_roster slotFound') receiver hasPartner
  cases bound.symm.trans boundToo
  have inTable : destination ∈ gateway.exchange.table.sockets :=
    List.mem_filterMap.mpr ⟨_,
      reached.sound.gist_mem (List.mem_of_getElem? slotFound') hasPartner, boundPartner⟩
  have listening : (gateway.exchange.resources.fabric.holder? destination).isSome = true := by
    rw [reached.sound.wired.held destination inTable]
    rfl
  have nothing : receiving.queue = [] := by
    rw [Resources.waiting, equipped] at empty
    exact empty
  have stays : (gateway.exchange.resources.take sender frame).2.engines[receiver]? =
      some receiving := by
    rw [Resources.engines_take]
    exact equipped
  refine ⟨⟨frame, _, sender, sending, source, destination, _, _, receiver, receiving, fits, sends,
    ?_, carried, listening, unread, rfl, boundPartner, hasPartner, stays,
    reached.attained.operated equipped, nothing⟩, rfl, rfl, rfl, rfl, rfl, rfl⟩
  rw [outlet]
  exact congrArg _ (congrArg _ aimed)

end Gateway

end FaxRelay
