import FaxRelay.Proofs.Drawings
import Mathlib.Logic.Function.Iterate

/-!
# Giving back

A session may be destroyed at any moment between its creation and its end:
before it was opened, after an attempt that failed at any of its steps, linked,
bridged, in the middle of traffic. `Session.Life` lists what can have happened
to it by then, and to the network around it; nobody else draws on the supplies
meanwhile.

A session remembers one number, one port, one socket and one engine, and gives
these back. An attempt to open a leg that failed may be made again, though: it
takes another port, and the session forgets the one that it had
(`Session.dropped`). The socket of the earlier attempt is closed, its port is
not given back. So destroying a session gives back everything that it drew but
the ports that it forgot (`Session.Life.undone`).

At every moment of a life, what was drawn since the creation is what the session
names and the ports that it has lost (`Session.Owes`). Destroying the session
settles this account.
-/

set_option autoImplicit false

namespace FaxRelay

open FaxRelay.Media FaxRelay.Net FaxRelay.Pool FaxRelay.Signal

namespace Session

/-! ## The life of a session -/

/-- The ports that a session named and names no longer. -/
def dropped (earlier later : Session) : List UInt16 :=
  earlier.port.toList.filter fun port => later.port ≠ some port

/-- One thing that happens to a session before its end: an operation on it, alone or together with
another session, with any outcome; or something that others do to the network. An operation that
links or bridges sessions and fails changes nothing. -/
inductive Moves : Session × Resources → Session × Resources → Prop where
  | openControl (session : Session) (address : Endpoint) (resources : Resources) :
      Moves (session, resources) (session.openControl address resources).2
  | openMedia (session : Session) (callId : CallId) (remote : Option Endpoint)
      (resources : Resources) :
      Moves (session, resources) (session.openMedia callId remote resources).2
  | link {session other after otherAfter : Session} (resources : Resources)
      (linked : link session other = .ok (after, otherAfter)) :
      Moves (session, resources) (after, resources)
  | linkedBy {session other after otherAfter : Session} (resources : Resources)
      (linked : link other session = .ok (otherAfter, after)) :
      Moves (session, resources) (after, resources)
  | startBridge {session peer after peerAfter : Session} (resources : Resources)
      (bridged : session.startBridge peer = .ok (after, peerAfter)) :
      Moves (session, resources) (after, resources)
  | bridgedBy {session peer after peerAfter : Session} (resources : Resources)
      (bridged : peer.startBridge session = .ok (peerAfter, after)) :
      Moves (session, resources) (after, resources)
  | stopBridge (session : Session) (resources : Resources) :
      Moves (session, resources) (session.stopBridge, resources)
  | runBridge (session : Session) (count : Nat) (resources : Resources) :
      Moves (session, resources) (session.runBridge count resources)
  | receive (session : Session) (size : Nat) (resources : Resources) :
      Moves (session, resources) (session.receive size resources).2
  | onReadable (session : Session) (size : Nat) (resources : Resources) :
      Moves (session, resources) (session.onReadable size resources).2
  | send (session : Session) (payload : Payload) (resources : Resources) :
      Moves (session, resources) (session, (session.send payload resources).2)
  | network (session : Session) {resources : Resources} {fabric : Fabric}
      (moved : resources.fabric.Outside fabric) :
      Moves (session, resources) (session, { resources with fabric := fabric })

/-- What a session can have come to since it was created, and the ports that it has dropped on the
way, the latest first. -/
inductive Life (created : Session × Resources) : Session × Resources → List UInt16 → Prop where
  | created : Life created created []
  | moved {before after : Session × Resources} {lost : List UInt16}
      (lived : Life created before lost) (moves : Moves before after) :
      Life created after (before.1.dropped after.1 ++ lost)

/-- What a session names of the resources. -/
def holdings (session : Session) :
    SessionId × Bool × Option UInt16 × Option Endpoint × Option Nat :=
  (session.id, session.ownsId, session.port, session.socket, session.engine)

/-- The account of a session that is not destroyed: what was drawn since `before` is what it names
and the ports that it has lost. -/
structure Owes (before : Resources) (lost : List UInt16) (session : Session)
    (resources : Resources) : Prop where
  isOpen : session.stage ≠ .complete
  owns : session.ownsId = true
  unequipped : session.stage = .null → session.engine = none
  drawn : Resources.Drawn [session.id] (session.port.toList ++ lost) session.socket.toList
    session.engine.toList before resources

theorem port_openControl (session : Session) (address : Endpoint) (resources : Resources) :
    (session.openControl address resources).2.1.port = session.port := by
  rw [openControl]
  split
  · rfl
  split
  · rfl
  split
  · rfl
  next opened =>
  rw [bindSocket] at opened
  split at opened
  · cases opened
  · cases opened
    rfl

theorem dropped_of_none {earlier : Session} (free : earlier.port = none) (later : Session) :
    earlier.dropped later = [] := by
  rw [dropped, free]
  rfl

theorem dropped_of_port_eq {earlier later : Session} (same : later.port = earlier.port) :
    earlier.dropped later = [] := by
  rw [dropped, same]
  cases earlier.port <;> simp

namespace Owes

variable {before resources after : Resources} {lost : List UInt16} {session other : Session}

/-! ### Opening -/

theorem create {role : Role} {index : Nat} {direction : Direction} (sound : before.Sound)
    (created : Session.create role index direction before = .ok (session, resources)) :
    Owes before [] session resources := by
  obtain ⟨_, id, ids, issued, rfl, rfl⟩ := Session.create_eq_ok created
  exact ⟨Stage.noConfusion, rfl, fun _ => rfl, (Resources.Drawn.refl sound).allocateId issued⟩

/-- The account is about what a session names; its other fields do not matter, unless it begins
anew. -/
theorem of_holdings (owes : Owes before lost session resources)
    (same : other.holdings = session.holdings) (isOpen : other.stage ≠ .complete)
    (begun : other.stage = .null → session.stage = .null) : Owes before lost other resources := by
  obtain ⟨id, owns, port, socket, engine⟩ := by
    simpa only [holdings, Prod.mk.injEq] using same
  exact ⟨isOpen, owns.trans owes.owns, fun idle => engine.trans (owes.unequipped (begun idle)),
    by rw [id, port, socket, engine]; exact owes.drawn⟩

/-- A session that takes another port drops the one that it had. -/
theorem takePort (owes : Owes before lost session resources) {port : UInt16} {rest : MediaPorts}
    (issued : resources.ports.allocate = .ok (port, rest)) :
    Owes before (session.port.toList ++ lost) { session with port := some port }
      { resources with ports := rest } :=
  ⟨owes.isOpen, owes.owns, owes.unequipped, owes.drawn.allocatePort issued⟩

/-- The port that is issued is not the one that the session has. -/
theorem dropped_issued (owes : Owes before lost session resources) {port : UInt16}
    {rest : MediaPorts} (issued : resources.ports.allocate = .ok (port, rest))
    (named : other.port = some port) : session.dropped other = session.port.toList := by
  rw [dropped, named, List.filter_eq_self]
  intro old has
  have allocated : resources.ports.isAllocated old = true :=
    (owes.drawn.ports_besides.iff old).mpr (.inl (List.mem_append_left _ has))
  refine decide_eq_true fun same => ?_
  cases same
  rw [MediaPorts.isAllocated_of_allocate owes.drawn.sound.ports issued] at allocated
  cases allocated

/-- A session that binds another socket closes the one that it had. -/
theorem bindSocket (owes : Owes before lost session resources) {address : Endpoint}
    {bound : Session} (opened : session.bindSocket address resources = .ok (bound, after)) :
    Owes before lost bound after ∧ bound.stage = session.stage ∧ bound.port = session.port := by
  rw [Session.bindSocket, Resources.openSocket] at opened
  split at opened
  · cases opened
  next result accepted =>
  split at accepted
  · next fabric free =>
    cases accepted
    cases opened
    refine ⟨⟨owes.isOpen, owes.owns, owes.unequipped, ?_⟩, rfl, rfl⟩
    have drawn := owes.drawn.bind free
    cases named : session.socket with
    | none =>
      rw [named] at drawn
      exact drawn
    | some old =>
      rw [named] at drawn
      exact (drawn.sockets_perm (List.Perm.swap old address [])).closeSocket
  · cases accepted

theorem equip (owes : Owes before lost session resources) (idle : session.stage = .null)
    (callId : CallId) (address : Endpoint) :
    Owes before lost (session.equip callId address resources).2.1
        (session.equip callId address resources).2.2 ∧
      (session.equip callId address resources).2.1.port = session.port := by
  have drawn := owes.drawn
  rw [owes.unequipped idle] at drawn
  rcases session.equip_cases callId address resources with
    ⟨fault, later, refused, supplies, grown⟩ | ⟨later, accepted, supplies, grown⟩
  · rw [refused]
    refine ⟨⟨owes.isOpen, owes.owns, owes.unequipped, ?_⟩, rfl⟩
    rw [owes.unequipped idle]
    exact drawn.grown supplies grown
  · rw [accepted]
    exact ⟨⟨Stage.noConfusion, owes.owns, Stage.noConfusion, drawn.grown supplies grown⟩, rfl⟩

theorem openControl (owes : Owes before lost session resources) (address : Endpoint) :
    Owes before lost (session.openControl address resources).2.1
      (session.openControl address resources).2.2 := by
  rw [Session.openControl]
  split
  · exact owes
  split
  · exact owes
  split
  · exact owes
  next opened =>
  obtain ⟨bound, _⟩ := owes.bindSocket opened
  exact bound.of_holdings rfl Stage.noConfusion Stage.noConfusion

/-- **Wherever an attempt to open a leg stops,** the account of the session is right: what the
attempt drew is named by the session, and the port of the attempt before it is dropped. -/
theorem openMedia (owes : Owes before lost session resources) (callId : CallId)
    (remote : Option Endpoint) :
    Owes before
      (session.dropped (session.openMedia callId remote resources).2.1 ++ lost)
      (session.openMedia callId remote resources).2.1
      (session.openMedia callId remote resources).2.2 := by
  have unchanged : ∀ {other : Session}, other.port = session.port →
      Owes before lost other resources →
      Owes before (session.dropped other ++ lost) other resources := by
    intro other port kept
    rwa [dropped_of_port_eq port]
  rw [Session.openMedia]
  split
  · exact unchanged rfl owes
  next addressed =>
  split
  · exact unchanged rfl owes
  have idle : session.stage = .null :=
    Decidable.not_not.mp fun begun => addressed (.inr begun)
  dsimp only
  split
  · exact unchanged rfl (owes.of_holdings rfl owes.isOpen fun _ => idle)
  next port rest issued =>
  have taken : Owes before (session.port.toList ++ lost)
      { session with callId := some callId, remote := remote, port := some port }
      { resources with ports := rest } :=
    (owes.takePort issued).of_holdings rfl owes.isOpen fun _ => idle
  split
  · rw [owes.dropped_issued issued rfl]
    exact taken
  next bound opening opened =>
  obtain ⟨owed, stage, named⟩ := taken.bindSocket opened
  obtain ⟨equipped, port_eq⟩ := owed.equip (stage.trans idle) callId ⟨opening.mediaIp, port⟩
  rw [owes.dropped_issued issued (port_eq.trans named)]
  exact equipped

end Owes

/-! ### Pairing and traffic -/

/-- A session that was linked or bridged in between has what it had, and has at most moved on. -/
structure Paired (before after : Session) : Prop where
  holdings_eq : after.holdings = before.holdings
  stage_eq : after.stage = before.stage ∨ after.stage = .progress

theorem Paired.port_eq {before after : Session} (paired : Paired before after) :
    after.port = before.port := congrArg (fun held => held.2.2.1) paired.holdings_eq

theorem link_paired {first second after otherAfter : Session}
    (linked : link first second = .ok (after, otherAfter)) :
    Paired first after ∧ Paired second otherAfter := by
  rw [link] at linked
  split at linked
  · cases linked
  · cases linked
    exact ⟨⟨rfl, .inl rfl⟩, rfl, .inl rfl⟩

theorem startBridge_paired {session peer after peerAfter : Session}
    (bridged : session.startBridge peer = .ok (after, peerAfter)) :
    Paired session after ∧ Paired peer peerAfter := by
  rw [startBridge] at bridged
  split at bridged
  · cases bridged
  split at bridged
  · cases bridged
  split at bridged
  · cases bridged
    exact ⟨⟨rfl, .inr rfl⟩, rfl, .inr rfl⟩
  · cases bridged

theorem Owes.of_paired {before resources : Resources} {lost : List UInt16}
    {session other : Session} (owes : Owes before lost session resources)
    (paired : Paired session other) : Owes before lost other resources := by
  rcases paired.stage_eq with stage | stage
  · exact owes.of_holdings paired.holdings_eq (stage ▸ owes.isOpen) fun idle => stage ▸ idle
  · refine owes.of_holdings paired.holdings_eq (stage ▸ Stage.noConfusion) fun idle => ?_
    rw [stage] at idle
    cases idle

/-- Traffic changes neither what a session names nor what is taken. -/
theorem passed {session other : Session} {resources after : Resources}
    (gist : other.gist = session.gist) (traffic : resources.Traffic after)
    (steady : resources.Steady after) :
    other.port = session.port ∧ ∀ {start : Resources} {lost : List UInt16},
      Owes start lost session resources → Owes start lost other after := by
  have paired : Paired session other := by
    refine ⟨?_, .inl ?_⟩
    · show other.gist.holdings = session.gist.holdings
      rw [gist]
    · show other.gist.stage = session.gist.stage
      rw [gist]
  refine ⟨paired.port_eq, fun owes => ?_⟩
  have kept : Owes _ _ session after := { owes with drawn := owes.drawn.traffic traffic steady }
  exact kept.of_paired paired

theorem traffic_receive (session : Session) (size : Nat) (resources : Resources) :
    (session.receive size resources).2.1.gist = session.gist ∧
      resources.Traffic (session.receive size resources).2.2 ∧
      resources.Steady (session.receive size resources).2.2 := by
  rw [receive]
  split
  · exact ⟨rfl, .refl resources, .refl resources⟩
  next address _ =>
  have traffic : resources.Traffic
      { resources with fabric := (resources.fabric.receive address).2 } :=
    resources.traffic_fabric (resources.fabric.keeps_update address fun _ => rfl)
  have steady : resources.Steady
      { resources with fabric := (resources.fabric.receive address).2 } :=
    resources.steady_fabric rfl fun other => Fabric.holder?_update address other fun _ => rfl
  dsimp only
  split
  · exact ⟨rfl, traffic, steady⟩
  · exact ⟨rfl, traffic, steady⟩
  · next sender payload _ =>
    refine ⟨?_, traffic, steady⟩
    split
    · exact session.gist_heardFrom sender
    · rfl

/-! ## Every life -/

/-- Nothing but an attempt to open a leg touches the port of a session, and everything else keeps
its account as it is. -/
theorem Moves.cases {before after : Session × Resources} (moves : Moves before after) :
    (∃ callId remote, after = (before.1.openMedia callId remote before.2).2) ∨
      after.1.port = before.1.port ∧ ∀ {start : Resources} {lost : List UInt16},
        Owes start lost before.1 before.2 → Owes start lost after.1 after.2 := by
  cases moves with
  | openControl session address resources =>
    exact .inr ⟨session.port_openControl address resources, fun owes => owes.openControl address⟩
  | openMedia session callId remote resources => exact .inl ⟨callId, remote, rfl⟩
  | link _ linked =>
    obtain ⟨paired, _⟩ := link_paired linked
    exact .inr ⟨paired.port_eq, fun owes => owes.of_paired paired⟩
  | linkedBy _ linked =>
    obtain ⟨_, paired⟩ := link_paired linked
    exact .inr ⟨paired.port_eq, fun owes => owes.of_paired paired⟩
  | startBridge _ bridged =>
    obtain ⟨paired, _⟩ := startBridge_paired bridged
    exact .inr ⟨paired.port_eq, fun owes => owes.of_paired paired⟩
  | bridgedBy _ bridged =>
    obtain ⟨_, paired⟩ := startBridge_paired bridged
    exact .inr ⟨paired.port_eq, fun owes => owes.of_paired paired⟩
  | stopBridge session resources =>
    exact .inr ⟨rfl, fun owes => owes.of_paired ⟨rfl, .inl rfl⟩⟩
  | runBridge session count resources =>
    obtain ⟨gist, traffic⟩ := session.traffic_runBridge resources count
    exact .inr (passed gist traffic (session.steady_runBridge resources count))
  | receive session size resources =>
    obtain ⟨gist, traffic, steady⟩ := session.traffic_receive size resources
    exact .inr (passed gist traffic steady)
  | onReadable session size resources =>
    obtain ⟨gist, traffic⟩ := session.traffic_onReadable resources size
    exact .inr (passed gist traffic (session.steady_onReadable resources size))
  | send session payload resources =>
    exact .inr (passed rfl (session.traffic_send resources payload)
      (session.steady_send resources payload))
  | network session moved =>
    exact .inr ⟨rfl, fun owes => { owes with drawn := owes.drawn.outside moved }⟩

/-- **Whatever happens to a session,** its account stays right, with the ports that it drops
entered as lost. -/
theorem Moves.owes {start : Resources} {lost : List UInt16} {before after : Session × Resources}
    (moves : Moves before after) (owes : Owes start lost before.1 before.2) :
    Owes start (before.1.dropped after.1 ++ lost) after.1 after.2 := by
  rcases moves.cases with ⟨callId, remote, rfl⟩ | ⟨port, keeps⟩
  · exact owes.openMedia callId remote
  · rw [dropped_of_port_eq port]
    exact keeps owes

/-- The account is right at every moment of a life. -/
theorem Life.owes {start : Resources} {created state : Session × Resources} {lost : List UInt16}
    (lived : Life created state lost) (begun : Owes start [] created.1 created.2) :
    Owes start lost state.1 state.2 := by
  induction lived with
  | created => exact begun
  | moved _ moves ih => exact moves.owes ih

/-! ## The end -/

/-- **Destroying a session settles its account:** what it names is given back, and what it lost is
not. -/
theorem Owes.destroy {before resources : Resources} {lost : List UInt16} {session : Session}
    (owes : Owes before lost session resources) :
    before.Drawn [] lost [] [] (session.destroy resources).2 := by
  obtain ⟨isOpen, owns, _, drawn⟩ := owes
  simp only [Session.destroy, if_neg isOpen, owns, if_true]
  -- What is given back goes in the order of the destruction: engine, socket, port, number.
  have retired : before.Drawn [session.id] (session.port.toList ++ lost) session.socket.toList []
      (session.engine.elim resources resources.retireEngine) := by
    cases named : session.engine with
    | none => rwa [named] at drawn
    | some engine =>
      rw [named] at drawn
      exact drawn.retireEngine
  generalize session.engine.elim resources resources.retireEngine = freed at *
  have closed : before.Drawn [session.id] (session.port.toList ++ lost) [] []
      (session.socket.elim freed freed.closeSocket) := by
    cases named : session.socket with
    | none => rwa [named] at retired
    | some address =>
      rw [named] at retired
      exact retired.closeSocket
  generalize session.socket.elim freed freed.closeSocket = unbound at *
  have returned : before.Drawn [session.id] lost [] []
      (session.port.elim unbound unbound.releasePort) := by
    cases named : session.port with
    | none => rwa [named] at closed
    | some port =>
      rw [named] at closed
      exact closed.releasePort
  exact returned.releaseId

/-- A session and its resources after it was destroyed a number of times. -/
def destroyed (count : Nat) (state : Session × Resources) : Session × Resources :=
  (fun state => state.1.destroy state.2)^[count] state

/-- A session that was destroyed has nothing left. -/
theorem destroy_fst {session : Session} (isOpen : session.stage ≠ .complete)
    (resources : Resources) :
    (session.destroy resources).1 =
      { session.stopBridge with
        engine := none
        socket := none
        port := none
        ownsId := false
        peer := none
        stage := .complete } := by
  rw [destroy, if_neg isOpen]

/-- Destroying a session again changes nothing. -/
theorem destroyed_succ {session : Session} (isOpen : session.stage ≠ .complete)
    (resources : Resources) (again : Nat) :
    destroyed (again + 1) (session, resources) = session.destroy resources := by
  induction again with
  | zero => rfl
  | succ again ih =>
    rw [destroyed, Function.iterate_succ_apply', ← destroyed, ih]
    have complete : (session.destroy resources).1.stage = .complete := by
      rw [destroy_fst isOpen]
    rw [destroy, if_pos complete]

/-- What is left when a session is gone that was created on `before` and has lost some ports: these
ports are issued, and nothing else besides what was before; no socket of the relay is open besides
those that were, every engine that was attached in between was retired, and no pool refused what was
given back. -/
structure Undone (before : Resources) (lost : List UInt16) (ended : Session × Resources) :
    Prop where
  ids : ∀ id, ended.2.ids.isAllocated id = before.ids.isAllocated id
  ports : ∀ port, ended.2.ports.isAllocated port = true ↔
    port ∈ lost ∨ before.ports.isAllocated port = true
  lost_fresh : ∀ port ∈ lost, before.ports.isAllocated port = false
  lost_nodup : lost.Nodup
  restored_iff : (∀ port, ended.2.ports.isAllocated port = before.ports.isAllocated port) ↔
    lost = []
  sockets : ∀ address, ended.2.fabric.holder? address = some .relay ↔
    before.fabric.holder? address = some .relay
  unbound : ended.1.socket = none
  history : ∃ events, ended.2.journal = events ++ before.journal ∧
    (attachments events).Perm (retirements events) ∧ ∀ event ∈ events, event.isRefusal = false

theorem Undone.of_drawn {before : Resources} {lost : List UInt16} {ended : Session × Resources}
    (drawn : before.Drawn [] lost [] [] ended.2) (unbound : ended.1.socket = none) :
    Undone before lost ended where
  ids id := Bool.eq_iff_iff.mpr (drawn.ids_besides.restored id)
  ports := drawn.ports_besides.iff
  lost_fresh port member := Bool.eq_false_iff.mpr (drawn.ports_besides.fresh port member)
  lost_nodup := drawn.ports_besides.nodup
  restored_iff := by
    constructor
    · intro restored
      refine List.eq_nil_iff_forall_not_mem.mpr fun port member => ?_
      have issued : ended.2.ports.isAllocated port = true :=
        (drawn.ports_besides.iff port).mpr (.inl member)
      rw [restored] at issued
      exact drawn.ports_besides.fresh port member issued
    · rintro rfl port
      exact Bool.eq_iff_iff.mpr (drawn.ports_besides.restored port)
  sockets := drawn.sockets_besides.restored
  unbound := unbound
  history := by
    obtain ⟨events, journal, settled⟩ := drawn.history
    exact ⟨events, journal, settled.balanced, settled.accepted⟩

/-- At some moment of its life, a session that had taken a port in an attempt to open it, which had
failed, was opened once more and took another port. -/
def Reopened (created : Session × Resources) (port : UInt16) : Prop :=
  ∃ session resources lost callId remote, Life created (session, resources) lost ∧
    session.stage = .null ∧ session.port = some port ∧
      (session.openMedia callId remote resources).2.1.port ≠ some port

/-- Nothing is lost but the port of an attempt after which there was another. -/
theorem Life.reopened {created state : Session × Resources} {lost : List UInt16}
    (lived : Life created state lost) {port : UInt16} (member : port ∈ lost) :
    Reopened created port := by
  induction lived with
  | created => cases member
  | @moved before after lost lived moves ih =>
    rcases List.mem_append.mp member with dropped | earlier
    · rw [Session.dropped, List.mem_filter, Option.mem_toList, decide_eq_true_iff] at dropped
      obtain ⟨had, differs⟩ := dropped
      rcases moves.cases with ⟨callId, remote, rfl⟩ | ⟨same, _⟩
      · refine ⟨before.1, before.2, lost, callId, remote, lived, ?_, had, differs⟩
        refine Decidable.not_not.mp fun begun => differs ?_
        rw [openMedia, if_pos (.inr begun)]
        exact had
      · exact absurd (same.trans had) differs
    · exact ih earlier

/-- **Destroying a session gives back whatever it drew,** at whatever moment of whatever life, and
however often it is destroyed, but for the ports that it lost: each of them was taken in an attempt
to open the session that failed and was made again. -/
theorem Life.undone {role : Role} {index : Nat} {direction : Direction} {before : Resources}
    {created state : Session × Resources} {lost : List UInt16} (sound : before.Sound)
    (creates : Session.create role index direction before = .ok created)
    (lived : Life created state lost) (again : Nat) :
    Undone before lost (destroyed (again + 1) state) ∧ ∀ port ∈ lost, Reopened created port := by
  have owes : Owes before lost state.1 state.2 := lived.owes (.create sound creates)
  refine ⟨?_, fun port member => lived.reopened member⟩
  rw [destroyed_succ owes.isOpen]
  exact .of_drawn owes.destroy (by rw [destroy_fst owes.isOpen])

end Session

namespace Resources

/-- Fresh resources whose supply of engines refuses the first attempt to make one. -/
def reluctant : Resources :=
  .ofSettings {} ⟨fun attempt => if attempt = 0 then some "refused" else none, fun _ => none⟩
    .loopback Ipv4.loopback

theorem sound_reluctant : reluctant.Sound :=
  ⟨SessionIds.sound_ofSize (by decide), MediaPorts.sound_ofRange (by decide)⟩

end Resources

namespace Session

/-- One more attempt to open a terminal leg. -/
def attempted (state : Session × Resources) : Session × Resources :=
  (state.1.openMedia CallId.placeholder none state.2).2

/-- A leg that failed for want of an engine, when it had its port and its socket, is undone. -/
theorem undone_attempted :
    ∃ created, Session.create .terminal 1 .outbound .reluctant = .ok created ∧
      (attempted created).1.stage = .null ∧ (attempted created).1.port = some 37000 ∧
      (attempted created).1.socket = some ⟨Ipv4.loopback, 37000⟩ ∧
      Undone .reluctant [] (destroyed 2 (attempted created)) := by
  have outcome : (Session.create .terminal 1 .outbound .reluctant).toOption.map (fun created =>
      (created.1.port, (attempted created).1.stage, (attempted created).1.port,
        (attempted created).1.socket)) =
      some (none, .null, some 37000, some ⟨Ipv4.loopback, 37000⟩) := by decide +kernel
  cases creates : Session.create .terminal 1 .outbound .reluctant with
  | error fault =>
    rw [creates] at outcome
    cases outcome
  | ok created =>
    rw [creates] at outcome
    simp only [Except.toOption, Option.map_some, Option.some.injEq, Prod.mk.injEq] at outcome
    obtain ⟨free, stage, port, socket⟩ := outcome
    have moved : Life created (attempted created)
        (created.1.dropped (attempted created).1 ++ []) :=
      Life.created.moved (.openMedia created.1 CallId.placeholder none created.2)
    rw [dropped_of_none free] at moved
    exact ⟨created, rfl, stage, port, socket,
      (Life.undone Resources.sound_reluctant creates moved 1).1⟩

/-- **A leg that is opened once more keeps the port of the first attempt taken** when it is
destroyed. -/
theorem port_kept_attempted :
    ∃ created lost, Session.create .terminal 1 .outbound .reluctant = .ok created ∧
      Life created (attempted (attempted created)) lost ∧
      Resources.reluctant.ports.isAllocated 37000 = false ∧
      (destroyed 1 (attempted (attempted created))).2.ports.isAllocated 37000 = true := by
  have outcome : (Session.create .terminal 1 .outbound .reluctant).toOption.map (fun created =>
      (destroyed 1 (attempted (attempted created))).2.ports.isAllocated 37000) =
      some true := by decide +kernel
  cases creates : Session.create .terminal 1 .outbound .reluctant with
  | error fault =>
    rw [creates] at outcome
    cases outcome
  | ok created =>
    rw [creates] at outcome
    exact ⟨created, _, rfl,
      (Life.created.moved (.openMedia _ CallId.placeholder none _)).moved
        (.openMedia _ CallId.placeholder none _),
      MediaPorts.isAllocated_ofRange _ _ _, Option.some.inj outcome⟩

end Session

end FaxRelay
