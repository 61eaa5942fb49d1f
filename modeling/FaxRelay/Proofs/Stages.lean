import FaxRelay.Proofs.GivingBack
import Mathlib.Logic.Function.Basic

/-!
# The stages of a session

A session is created, opened, bridged and destroyed, in this order. Its stage
never goes back, whatever is done to it and to the sessions around it, and with
whatever outcome (`Session.Lives.moves_forward`).

That a destroyed session stays destroyed is not checked where a bridge is
started: starting one looks at the engines of the two legs, and not at their
stages. What protects a destroyed session is that it has no engine. A media leg
has an engine exactly while it is open, and the control session never has one
(`Session.Consistent`); every operation keeps this, and it is what the stage rests on.

Operations on two sessions are followed in a crowd of sessions, of which any two
may be linked again and again, the destroyed ones among them. The resources on
which an operation draws are arbitrary each time. So the outcome of every
operation is arbitrary as well.
-/

set_option autoImplicit false

namespace FaxRelay

open FaxRelay.Media FaxRelay.Net FaxRelay.Pool FaxRelay.Signal

/-- The place of a stage in the life of a session. -/
def Stage.rank : Stage → Nat
  | .null => 0
  | .setup => 1
  | .progress => 2
  | .complete => 3

theorem Stage.rank_le_complete (stage : Stage) : stage.rank ≤ Stage.complete.rank := by
  cases stage <;> decide

namespace Session

/-! ## One session -/

/-- A session that has nothing to give back. -/
structure Emptied (session : Session) : Prop where
  no_socket : session.socket = none
  no_port : session.port = none
  no_engine : session.engine = none
  no_bridge : session.bridge = none
  disowned : session.ownsId = false

/-- What a session has fits its stage: it has an engine exactly if it is a media leg that is open,
and nothing at all once it is destroyed. -/
structure Consistent (session : Session) : Prop where
  engine_iff : session.engine.isSome = true ↔
    session.role ≠ .control ∧ (session.stage = .setup ∨ session.stage = .progress)
  emptied : session.stage = .complete → session.Emptied

/-- A session that was just created. -/
def IsCreated (session : Session) : Prop :=
  ∃ role index direction before after,
    Session.create role index direction before = .ok (session, after)

theorem IsCreated.consistent {session : Session} (created : session.IsCreated) :
    session.Consistent := by
  obtain ⟨role, index, direction, before, after, creates⟩ := created
  obtain ⟨_, id, ids, _, rfl, _⟩ := Session.create_eq_ok creates
  refine ⟨?_, fun ended => by cases ended⟩
  simp [fresh]

/-- A session goes on to another state: if what it has fits its stage, then its stage does not go
back, and what it has fits the stage that it is in then. -/
def Advances (before after : Session) : Prop :=
  before.Consistent → before.stage.rank ≤ after.stage.rank ∧ after.Consistent

namespace Advances

variable {first second third : Session}

theorem refl (session : Session) : Advances session session := fun fits => ⟨Nat.le_refl _, fits⟩

theorem trans (earlier : Advances first second) (later : Advances second third) :
    Advances first third := by
  intro fits
  obtain ⟨forward, fits⟩ := earlier fits
  obtain ⟨onward, fits⟩ := later fits
  exact ⟨Nat.le_trans forward onward, fits⟩

/-- A session whose stage, role and holdings stay, and which starts no bridge. -/
theorem of_holdings (stage : second.stage = first.stage) (role : second.role = first.role)
    (holds : second.holdings = first.holdings)
    (unbridged : first.bridge = none → second.bridge = none) : Advances first second := by
  intro fits
  obtain ⟨_, owns, port, socket, engine⟩ := by
    simpa only [holdings, Prod.mk.injEq] using holds
  refine ⟨Nat.le_of_eq (by rw [stage]), ?_, ?_⟩
  · rw [engine, role, stage]
    exact fits.engine_iff
  · intro ended
    obtain ⟨noSocket, noPort, noEngine, noBridge, disowned⟩ := fits.emptied (stage.symm.trans ended)
    exact ⟨socket.trans noSocket, port.trans noPort, engine.trans noEngine, unbridged noBridge,
      owns.trans disowned⟩

/-- A session that is not open yet is changed, and is not open after that either. -/
theorem of_idle (idle : first.stage = .null) (still : second.stage = .null)
    (role : second.role = first.role) (engine : second.engine = first.engine) :
    Advances first second := by
  intro fits
  refine ⟨Nat.le_of_eq (by rw [idle, still]), ?_, fun ended => ?_⟩
  · rw [engine, role, still, ← idle]
    exact fits.engine_iff
  · rw [still] at ended
    cases ended

/-- Traffic leaves the stage and what it rests on as they are. -/
theorem of_gist (gist : second.gist = first.gist) : Advances first second := by
  refine of_holdings ?_ ?_ ?_ ?_
  · show second.gist.stage = first.gist.stage
    rw [gist]
  · show second.gist.role = first.gist.role
    rw [gist]
  · show second.gist.holdings = first.gist.holdings
    rw [gist]
  · intro noBridge
    have bridges : second.gist.bridge = first.gist.bridge := by rw [gist]
    rw [Session.gist, Session.gist, noBridge] at bridges
    simpa using bridges

end Advances

/-! ### Opening -/

/-- Another socket changes nothing that the stage rests on. -/
theorem bindSocket_keeps {session bound : Session} {address : Endpoint}
    {resources after : Resources}
    (opened : session.bindSocket address resources = .ok (bound, after)) :
    bound.stage = session.stage ∧ bound.role = session.role ∧ bound.engine = session.engine := by
  rw [bindSocket] at opened
  split at opened
  · cases opened
  · cases opened
    exact ⟨rfl, rfl, rfl⟩

/-- The control session has no engine, before it is opened and after that. -/
theorem advances_openControl (session : Session) (address : Endpoint) (resources : Resources) :
    Advances session (session.openControl address resources).2.1 := by
  rw [openControl]
  split
  · exact .refl session
  next admitted =>
  obtain ⟨isControl, idle⟩ := by simpa using admitted
  split
  · exact .refl session
  split
  · exact .refl session
  next bound after opened =>
  obtain ⟨_, role, engine⟩ := bindSocket_keeps opened
  intro fits
  refine ⟨?_, ?_, fun ended => by cases ended⟩
  · show session.stage.rank ≤ Stage.setup.rank
    rw [idle]
    decide
  · have noEngine := fits.engine_iff
    simpa [role, engine, isControl] using noEngine

theorem advances_equip {session : Session} (media : session.role ≠ .control)
    (idle : session.stage = .null) (callId : CallId) (address : Endpoint)
    (resources : Resources) :
    Advances session (session.equip callId address resources).2.1 := by
  rcases session.equip_cases callId address resources with
    ⟨fault, after, refused, _⟩ | ⟨after, equipped, _⟩
  · rw [refused]
    exact .refl session
  · rw [equipped]
    intro _
    refine ⟨?_, ?_, fun ended => by cases ended⟩
    · show session.stage.rank ≤ Stage.setup.rank
      rw [idle]
      decide
    · simp [media]

/-- Wherever an attempt to open a leg stops, the leg is not open and has no engine. -/
theorem advances_openMedia (session : Session) (callId : CallId) (remote : Option Endpoint)
    (resources : Resources) :
    Advances session (session.openMedia callId remote resources).2.1 := by
  rw [openMedia]
  split
  · exact .refl session
  next admitted =>
  obtain ⟨media, idle⟩ := by simpa using admitted
  split
  · exact .refl session
  dsimp only
  split
  · exact .of_idle idle idle rfl rfl
  split
  · exact .of_idle idle idle rfl rfl
  next bound after opened =>
  obtain ⟨stage, role, engine⟩ := bindSocket_keeps opened
  have stillIdle : bound.stage = .null := stage.trans idle
  have stillMedia : bound.role ≠ .control := fun isControl => media (role.symm.trans isControl)
  exact (Advances.of_idle idle stillIdle role engine).trans
    (advances_equip stillMedia stillIdle callId _ after)

/-! ### Pairing -/

theorem advances_link {first second after otherAfter : Session}
    (linked : link first second = .ok (after, otherAfter)) :
    Advances first after ∧ Advances second otherAfter := by
  rw [link] at linked
  split at linked
  · cases linked
  · cases linked
    exact ⟨.of_holdings rfl rfl rfl fun none => none, .of_holdings rfl rfl rfl fun none => none⟩

/-- An open leg that is bridged is open. -/
theorem Consistent.bridged {session : Session} {engine : Nat} (fits : session.Consistent)
    (equipped : session.engine = some engine) (bridge : Option Bridge) :
    session.stage.rank ≤ Stage.progress.rank ∧
      { session with bridge := bridge, bridgeActive := true, stage := .progress }.Consistent := by
  obtain ⟨media, stage⟩ := fits.engine_iff.mp (by rw [equipped]; rfl)
  refine ⟨?_, ?_, fun ended => by cases ended⟩
  · rcases stage with stage | stage
    · rw [stage]
      decide
    · exact Nat.le_of_eq (by rw [stage])
  · simp [equipped, media]

/-- Starting a bridge does not look at the stages. But two legs with engines are open. -/
theorem advances_startBridge {session peer after peerAfter : Session}
    (bridged : session.startBridge peer = .ok (after, peerAfter)) :
    Advances session after ∧ Advances peer peerAfter := by
  rw [startBridge] at bridged
  split at bridged
  · cases bridged
  split at bridged
  · cases bridged
  split at bridged
  · next inbound outbound equipped equipped' =>
    cases bridged
    exact ⟨fun fits => fits.bridged equipped _, fun fits => fits.bridged equipped' _⟩
  · cases bridged

/-! ### Ending -/

theorem advances_destroy (session : Session) (resources : Resources) :
    Advances session (session.destroy resources).1 := by
  intro fits
  by_cases ended : session.stage = .complete
  · rw [destroy, if_pos ended]
    exact ⟨Nat.le_refl _, fits⟩
  · rw [destroy_fst ended]
    refine ⟨session.stage.rank_le_complete, ?_, fun _ => ⟨rfl, rfl, rfl, rfl, rfl⟩⟩
    simp

/-! ### After the end -/

section Ended

variable {session : Session} (ended : session.stage = .complete)
include ended

theorem openControl_of_complete (address : Endpoint) (resources : Resources) :
    ∃ fault, session.openControl address resources = (.error fault, session, resources) := by
  have begun : session.role ≠ .control ∨ session.stage ≠ .null := by simp [ended]
  rw [openControl, if_pos begun]
  exact ⟨_, rfl⟩

theorem openMedia_of_complete (callId : CallId) (remote : Option Endpoint)
    (resources : Resources) :
    ∃ fault, session.openMedia callId remote resources = (.error fault, session, resources) := by
  have begun : session.role = .control ∨ session.stage ≠ .null := by simp [ended]
  rw [openMedia, if_pos begun]
  exact ⟨_, rfl⟩

end Ended

/-- Without an engine on both sides no bridge is started. -/
theorem startBridge_of_no_engine {session peer : Session}
    (missing : session.engine = none ∨ peer.engine = none) :
    ∃ fault, session.startBridge peer = .error fault := by
  rw [startBridge]
  split
  · exact ⟨_, rfl⟩
  split
  · exact ⟨_, rfl⟩
  split
  · next equipped equipped' =>
    rw [equipped, equipped'] at missing
    rcases missing with missing | missing <;> cases missing
  · exact ⟨_, rfl⟩

/-! ## Many sessions -/

section Crowd

variable {ι : Type}

/-- An operation on the sessions of a crowd. Two sessions that are linked or bridged are not the
same one. -/
inductive Operation (ι : Type) where
  | openControl (index : ι) (address : Endpoint)
  | openMedia (index : ι) (callId : CallId) (remote : Option Endpoint)
  | link (first second : ι) (apart : first ≠ second)
  | startBridge (inbound outbound : ι) (apart : inbound ≠ outbound)
  | stopBridge (index : ι)
  | runBridge (index : ι) (count : Nat)
  | receive (index : ι) (size : Nat)
  | onReadable (index : ι) (size : Nat)
  | send (index : ι) (payload : Payload)
  | destroy (index : ι)

/-- The operations that would bring a session on: to open it, or to start a bridge from it or to
it. -/
inductive Operation.Revives (index : ι) : Operation ι → Prop where
  | openControl (address : Endpoint) : Revives index (.openControl index address)
  | openMedia (callId : CallId) (remote : Option Endpoint) :
      Revives index (.openMedia index callId remote)
  | startBridge {peer : ι} (apart : index ≠ peer) : Revives index (.startBridge index peer apart)
  | bridgedBy {peer : ι} (apart : peer ≠ index) : Revives index (.startBridge peer index apart)

variable [DecidableEq ι]

/-- The outcome of an operation on one session of a crowd. -/
def alone {α : Type} (crowd : ι → Session) (index : ι)
    (result : Except Fault α × Session × Resources) :
    Except Fault Unit × (ι → Session) × Resources :=
  (result.1.map fun _ => (), Function.update crowd index result.2.1, result.2.2)

/-- The outcome of an operation on two sessions of a crowd. If it fails, both are as they were. -/
def together (crowd : ι → Session) (first second : ι) (resources : Resources) :
    Except Fault (Session × Session) → Except Fault Unit × (ι → Session) × Resources
  | .error fault => (.error fault, crowd, resources)
  | .ok (one, other) =>
    (.ok (), Function.update (Function.update crowd first one) second other, resources)

/-- What becomes of a crowd and its resources by an operation. -/
def Operation.perform (crowd : ι → Session) (resources : Resources) :
    Operation ι → Except Fault Unit × (ι → Session) × Resources
  | .openControl index address => alone crowd index ((crowd index).openControl address resources)
  | .openMedia index callId remote =>
    alone crowd index ((crowd index).openMedia callId remote resources)
  | .link first second _ =>
    together crowd first second resources (Session.link (crowd first) (crowd second))
  | .startBridge inbound outbound _ =>
    together crowd inbound outbound resources ((crowd inbound).startBridge (crowd outbound))
  | .stopBridge index => alone crowd index (.ok (), (crowd index).stopBridge, resources)
  | .runBridge index count => alone crowd index (.ok (), (crowd index).runBridge count resources)
  | .receive index size => alone crowd index ((crowd index).receive size resources)
  | .onReadable index size => alone crowd index ((crowd index).onReadable size resources)
  | .send index payload =>
    let (outcome, resources) := (crowd index).send payload resources
    alone crowd index (outcome, crowd index, resources)
  | .destroy index => alone crowd index (.ok (), (crowd index).destroy resources)

/-- What a crowd can have come to by operations, each of them on whatever resources there are at
the time. -/
inductive Lives (start : ι → Session) : (ι → Session) → Prop where
  | start : Lives start start
  | performed {crowd : ι → Session} (lived : Lives start crowd) (operation : Operation ι)
      (resources : Resources) : Lives start (operation.perform crowd resources).2.1

variable {crowd later start before after : ι → Session}

/-- If all sessions of a crowd go on, then they still do when one of them is replaced by another
state that it goes on to. -/
theorem advances_update (all : ∀ index, Advances (crowd index) (later index)) {index : ι}
    {session : Session} (one : Advances (crowd index) session) :
    ∀ other, Advances (crowd other) (Function.update later index session other) := by
  intro other
  by_cases same : other = index
  · subst same
    rw [Function.update_self]
    exact one
  · rw [Function.update_of_ne same]
    exact all other

/-- **Whatever is done to the sessions of a crowd,** each of them goes on. -/
theorem Operation.advances (operation : Operation ι) (crowd : ι → Session)
    (resources : Resources) :
    ∀ index, Advances (crowd index) ((operation.perform crowd resources).2.1 index) := by
  have still : ∀ index, Advances (crowd index) (crowd index) := fun index => .refl (crowd index)
  cases operation with
  | openControl index address =>
    exact advances_update still (advances_openControl (crowd index) address resources)
  | openMedia index callId remote =>
    exact advances_update still (advances_openMedia (crowd index) callId remote resources)
  | link first second apart =>
    cases linked : Session.link (crowd first) (crowd second) with
    | error fault =>
      simp only [perform, linked]
      exact still
    | ok both =>
      simp only [perform, linked]
      obtain ⟨one, other⟩ := advances_link linked
      exact advances_update (advances_update still one) other
  | startBridge inbound outbound apart =>
    cases bridged : (crowd inbound).startBridge (crowd outbound) with
    | error fault =>
      simp only [perform, bridged]
      exact still
    | ok both =>
      simp only [perform, bridged]
      obtain ⟨one, other⟩ := advances_startBridge bridged
      exact advances_update (advances_update still one) other
  | stopBridge index =>
    exact advances_update still (.of_holdings rfl rfl rfl fun _ => rfl)
  | runBridge index count =>
    exact advances_update still (.of_gist ((crowd index).traffic_runBridge resources count).1)
  | receive index size =>
    exact advances_update still (.of_gist ((crowd index).traffic_receive size resources).1)
  | onReadable index size =>
    exact advances_update still (.of_gist ((crowd index).traffic_onReadable resources size).1)
  | send index payload => exact advances_update still (.refl (crowd index))
  | destroy index => exact advances_update still (advances_destroy (crowd index) resources)

/-- A crowd and its resources after a sequence of operations. -/
def afterAll (state : (ι → Session) × Resources) (operations : List (Operation ι)) :
    (ι → Session) × Resources :=
  operations.foldl (fun state operation => (operation.perform state.1 state.2).2) state

/-- A sequence of operations is a part of the life of a crowd. -/
theorem lives_afterAll (state : (ι → Session) × Resources) (lived : Lives start state.1)
    (operations : List (Operation ι)) : Lives start (afterAll state operations).1 := by
  induction operations generalizing state with
  | nil => exact lived
  | cons operation rest ih =>
    exact ih (operation.perform state.1 state.2).2 (lived.performed operation state.2)

theorem Lives.advances (lived : Lives start crowd) (index : ι) :
    Advances (start index) (crowd index) := by
  induction lived with
  | start => exact .refl (start index)
  | performed _ operation resources ih =>
    exact ih.trans (operation.advances _ resources index)

/-- What would bring a destroyed session on fails and changes nothing. -/
theorem Operation.Revives.fails {index : ι} {operation : Operation ι}
    (revives : operation.Revives index) (ended : (crowd index).stage = .complete)
    (emptied : (crowd index).Emptied) (resources : Resources) :
    ∃ fault, operation.perform crowd resources = (.error fault, crowd, resources) := by
  cases revives with
  | openControl address =>
    obtain ⟨fault, failed⟩ := openControl_of_complete ended address resources
    refine ⟨fault, ?_⟩
    rw [perform, failed, alone, Function.update_eq_self]
    rfl
  | openMedia callId remote =>
    obtain ⟨fault, failed⟩ := openMedia_of_complete ended callId remote resources
    refine ⟨fault, ?_⟩
    rw [perform, failed, alone, Function.update_eq_self]
    rfl
  | @startBridge peer apart =>
    obtain ⟨fault, failed⟩ : ∃ fault, (crowd index).startBridge (crowd peer) = .error fault :=
      startBridge_of_no_engine (.inl emptied.no_engine)
    refine ⟨fault, ?_⟩
    rw [perform, failed, together]
  | @bridgedBy peer apart =>
    obtain ⟨fault, failed⟩ : ∃ fault, (crowd peer).startBridge (crowd index) = .error fault :=
      startBridge_of_no_engine (.inr emptied.no_engine)
    refine ⟨fault, ?_⟩
    rw [perform, failed, together]

/-- **Sessions move forward.** Between two moments in the life of a crowd of sessions, all of which
were created at its start, the stage of none of them goes back. At every moment, a session has an
engine exactly if it is a media leg that is open; and once it is destroyed, it has nothing, and
whatever would open it or bridge it fails and changes neither it nor any other session. -/
theorem Lives.moves_forward (created : ∀ index, (start index).IsCreated)
    (early : Lives start before) (late : Lives before after) (index : ι) :
    (before index).stage.rank ≤ (after index).stage.rank ∧ (after index).Consistent ∧
      ((after index).stage = .complete → ∀ (operation : Operation ι) (resources : Resources),
        operation.Revives index →
          ∃ fault, operation.perform after resources = (.error fault, after, resources)) := by
  obtain ⟨_, fits⟩ := early.advances index (created index).consistent
  obtain ⟨forward, fits⟩ := late.advances index fits
  refine ⟨forward, fits, fun ended operation resources revives => ?_⟩
  exact revives.fails ended (fits.emptied ended) resources

end Crowd

/-- The two legs of a call to a terminal, just created. -/
def pair : Bool → Session
  | false => fresh ⟨0⟩ .gateway .inbound 1
  | true => fresh ⟨1024⟩ .terminal .outbound 2

/-- The two legs opened, linked and bridged, and the resources that are left. -/
def bridgedPair : (Bool → Session) × Resources :=
  afterAll (pair, Resources.ofSettings {} .unfailing .loopback Ipv4.loopback)
    [.openMedia false CallId.placeholder (some ⟨Ipv4.loopback, 4000⟩),
      .openMedia true CallId.placeholder none, .link false true Bool.false_ne_true,
      .startBridge false true Bool.false_ne_true]

/-- When the outbound leg is destroyed and the two are linked again, no bridge is started to it. -/
theorem moves_forward_pair :
    (bridgedPair.1 true).stage = .progress ∧
      ∃ after, Lives bridgedPair.1 after ∧ (after true).stage = .complete ∧
        (after true).Consistent ∧ (after false).peer = some (after true).id ∧
        ∀ resources, ∃ fault, (Operation.startBridge false true Bool.false_ne_true).perform after
          resources = (.error fault, after, resources) := by
  have created : ∀ index, (pair index).IsCreated := by
    intro index
    cases index with
    | false =>
      exact ⟨.gateway, 1, .inbound, .ofSettings {} .unfailing .loopback Ipv4.loopback, _, rfl⟩
    | true =>
      exact ⟨.terminal, 2, .outbound, .ofSettings {} .unfailing .loopback Ipv4.loopback, _, rfl⟩
  have early : Lives pair bridgedPair.1 :=
    lives_afterAll (pair, .ofSettings {} .unfailing .loopback Ipv4.loopback) .start _
  have late : Lives bridgedPair.1 (afterAll bridgedPair
      [.destroy true, .link false true Bool.false_ne_true]).1 :=
    lives_afterAll bridgedPair .start _
  have bridged : (bridgedPair.1 true).stage = .progress := by decide +kernel
  have ended : ((afterAll bridgedPair
      [.destroy true, .link false true Bool.false_ne_true]).1 true).stage = .complete := by
    decide +kernel
  obtain ⟨_, consistent, fails⟩ := Lives.moves_forward created early late true
  exact ⟨bridged, _, late, ended, consistent, by decide +kernel,
    fun resources => fails ended _ resources (.bridgedBy _)⟩

end Session

end FaxRelay
