import FaxRelay.Proofs.Engine.Provenance

/-!
# Following a leg

A session moves between slots and lists, its bridge makes progress, and it may
learn where its other end is. It is followed by its engine: an engine is made
once and given to one leg, so whoever has an engine that was made before has
been the same leg all along (`Session.Continues`), and its remote endpoint has
changed only if the engine was handed something in between (`Turn.continues`,
`Turns.continues`).

What an engine was handed, each datagram with its sender, is collected along the
moments of a run (`Exchange.Since`). At each moment an engine is handed one
datagram through its leg, or nothing at all (`Exchange.Moment.hands_over`), so
there is such a collection whatever happens (`Exchange.exists_since`).
-/

set_option autoImplicit false

namespace FaxRelay

open FaxRelay.Media FaxRelay.Net FaxRelay.Pool FaxRelay.Signal

/-! ## The same leg -/

/-- A session is the same leg as one before: it has the same engine, call, role and direction. -/
structure Session.Continues (before after : Session) : Prop where
  engine_eq : after.engine = before.engine
  callId_eq : after.callId = before.callId
  role_eq : after.role = before.role
  direction_eq : after.direction = before.direction

namespace Session.Continues

variable {first second third : Session}

theorem refl (session : Session) : session.Continues session := ⟨rfl, rfl, rfl, rfl⟩

theorem symm (continues : first.Continues second) : second.Continues first :=
  ⟨continues.engine_eq.symm, continues.callId_eq.symm, continues.role_eq.symm,
    continues.direction_eq.symm⟩

theorem trans (earlier : first.Continues second) (later : second.Continues third) :
    first.Continues third :=
  ⟨later.engine_eq.trans earlier.engine_eq, later.callId_eq.trans earlier.callId_eq,
    later.role_eq.trans earlier.role_eq, later.direction_eq.trans earlier.direction_eq⟩

end Session.Continues

theorem Session.continues_heardFrom (session : Session) (sender : Endpoint) :
    session.Continues (session.heardFrom sender) := by
  obtain ⟨remote, same⟩ := session.heardFrom_eq sender
  rw [same]
  exact ⟨rfl, rfl, rfl, rfl⟩

namespace Turn

variable {first second : List Session × Resources}

/-- No engine goes away, and nothing that was noted is forgotten. -/
theorem grows (turn : Turn first second) :
    first.2.engines.length ≤ second.2.engines.length ∧ first.2.journal <:+ second.2.journal := by
  cases turn with
  | aside _ aside =>
    obtain ⟨events, journal, _⟩ := aside.history
    exact ⟨Nat.le_of_eq (congrArg List.length aside.engines_eq).symm, events, journal.symm⟩
  | equipped => exact ⟨by simp [Resources.equipped], [_, _], rfl⟩
  | refused => exact ⟨by simp [Resources.refused], [_, _], rfl⟩
  | heard =>
    refine ⟨?_, [_], rfl⟩
    simp [Resources.hear, Resources.note, Resources.aimEngine, Resources.changeEngine]
  | @forwarded sessions keeper bridge member kept source progress resources =>
    have moving := resources.moving bridge source progress
    refine ⟨?_, ?_⟩
    · rw [moving.engines_eq.1]
      simp [Resources.produce, Resources.note, Resources.changeEngine]
    · generalize (forward (Resources.sides bridge.inbound bridge.outbound) source progress
        resources).2 = after at moving
      cases moving with
      | idle => exact ⟨[_], rfl⟩
      | sent => exact ⟨[_, _, _], rfl⟩
      | silent => exact ⟨[_, _], rfl⟩
      | failed => exact ⟨[_, _, _], rfl⟩
  | retired =>
    refine ⟨?_, [_], rfl⟩
    simp [Resources.retireEngine, Resources.note, Resources.changeEngine]
  | reordered => exact ⟨Nat.le_refl _, List.suffix_rfl⟩
  | changed => exact ⟨Nat.le_refl _, List.suffix_rfl⟩
  | dropped => exact ⟨Nat.le_refl _, List.suffix_rfl⟩
  | joined => exact ⟨Nat.le_refl _, List.suffix_rfl⟩
  | stopped => exact ⟨Nat.le_refl _, List.suffix_rfl⟩

/-- Whoever has an engine that was made before has been that leg before, and has the same remote
endpoint unless this engine was handed something. -/
theorem continues (turn : Turn first second) {later : Session} (member : later ∈ second.1)
    {engine : Nat} (has : later.engine = some engine) (made : engine < first.2.engines.length) :
    ∃ session ∈ first.1, session.Continues later ∧
      (hearings engine second.2.journal = hearings engine first.2.journal →
        later.remote = session.remote) := by
  have same : later ∈ first.1 → ∃ session ∈ first.1, session.Continues later ∧
      (hearings engine second.2.journal = hearings engine first.2.journal →
        later.remote = session.remote) :=
    fun member => ⟨later, member, .refl later, fun _ => rfl⟩
  cases turn with
  | aside => exact same member
  | reordered perm => exact same (perm.mem_iff.mpr member)
  | changed _ still =>
    rcases List.mem_cons.mp member with rfl | member
    · cases still.symm.trans has
    · exact same (.tail _ member)
  | dropped => exact same (.tail _ member)
  | equipped _ _ _ _ _ hasNext =>
    rcases List.mem_cons.mp member with rfl | member
    · cases hasNext.symm.trans has
      exact absurd made (Nat.lt_irrefl _)
    · exact same member
  | refused => exact same member
  | @joined inbound outbound =>
    rcases List.mem_cons.mp member with rfl | member
    · exact ⟨inbound, .head _, ⟨rfl, rfl, rfl, rfl⟩, fun _ => rfl⟩
    rcases List.mem_cons.mp member with rfl | member
    · exact ⟨outbound, .tail _ (.head _), ⟨rfl, rfl, rfl, rfl⟩, fun _ => rfl⟩
    · exact same (.tail _ (.tail _ member))
  | @heard session other hasOther sessions resources sender payload =>
    rcases List.mem_cons.mp member with rfl | member
    · refine ⟨session, .head _, session.continues_heardFrom sender, fun unheard => ?_⟩
      rw [session.engine_heardFrom] at has
      cases hasOther.symm.trans has
      have longer := congrArg List.length unheard
      simp [hearings, Resources.hear, Resources.note, Resources.aimEngine, Resources.changeEngine,
        Event.heard?] at longer
    · exact same (.tail _ member)
  | forwarded => exact same member
  | @stopped session =>
    rcases List.mem_cons.mp member with rfl | member
    · exact ⟨session, .head _, ⟨rfl, rfl, rfl, rfl⟩, fun _ => rfl⟩
    · exact same (.tail _ member)
  | retired _ still =>
    rcases List.mem_cons.mp member with rfl | member
    · cases still.symm.trans has
    · exact same (.tail _ member)

end Turn

/-- What an engine was handed is not forgotten. -/
theorem hearings_prefix {earlier later : List Event} (suffix : earlier <:+ later) (engine : Nat) :
    hearings engine earlier <+: hearings engine later := by
  obtain ⟨events, rfl⟩ := suffix
  rw [hearings_append]
  exact List.prefix_append _ _

/-- What concerns no engine hands nothing to any. -/
theorem Resources.Aside.hearings_eq {before after : Resources} (aside : before.Aside after)
    (engine : Nat) : hearings engine after.journal = hearings engine before.journal := by
  obtain ⟨events, journal, nobody⟩ := aside.history
  have none : events.filterMap (Event.heard? engine) = [] := by
    refine List.filterMap_eq_nil_iff.mpr fun event member => ?_
    cases event with
    | heard => cases nobody _ member
    | _ => rfl
  rw [journal, hearings_append, hearings, hearings, none]
  exact List.append_nil _

namespace Turns

variable {first second : List Session × Resources}

theorem grows (turns : Turns first second) :
    first.2.engines.length ≤ second.2.engines.length ∧ first.2.journal <:+ second.2.journal := by
  induction turns with
  | refl => exact ⟨Nat.le_refl _, List.suffix_rfl⟩
  | tail _ turn ih => exact ⟨ih.1.trans turn.grows.1, ih.2.trans turn.grows.2⟩

/-- A number of turns leave it the same leg. -/
theorem continues (turns : Turns first second) {later : Session} (member : later ∈ second.1)
    {engine : Nat} (has : later.engine = some engine) (made : engine < first.2.engines.length) :
    ∃ session ∈ first.1, session.Continues later ∧
      (hearings engine second.2.journal = hearings engine first.2.journal →
        later.remote = session.remote) := by
  induction turns generalizing later with
  | refl => exact ⟨later, member, .refl later, fun _ => rfl⟩
  | @tail middle last earlier turn ih =>
    have before := Turns.grows earlier
    obtain ⟨between, inMiddle, continues, aimed⟩ :=
      turn.continues member has (Nat.lt_of_lt_of_le made before.1)
    obtain ⟨session, inFirst, continues', aimed'⟩ :=
      ih inMiddle (continues.engine_eq.symm.trans has)
    refine ⟨session, inFirst, continues'.trans continues, fun unheard => ?_⟩
    -- What was not handed over from the first to the last was not handed over in between.
    have outer := hearings_prefix before.2 engine
    have inner := hearings_prefix turn.grows.2 engine
    rw [unheard] at inner
    have same := outer.eq_of_length_le inner.length_le
    rw [aimed (unheard.trans same), aimed' same.symm]

end Turns

namespace Exchange

/-! ## What an engine was handed -/

variable {size : Nat} {before after : Exchange}

/-- Handing a session a datagram. -/
theorem hearAt_eq {index engine : Nat} {session : Session} (has : session.engine = some engine)
    (size : Nat) (address : Endpoint) (datagram : Endpoint × Payload) (rest : List Arrival)
    (exchange : Exchange) :
    (exchange.hearAt size index session address datagram rest).table =
        exchange.table.setSession index (session.heardFrom datagram.1) ∧
      (exchange.hearAt size index session address datagram rest).resources.journal =
        .heard engine (datagram.2.take size) :: exchange.resources.journal := by
  have hasToo := (session.engine_heardFrom datagram.1).trans has
  simp only [hearAt, Session.hear, hasToo]
  exact ⟨trivial, rfl⟩

/-- At any moment an engine is handed a datagram through its leg, or nothing. -/
theorem Moment.hands_over (moment : Moment size before after) (engine : Nat) :
    (∃ index session address datagram rest, before.table.session? index = some session ∧
      session.engine = some engine ∧ session.socket = some address ∧
      before.resources.fabric.queue address = .datagram datagram.1 datagram.2 :: rest ∧
      after = before.hearAt size index session address datagram rest) ∨
    hearings engine after.resources.journal = hearings engine before.resources.journal := by
  cases moment with
  | noted => exact .inr rfl
  | replied message => exact .inr ((aside_reply message before).hearings_eq engine)
  | setUp setup => exact .inr ((before.silent_setUp setup).hearings_eq engine)
  | @closed index =>
    exact .inr ((silent_closeSlots [index] before.table before.resources).hearings_eq engine)
  | @heard index session address datagram rest found bound waits =>
    by_cases has : session.engine = some engine
    · exact .inl ⟨index, session, address, datagram, rest, found, has, bound, waits, rfl⟩
    refine .inr ?_
    cases hasOther : session.engine with
    | none =>
      have without := (session.engine_heardFrom datagram.1).trans hasOther
      simp only [hearAt, Session.hear, without]
      rfl
    | some other =>
      have differs : other ≠ engine := fun same => has (same ▸ hasOther)
      rw [(hearAt_eq hasOther size address datagram rest before).2, hearings, List.filterMap_cons,
        Event.heard?, if_neg differs]
      rfl
  | @forwarded index session bridge found kept runs source =>
    have moving := before.resources.moving bridge source bridge.progress
    refine .inr ?_
    dsimp only [advance]
    generalize (forward (Resources.sides bridge.inbound bridge.outbound) source bridge.progress
      before.resources).2 = moved at moving
    cases moving <;> rfl
  | _ => exact .inr rfl

/-- What an engine was handed since a certain moment, each datagram with its sender, the first one
first. -/
inductive Since (size engine : Nat) (origin : Exchange) :
    List (Endpoint × Payload) → Exchange → Prop where
  | nothing : Since size engine origin [] origin
  /-- A datagram arrives for the leg that has the engine. -/
  | heard {heard : List (Endpoint × Payload)} {exchange : Exchange} {index : Nat}
      {session : Session} {address : Endpoint} {datagram : Endpoint × Payload}
      {rest : List Arrival} (since : Since size engine origin heard exchange)
      (found : exchange.table.session? index = some session)
      (has : session.engine = some engine) (bound : session.socket = some address)
      (waits : exchange.resources.fabric.queue address =
        .datagram datagram.1 datagram.2 :: rest) :
      Since size engine origin (heard ++ [datagram])
        (exchange.hearAt size index session address datagram rest)
  /-- Anything else happens. -/
  | other {heard : List (Endpoint × Payload)} {exchange after : Exchange}
      (since : Since size engine origin heard exchange) (moment : Moment size exchange after)
      (unheard : hearings engine after.resources.journal =
        hearings engine exchange.resources.journal) :
      Since size engine origin heard after

namespace Since

variable {engine : Nat} {origin later : Exchange} {heard : List (Endpoint × Payload)}

theorem moments (since : Since size engine origin heard later) : Moments size origin later := by
  induction since with
  | nothing => exact .refl
  | heard _ found _ bound waits ih => exact ih.tail (.heard _ found bound waits)
  | other _ moment _ ih => exact ih.tail moment

theorem hearings_eq (since : Since size engine origin heard later) :
    hearings engine later.resources.journal = hearings engine origin.resources.journal ++
      heard.map fun datagram => datagram.2.take size := by
  induction since with
  | nothing => exact (List.append_nil _).symm
  | @heard _ exchange _ _ address datagram rest _ _ has _ _ ih =>
    have noted : hearings engine (.heard engine (datagram.2.take size) ::
        exchange.resources.journal) = hearings engine exchange.resources.journal ++
          [datagram.2.take size] := by
      simp [hearings, Event.heard?]
    rw [(hearAt_eq has size address datagram rest exchange).2, noted, ih, List.map_append,
      ← List.append_assoc]
    rfl
  | other _ _ unheard ih => rw [unheard, ih]

end Since

theorem turns_of_moments (moments : Moments size before after) :
    Turns (before.table.roster, before.resources) (after.table.roster, after.resources) := by
  induction moments with
  | refl => exact .refl
  | tail _ moment ih => exact ih.trans moment.turns

/-- Whatever happens, there is something that an engine was handed since. -/
theorem exists_since {origin later : Exchange} (moments : Moments size origin later)
    (engine : Nat) : ∃ heard, Since size engine origin heard later := by
  induction moments with
  | refl => exact ⟨[], .nothing⟩
  | tail _ moment ih =>
    obtain ⟨heard, since⟩ := ih
    rcases moment.hands_over engine with
      ⟨index, session, address, datagram, rest, found, has, bound, waits, rfl⟩ | unheard
    · exact ⟨heard ++ [datagram], since.heard found has bound waits⟩
    · exact ⟨heard, since.other moment unheard⟩

end Exchange

end FaxRelay
