import FaxRelay.Proofs.Engine.Provenance

/-!
# Where engines send to

Whenever an engine takes a frame it may try to send a datagram, and the journal
notes first whether this was sent or refused, and then that the frame was taken.
So the datagrams that an engine ever tried to send can be read off the journal
(`attempts`).

As long as a media leg has its engine, all that this engine ever tried to send
went from the socket of the leg to its remote endpoint (`Resources.Aimed`).
Nothing was sent before that endpoint was known, then, and a leg that knows its
remote endpoint has never known another. Every turn keeps this true: only a
frame that is moved adds an attempt, which goes where the engine's leg points
at that moment, and only a datagram that is heard changes where a leg points,
which the leg allows once.
-/

set_option autoImplicit false

namespace FaxRelay

open FaxRelay.Media FaxRelay.Net FaxRelay.Pool FaxRelay.Signal

/-! ## Attempts -/

namespace Event

/-- The datagram that a certain engine tried to send when it took a frame: whether it was sent was
noted right before. -/
def attempted? (engine : Nat) (earlier : List Event) : Event → Option Transmission
  | .took other _ _ =>
    match earlier.head? with
    | some (.sent transmission _) => if other = engine then some transmission else none
    | _ => none
  | _ => none

theorem attempted?_of_aside {event : Event} (aside : event.engine? = none) (engine : Nat)
    (earlier : List Event) : event.attempted? engine earlier = none := by
  cases event with
  | took => cases aside
  | _ => rfl

end Event

/-- The datagrams that an engine tried to send, the first one first. -/
def attempts (engine : Nat) : List Event → List Transmission
  | [] => []
  | event :: earlier => attempts engine earlier ++ (event.attempted? engine earlier).toList

theorem attempts_append_of_aside {events : List Event}
    (aside : ∀ event ∈ events, event.engine? = none) (engine : Nat) (earlier : List Event) :
    attempts engine (events ++ earlier) = attempts engine earlier := by
  induction events with
  | nil => rfl
  | cons event events ih =>
    rw [List.cons_append, attempts,
      Event.attempted?_of_aside (aside event List.mem_cons_self), Option.toList_none,
      List.append_nil]
    exact ih fun other member => aside other (List.mem_cons_of_mem _ member)

/-- Who tried to send something took a frame. -/
theorem exists_took_of_attempts {engine : Nat} {journal : List Event} {transmission : Transmission}
    (tried : transmission ∈ attempts engine journal) :
    ∃ frame fault, .took engine frame fault ∈ journal := by
  induction journal with
  | nil => cases tried
  | cons event earlier ih =>
    rw [attempts] at tried
    rcases List.mem_append.mp tried with tried | tried
    · obtain ⟨frame, fault, member⟩ := ih tried
      exact ⟨frame, fault, .tail _ member⟩
    · cases event with
      | took other frame fault =>
        rw [Event.attempted?] at tried
        split at tried
        · split at tried
          · next same => exact ⟨frame, fault, same ▸ .head _⟩
          · cases tried
        · cases tried
      | _ => cases tried

/-- Nothing is told of an engine that was not made. -/
theorem Orderly.not_told {journal : List Event} (orderly : Orderly journal) {engine : Nat}
    (unmade : phase engine journal = .unmade) {event : Event} (member : event ∈ journal) :
    event.engine? ≠ some engine := by
  intro about
  have told := orderly.story engine
  have member := mem_story_iff.mpr ⟨member, about⟩
  rw [unmade] at told
  generalize FaxRelay.story engine journal = past at told member
  cases told
  cases member

theorem Orderly.attempts_eq_nil {journal : List Event} (orderly : Orderly journal) {engine : Nat}
    (unmade : phase engine journal = .unmade) : attempts engine journal = [] := by
  refine List.eq_nil_iff_forall_not_mem.mpr fun transmission tried => ?_
  obtain ⟨frame, fault, member⟩ := exists_took_of_attempts tried
  exact orderly.not_told unmade member rfl

theorem Orderly.hearings_eq_nil {journal : List Event} (orderly : Orderly journal) {engine : Nat}
    (unmade : phase engine journal = .unmade) : hearings engine journal = [] := by
  rw [hearings, List.reverse_eq_nil_iff, List.filterMap_eq_nil_iff]
  intro event member
  cases event with
  | heard other payload =>
    refine if_neg fun same => ?_
    exact orderly.not_told unmade member (congrArg some same)
  | _ => rfl

namespace Session

variable (session : Session)

theorem role_heardFrom (sender : Endpoint) : (session.heardFrom sender).role = session.role := by
  obtain ⟨remote, same⟩ := session.heardFrom_eq sender
  rw [same]

/-- A media leg that knows its remote endpoint keeps it. -/
theorem remote_heardFrom_of_some {session : Session} (media : session.role ≠ .control)
    {remote : Endpoint} (known : session.remote = some remote) (sender : Endpoint) :
    (session.heardFrom sender).remote = some remote := by
  rw [heardFrom]
  cases role : session.role with
  | control => exact absurd role media
  | gateway => exact known
  | terminal => simp [known]

end Session

namespace Resources

/-! ## Moving a frame -/

/-- The datagram that an engine would send if it took a frame. -/
def transmission? (resources : Resources) (engine : Nat) (frame : Frame) : Option Transmission :=
  match resources.engines[engine]? with
  | none => none
  | some state =>
    match state.transmission frame with
    | .error _ => none
    | .ok transmission => transmission

/-- Such a datagram goes where the outlet of the engine points. -/
theorem outlet_of_transmission? {resources : Resources} {engine : Nat} {frame : Frame}
    {transmission : Transmission}
    (would : resources.transmission? engine frame = some transmission) :
    ∃ state : Engine, resources.engines[engine]? = some state ∧
      state.outlet = some ⟨transmission.source, some transmission.destination⟩ := by
  rw [transmission?] at would
  cases found : resources.engines[engine]? with
  | none =>
    rw [found] at would
    cases would
  | some state =>
    refine ⟨state, rfl, ?_⟩
    simp only [found, Engine.transmission] at would
    cases ready : state.outlet with
    | none =>
      rw [ready] at would
      cases would
    | some outlet =>
      simp only [ready] at would
      obtain ⟨destination, known, rfl⟩ := Option.map_eq_some_iff.mp would
      rw [← known]

/-- Whether it is sent or refused, what an engine tries to send is noted in the same way. -/
theorem journal_transmit (resources : Resources) (transmission : Transmission) :
    ∃ cause, (resources.transmit transmission).2.journal =
      .sent transmission cause :: resources.journal := by
  rw [transmit]
  split
  · exact ⟨none, rfl⟩
  · next cause _ => exact ⟨some cause, rfl⟩

theorem journal_take (resources : Resources) (engine : Nat) (frame : Frame) :
    ∃ fault, (resources.take engine frame).2.journal =
      .took engine frame fault :: (resources.relay engine frame).2.journal := by
  rw [take]
  split
  · next same => exact ⟨none, by rw [same]; rfl⟩
  · next fault _ same => exact ⟨some fault, by rw [same]; rfl⟩

/-- **Taking a frame adds to the attempts what the engine would send,** and nothing else. -/
theorem attempts_take (resources : Resources) {mate : Nat} {frame : Frame}
    (unsent : ∀ transmission fault,
      resources.journal.head? ≠ some (.sent transmission fault)) (engine : Nat) :
    attempts engine (resources.take mate frame).2.journal = attempts engine resources.journal ++
      if mate = engine then (resources.transmission? mate frame).toList else [] := by
  obtain ⟨fault, took⟩ := resources.journal_take mate frame
  have silent : attempts engine (.took mate frame fault :: resources.journal) =
      attempts engine resources.journal ++ if mate = engine then [] else [] := by
    rw [attempts, Event.attempted?, ite_self]
    split
    · next latest => exact absurd latest (unsent _ _)
    · rfl
  rw [took, relay, transmission?]
  cases found : resources.engines[mate]? with
  | none => exact silent
  | some state =>
    cases would : state.transmission frame with
    | error =>
      simp only [would]
      exact silent
    | ok transmission =>
      cases transmission with
      | none =>
        simp only [would]
        exact silent
      | some transmission =>
        obtain ⟨cause, sent⟩ := resources.journal_transmit transmission
        simp only [would, sent, attempts, Event.attempted?, List.head?_cons, Option.toList_none,
          List.append_nil]
        split <;> rfl

/-- A new attempt goes where the outlet of its engine points. -/
theorem attempts_forward (bridge : Bridge) (source : Direction) (progress : Progress)
    (resources : Resources) {engine : Nat} {transmission : Transmission}
    (tried : transmission ∈ attempts engine
      (forward (sides bridge.inbound bridge.outbound) source progress resources).2.journal) :
    transmission ∈ attempts engine resources.journal ∨
      ∃ state : Engine, resources.engines[engine]? = some state ∧
        state.outlet = some ⟨transmission.source, some transmission.destination⟩ := by
  have produced : attempts engine (resources.produce (bridge.engine source)).2.journal =
      attempts engine resources.journal := List.append_nil _
  rw [forward_eq] at tried
  split at tried
  · rw [produced] at tried
    exact .inl tried
  have latest : ∀ transmission fault, (resources.produce (bridge.engine source)).2.journal.head? ≠
      some (.sent transmission fault) := fun _ _ same => by
    cases (show some (Event.produced _ _) = _ from same)
  rw [attempts_take _ latest] at tried
  rcases List.mem_append.mp tried with tried | tried
  · rw [produced] at tried
    exact .inl tried
  split at tried
  · next same =>
    obtain ⟨state, found, points⟩ := outlet_of_transmission? (Option.mem_toList.mp tried)
    -- The engine that handed out the frame may be this one, but its outlet is what it was.
    rw [same, produce, note, changeEngine, List.getElem?_modify] at found
    obtain ⟨old, present, rfl⟩ := Option.map_eq_some_iff.mp found
    refine .inr ⟨old, present, ?_⟩
    split at points
    · exact points
    · exact points
  · cases tried

/-! ## Turns -/

/-- All that the engine of a media leg ever tried to send went from the leg's socket to its remote
endpoint. -/
def Aimed (sessions : List Session) (resources : Resources) : Prop :=
  ∀ session ∈ sessions, session.role ≠ .control → ∀ engine, session.engine = some engine →
    ∀ transmission ∈ attempts engine resources.journal,
      session.socket = some transmission.source ∧
        session.remote = some transmission.destination

namespace Aimed

variable {sessions : List Session} {before after : Resources}

/-- Nobody tries anything. -/
theorem of_attempts (aimed : Aimed sessions before)
    (same : ∀ engine, attempts engine after.journal = attempts engine before.journal) :
    Aimed sessions after := by
  intro session member media engine has transmission tried
  rw [same] at tried
  exact aimed session member media engine has transmission tried

/-- **Every turn keeps engines aimed.** -/
theorem turn {first second : List Session × Resources} (aimed : Aimed first.1 first.2)
    (tracked : Tracked first.1 first.2) (sends : Sends first.1 first.2)
    (turn : Turn first second) : Aimed second.1 second.2 := by
  cases turn with
  | aside sessions aside =>
    obtain ⟨events, journal, nobody⟩ := aside.history
    refine aimed.of_attempts fun engine => ?_
    rw [journal, attempts_append_of_aside nobody]
  | reordered same => exact fun session member => aimed session (same.mem_iff.mpr member)
  | changed without still =>
    refine List.forall_mem_cons.mpr ⟨fun _ engine has => ?_, (List.forall_mem_cons.mp aimed).2⟩
    cases still.symm.trans has
  | dropped => exact (List.forall_mem_cons.mp aimed).2
  | @equipped session leg fits _ _ sessions resources _ has =>
    have same : ∀ engine, attempts engine (resources.equipped leg).journal =
        attempts engine resources.journal := fun engine => by
      simp [equipped, attempts, Event.attempted?]
    refine List.forall_mem_cons.mpr ⟨fun _ engine hasToo transmission tried => ?_,
      aimed.of_attempts same⟩
    cases has.symm.trans hasToo
    rw [same, tracked.orderly.attempts_eq_nil tracked.unmade_next] at tried
    cases tried
  | refused sessions resources leg =>
    exact aimed.of_attempts fun engine => by simp [refused, attempts, Event.attempted?]
  | joined =>
    obtain ⟨inbound, rest⟩ := List.forall_mem_cons.mp aimed
    obtain ⟨outbound, rest⟩ := List.forall_mem_cons.mp rest
    exact List.forall_mem_cons.mpr ⟨inbound, List.forall_mem_cons.mpr ⟨outbound, rest⟩⟩
  | @heard session engine has sessions resources sender payload =>
    have same : ∀ other, attempts other
        ((resources.aimEngine engine (session.heardFrom sender).remote).hear engine
          payload).journal = attempts other resources.journal := fun _ => List.append_nil _
    obtain ⟨first, rest⟩ := List.forall_mem_cons.mp aimed
    refine List.forall_mem_cons.mpr ⟨fun media other hasOther transmission tried => ?_,
      Aimed.of_attempts rest same⟩
    rw [session.role_heardFrom] at media
    rw [session.engine_heardFrom] at hasOther
    rw [same] at tried
    obtain ⟨bound, known⟩ := first media other hasOther transmission tried
    exact ⟨(session.socket_heardFrom sender).trans bound,
      Session.remote_heardFrom_of_some media known sender⟩
  | @forwarded sessions keeper bridge member kept source progress resources =>
    intro session member media engine has transmission tried
    rcases attempts_forward bridge source progress resources tried with
      tried | ⟨state, found, points⟩
    · exact aimed session member media engine has transmission tried
    · obtain ⟨state', address, found', bound, _, serves⟩ := sends.serves session member engine has
      cases found.symm.trans found'
      have same := points.symm.trans serves
      simp only [Option.some.injEq, Outlet.mk.injEq] at same
      exact ⟨same.1 ▸ bound, same.2.symm⟩
  | stopped => exact List.forall_mem_cons.mpr (List.forall_mem_cons.mp aimed)
  | @retired session later engine sessions has still _ _ resources =>
    have same : ∀ other, attempts other (resources.retireEngine engine).journal =
        attempts other resources.journal := fun _ => List.append_nil _
    refine List.forall_mem_cons.mpr ⟨fun _ other hasOther => ?_,
      Aimed.of_attempts (List.forall_mem_cons.mp aimed).2 same⟩
    cases still.symm.trans hasOther

theorem turns {first second : List Session × Resources} (aimed : Aimed first.1 first.2)
    (tracked : Tracked first.1 first.2) (sends : Sends first.1 first.2)
    (turns : Turns first second) : Aimed second.1 second.2 := by
  induction turns with
  | refl => exact aimed
  | tail earlier step ih =>
    obtain ⟨tracked, sends, _⟩ := sends.turns tracked earlier
    exact ih.turn tracked sends step

end Aimed

end Resources

namespace Gateway

/-- **Engines are aimed at every moment.** -/
theorem Attained.aimed {gateway : Gateway} (attained : gateway.Attained) :
    gateway.exchange.resources.Aimed gateway.exchange.table.roster := by
  induction attained with
  | started started =>
    obtain ⟨_, _, _, _, control, roster, without, _⟩ := start_bare started
    rw [roster]
    intro session member _ engine has
    cases List.mem_singleton.mp member
    cases without.symm.trans has
  | passed attained moment ih =>
    exact Resources.Aimed.turns ih attained.tracked attained.sends.1 moment.turns

end Gateway

end FaxRelay
