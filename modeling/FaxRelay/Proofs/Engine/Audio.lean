import FaxRelay.Proofs.Engine.Lifecycle

/-!
# The audio of an engine

The journal tells what every engine has heard, what audio it has handed out, and
which datagrams were sent to carry the frames it took (`heardAudio`,
`handedOut`, `emissions`). What an engine has handed out and what still waits in
it is, in order, a part of what it has heard; and what was sent for an engine
is, in order, a part of what its mate has handed out (`Resources.Faithful`). No
sample is added on the way, none is moved and none is doubled, although some may
be dropped.

Being faithful is kept by whatever happens to engines. A bridge that moves a
frame keeps it because the two engines that it moves the frame between are mates
of each other and of nobody else (`Faithful.moved`).
-/

set_option autoImplicit false

namespace FaxRelay

open FaxRelay.Media FaxRelay.Net FaxRelay.Pool FaxRelay.Signal

/-! ## Audio in the journal -/

namespace Event

/-- The frame that a certain engine has handed out. -/
def produced? (engine : Nat) : Event → Option Frame
  | .produced other frame => if other = engine then some frame else none
  | _ => none

/-- The datagram that carried the frame that a certain engine took: it was sent right before this
was noted. -/
def emitted? (engine : Nat) (earlier : List Event) : Event → Option Transmission
  | .took other _ none =>
    match earlier.head? with
    | some (.sent transmission none) => if other = engine then some transmission else none
    | _ => none
  | _ => none

/-- An event that tells of no audio. -/
structure IsMute (event : Event) : Prop where
  hears_none : ∀ engine, event.heard? engine = none
  produces_none : ∀ engine, event.produced? engine = none
  emits_none : ∀ engine earlier, event.emitted? engine earlier = none

theorem isMute_of_unused {event : Event} (unused : event.used? = none) : event.IsMute := by
  cases event with
  | heard => cases unused
  | produced => cases unused
  | took => cases unused
  | _ => exact ⟨fun _ => rfl, fun _ => rfl, fun _ _ => rfl⟩

theorem unused_of_aside {event : Event} (aside : event.engine? = none) : event.used? = none := by
  cases event with
  | heard => cases aside
  | produced => cases aside
  | took => cases aside
  | _ => rfl

end Event

/-- The audio that an engine has heard. -/
def heardAudio (engine : Nat) (journal : List Event) : Frame :=
  (hearings engine journal).flatMap decodeAudio

/-- The audio that an engine has handed out. -/
def handedOut (engine : Nat) (journal : List Event) : Frame :=
  (journal.filterMap (Event.produced? engine)).reverse.flatten

/-- The datagrams that were sent for an engine, the first one first. -/
def emissions (engine : Nat) : List Event → List Transmission
  | [] => []
  | event :: earlier => emissions engine earlier ++ (event.emitted? engine earlier).toList

/-- The audio that was sent for an engine. -/
def sentAudio (engine : Nat) (journal : List Event) : Frame :=
  (emissions engine journal).flatMap fun transmission => decodeAudio transmission.payload

section Told

variable (engine : Nat) (event : Event) (earlier : List Event)

theorem heardAudio_cons : heardAudio engine (event :: earlier) =
    heardAudio engine earlier ++ ((event.heard? engine).map decodeAudio).getD [] := by
  rw [heardAudio, heardAudio, hearings, hearings, List.filterMap_cons]
  cases event.heard? engine <;> simp

theorem handedOut_cons : handedOut engine (event :: earlier) =
    handedOut engine earlier ++ (event.produced? engine).getD [] := by
  rw [handedOut, handedOut, List.filterMap_cons]
  cases event.produced? engine <;> simp

theorem sentAudio_cons : sentAudio engine (event :: earlier) =
    sentAudio engine earlier ++
      ((event.emitted? engine earlier).map fun transmission =>
        decodeAudio transmission.payload).getD [] := by
  rw [sentAudio, sentAudio, emissions]
  cases event.emitted? engine earlier <;> simp

end Told

/-- Mute events change nothing that is told of audio. -/
theorem audio_append_of_mute {events : List Event} (mute : ∀ event ∈ events, event.IsMute)
    (engine : Nat) (earlier : List Event) :
    heardAudio engine (events ++ earlier) = heardAudio engine earlier ∧
      handedOut engine (events ++ earlier) = handedOut engine earlier ∧
      emissions engine (events ++ earlier) = emissions engine earlier := by
  induction events with
  | nil => exact ⟨rfl, rfl, rfl⟩
  | cons event events ih =>
    obtain ⟨heard, handed, sent⟩ := ih fun other member => mute other (.tail _ member)
    obtain ⟨hears, produces, emits⟩ := mute event (.head _)
    rw [List.cons_append, heardAudio_cons, handedOut_cons, emissions, hears, produces, emits]
    simp [heard, handed, sent]

/-- What was sent for an engine is a part of what its mate has handed out, in the same order. -/
def Relayed (journal : List Event) (engine : Nat) : Prop :=
  emissions engine journal = [] ∨
    ∃ mate, (Mates journal engine mate ∨ Mates journal mate engine) ∧
      (sentAudio engine journal).Sublist (handedOut mate journal)

/-- Nothing more is sent for an engine, while the others may hand out more. -/
theorem Relayed.mono {earlier later : List Event} {engine : Nat} (relayed : Relayed earlier engine)
    (within : earlier ⊆ later) (same : emissions engine later = emissions engine earlier)
    (more : ∀ mate, (handedOut mate earlier).Sublist (handedOut mate later)) :
    Relayed later engine := by
  rw [Relayed, sentAudio, same]
  refine relayed.imp_right fun ⟨mate, mates, part⟩ => ?_
  exact ⟨mate, mates.imp (Mates.mono · within) (Mates.mono · within), part.trans (more mate)⟩

namespace Resources

/-! ## Moving a frame -/

/-- What moving a frame from one engine to another leads to. -/
inductive Moving (resources : Resources) (engine mate : Nat) : Resources → Prop where
  /-- No audio was there. -/
  | idle : Moving resources engine mate (resources.produce engine).2
  /-- The frame went out. -/
  | sent {state : Engine} {outlet : Outlet} {transmission : Transmission} (fabric : Fabric)
      (found : (resources.produce engine).2.engines[mate]? = some state)
      (ready : state.outlet = some outlet) (source : transmission.source = outlet.source)
      (aimed : outlet.remote = some transmission.destination)
      (carries : transmission.payload = encodeAudio (resources.produce engine).1)
      (audio : (resources.produce engine).1 ≠ []) :
      Moving resources engine mate
        { (resources.produce engine).2 with
          fabric := fabric
          journal := .took mate (resources.produce engine).1 none ::
            .sent transmission none ::
            .produced engine (resources.produce engine).1 :: resources.journal }
  /-- The frame was taken, but nothing was sent. -/
  | silent (fault : Option Fault) :
      Moving resources engine mate
        { (resources.produce engine).2 with
          journal := .took mate (resources.produce engine).1 fault ::
            .produced engine (resources.produce engine).1 :: resources.journal }
  /-- The frame was taken, but it could not be sent. -/
  | failed (fault : Option Fault) (transmission : Transmission) (cause : OsFault) :
      Moving resources engine mate
        { (resources.produce engine).2 with
          journal := .took mate (resources.produce engine).1 fault ::
            .sent transmission (some cause) ::
            .produced engine (resources.produce engine).1 :: resources.journal }

/-- Moving a frame changes no engine but the one that hands it out. -/
theorem Moving.engines_eq {resources after : Resources} {engine mate : Nat}
    (moving : Moving resources engine mate after) :
    after.engines = (resources.produce engine).2.engines ∧
      after.engineSettings = resources.engineSettings := by
  cases moving <;> exact ⟨rfl, rfl⟩

theorem moving (bridge : Bridge) (source : Direction) (progress : Progress)
    (resources : Resources) :
    Moving resources (bridge.engine source) (bridge.engine source.opposite)
      (forward (sides bridge.inbound bridge.outbound) source progress resources).2 := by
  rw [forward_eq]
  generalize bridge.engine source = engine
  generalize bridge.engine source.opposite = mate
  split
  · exact .idle
  next audio =>
  have audio : (resources.produce engine).1 ≠ [] := fun none => audio (by simp [none])
  rw [take, relay]
  cases found : (resources.produce engine).2.engines[mate]? with
  | none => exact .silent (some _)
  | some state =>
    dsimp only
    rw [Engine.transmission]
    cases ready : state.outlet with
    | none => exact .silent (some _)
    | some outlet =>
      cases aimed : outlet.remote with
      | none =>
        simp only [aimed, Option.map_none]
        exact .silent none
      | some destination =>
        simp only [aimed, Option.map_some, transmit]
        cases (resources.produce engine).2.fabric.send outlet.source destination
          (encodeAudio (resources.produce engine).1) with
        | error cause =>
          dsimp only
          cases answerSent (.error (.socket (.send destination) cause)) with
          | ok => exact .failed none _ cause
          | error fault => exact .failed (some fault) _ cause
        | ok fabric => exact .sent fabric found ready rfl aimed rfl audio

/-! ## What audio goes through -/

/-- The audio that waits in an engine. -/
def waiting (resources : Resources) (engine : Nat) : Frame :=
  ((resources.engines[engine]?).map Engine.queue).getD []

theorem engines_equipped (resources : Resources) (leg : Leg) :
    (resources.equipped leg).engines =
      resources.engines ++ [(Engine.blank resources.engineSettings).attach leg] :=
  modify_length resources.engines _ [] _

/-- All engines cut audio into the frames that the settings give. -/
def Framed (resources : Resources) : Prop :=
  ∀ (engine : Nat) (state : Engine), resources.engines[engine]? = some state →
    state.frameSamples = resources.engineSettings.frameSamples

/-- Engines pass audio on in order and without adding to it: what one has handed out, and what still
waits in it, is a part of what it heard; and what was sent for one is a part of what its mate handed
out. -/
structure Faithful (resources : Resources) : Prop where
  kept : ∀ engine, (handedOut engine resources.journal ++ resources.waiting engine).Sublist
    (heardAudio engine resources.journal)
  relayed : ∀ engine, Relayed resources.journal engine

theorem waiting_changeEngine (resources : Resources) (engine : Nat) (change : Engine → Engine)
    (other : Nat) : (resources.changeEngine engine change).waiting other =
      if engine = other then
        ((resources.engines[engine]?).map fun state => (change state).queue).getD []
      else resources.waiting other := by
  rw [waiting, changeEngine, List.getElem?_modify]
  split
  · next same =>
    subst same
    cases resources.engines[engine]? <;> rfl
  · simp [waiting]

/-- Of the audio of a datagram and what waited before nothing is moved. -/
theorem waiting_hear (resources : Resources) (engine : Nat)
    (remote : Option Endpoint) (payload : Payload) :
    (((resources.aimEngine engine remote).hear engine payload).waiting engine).Sublist
      (resources.waiting engine ++ decodeAudio payload) := by
  simp only [waiting, hear, note, aimEngine, changeEngine, List.getElem?_modify, if_pos]
  cases resources.engines[engine]? with
  | none => exact List.nil_sublist _
  | some state => exact List.drop_sublist _ _

/-- What is handed out was the first that waited. -/
theorem produce_waiting (resources : Resources) (engine : Nat) :
    (resources.produce engine).1 ++ (resources.produce engine).2.waiting engine =
      resources.waiting engine := by
  simp only [waiting, produce, note, changeEngine, List.getElem?_modify, if_pos]
  cases resources.engines[engine]? with
  | none => rfl
  | some state => exact List.take_append_drop _ _

/-- A new engine has nothing waiting. -/
theorem waiting_append {before after : Resources} {state : Engine}
    (engines : after.engines = before.engines ++ [state]) (empty : state.queue = [])
    (engine : Nat) : after.waiting engine = before.waiting engine := by
  rw [waiting, waiting, engines, List.getElem?_append]
  split
  · rfl
  · next beyond =>
    rw [List.getElem?_eq_none (Nat.not_lt.mp beyond)]
    cases engine - before.engines.length <;> simp [empty]

namespace Framed

variable {before after resources : Resources}

/-- What changes the size of no frame keeps it. -/
theorem changeEngine (framed : resources.Framed) (engine : Nat) (change : Engine → Engine)
    (keeps : ∀ state, (change state).frameSamples = state.frameSamples) :
    (resources.changeEngine engine change).Framed := by
  intro other state found
  rw [Resources.changeEngine, List.getElem?_modify] at found
  obtain ⟨old, present, rfl⟩ := Option.map_eq_some_iff.mp found
  split
  · exact (keeps old).trans (framed other old present)
  · exact framed other old present

theorem append (framed : before.Framed) {state : Engine}
    (settings : after.engineSettings = before.engineSettings)
    (engines : after.engines = before.engines ++ [state])
    (fits : state.frameSamples = before.engineSettings.frameSamples) : after.Framed := by
  intro engine other found
  rw [settings]
  rw [engines] at found
  rcases List.mem_append.mp (List.mem_of_getElem? found) with member | member
  · obtain ⟨place, present⟩ := List.getElem?_of_mem member
    exact framed place other present
  · cases List.mem_singleton.mp member
    exact fits

theorem aside (framed : before.Framed) (aside : before.Aside after) : after.Framed := by
  intro engine state found
  rw [aside.engines_eq] at found
  rw [aside.settings_eq]
  exact framed engine state found

end Framed

namespace Faithful

variable {before after resources : Resources}

/-- Nothing that is told of audio changes, and nothing comes to wait. -/
theorem told (faithful : before.Faithful)
    (waits : ∀ engine, (after.waiting engine).Sublist (before.waiting engine))
    (within : before.journal ⊆ after.journal)
    (same : ∀ engine, heardAudio engine after.journal = heardAudio engine before.journal ∧
      handedOut engine after.journal = handedOut engine before.journal ∧
      emissions engine after.journal = emissions engine before.journal) : after.Faithful where
  kept engine := by
    obtain ⟨heard, handed, _⟩ := same engine
    rw [heard, handed]
    exact ((waits engine).append_left _).trans (faithful.kept engine)
  relayed engine := by
    refine (faithful.relayed engine).mono within (same engine).2.2 fun mate => ?_
    rw [(same mate).2.1]

/-- What uses no engine does not touch audio. -/
theorem unused (faithful : before.Faithful)
    (waits : ∀ engine, (after.waiting engine).Sublist (before.waiting engine))
    {events : List Event} (journal : after.journal = events ++ before.journal)
    (unused : ∀ event ∈ events, event.used? = none) : after.Faithful := by
  refine faithful.told waits ?_ fun engine => ?_
  · rw [journal]
    exact List.subset_append_right ..
  · rw [journal]
    exact audio_append_of_mute (fun event member => Event.isMute_of_unused (unused event member))
      engine before.journal

theorem aside (faithful : before.Faithful) (aside : before.Aside after) : after.Faithful := by
  obtain ⟨events, journal, nobody⟩ := aside.history
  refine faithful.unused (fun engine => ?_) journal
    fun event member => Event.unused_of_aside (nobody event member)
  rw [waiting, aside.engines_eq]
  exact .refl _

theorem equipped (faithful : resources.Faithful) (leg : Leg) :
    (resources.equipped leg).Faithful := by
  have engines := resources.engines_equipped leg
  refine faithful.unused (fun engine => (waiting_append engines rfl engine).symm ▸ .refl _)
    (show _ = [.attached _ leg true, .made _] ++ _ from rfl) ?_
  simp [Event.used?]

theorem refused (faithful : resources.Faithful) (leg : Leg) :
    (resources.refused leg).Faithful := by
  have engines : (resources.refused leg).engines =
      resources.engines ++ [Engine.blank resources.engineSettings] := rfl
  refine faithful.unused (fun engine => (waiting_append engines rfl engine).symm ▸ .refl _)
    (show _ = [.attached _ leg false, .made _] ++ _ from rfl) ?_
  simp [Event.used?]

theorem retired (faithful : resources.Faithful) (engine : Nat) :
    (resources.retireEngine engine).Faithful := by
  refine faithful.unused (fun other => ?_) (show _ = [.retired engine] ++ _ from rfl) ?_
  · have waits : (resources.retireEngine engine).waiting other = _ :=
      resources.waiting_changeEngine engine Engine.retire other
    rw [waits]
    split
    · cases resources.engines[engine]? <;> exact List.nil_sublist _
    · exact .refl _
  · simp [Event.used?]

theorem heard (faithful : resources.Faithful) (engine : Nat) (remote : Option Endpoint)
    (payload : Payload) : ((resources.aimEngine engine remote).hear engine payload).Faithful := by
  have journal : ((resources.aimEngine engine remote).hear engine payload).journal =
      .heard engine payload :: resources.journal := rfl
  have handed : ∀ other, handedOut other (.heard engine payload :: resources.journal) =
      handedOut other resources.journal := fun other => by simp [handedOut_cons, Event.produced?]
  refine ⟨fun other => ?_, fun other => ?_⟩
  · have part := faithful.kept other
    rw [journal, handed, heardAudio_cons]
    by_cases same : engine = other
    · subst same
      simp only [Event.heard?, if_pos, Option.map_some, Option.getD_some]
      refine ((resources.waiting_hear engine remote payload).append_left _).trans ?_
      rw [← List.append_assoc]
      exact part.append_right _
    · simp only [Event.heard?, if_neg same, Option.map_none, Option.getD_none, List.append_nil]
      simpa [waiting, hear, note, aimEngine, changeEngine, List.getElem?_modify, same] using part
  · refine (faithful.relayed other).mono (List.subset_cons_self ..) ?_ fun mate => ?_
    · exact List.append_nil _
    · rw [journal, handed]

theorem produced (faithful : resources.Faithful) (engine : Nat) :
    (resources.produce engine).2.Faithful := by
  have journal : (resources.produce engine).2.journal =
      .produced engine (resources.produce engine).1 :: resources.journal := rfl
  refine ⟨fun other => ?_, fun other => ?_⟩
  · have part := faithful.kept other
    rw [journal, handedOut_cons, heardAudio_cons]
    by_cases same : engine = other
    · subst same
      simpa [Event.produced?, Event.heard?, produce_waiting] using part
    · simpa [Event.produced?, Event.heard?, same, waiting, produce, note, changeEngine,
        List.getElem?_modify] using part
  · refine (faithful.relayed other).mono (List.subset_cons_self ..) ?_ fun mate => ?_
    · exact List.append_nil _
    · rw [journal, handedOut_cons]
      exact List.sublist_append_left _ _

/-- **Moving a frame between mates is faithful.** -/
theorem moved (faithful : before.Faithful) (orderly : Orderly before.journal) {engine mate : Nat}
    (mates : Mates before.journal engine mate ∨ Mates before.journal mate engine)
    (moving : Moving before engine mate after) : after.Faithful := by
  have produced := faithful.produced engine
  have journal : (before.produce engine).2.journal =
      .produced engine (before.produce engine).1 :: before.journal := rfl
  cases moving with
  | idle => exact produced
  | silent fault =>
    refine produced.told (fun _ => .refl _) (List.subset_cons_self ..) fun other => ?_
    rw [← journal, heardAudio_cons, handedOut_cons, emissions, journal]
    cases fault <;> simp [Event.heard?, Event.produced?, Event.emitted?]
  | failed fault transmission cause =>
    refine produced.told (fun _ => .refl _)
      (fun _ told => .tail _ (.tail _ told)) fun other => ?_
    rw [← journal, heardAudio_cons, heardAudio_cons, handedOut_cons, handedOut_cons, emissions,
      emissions]
    cases fault <;> simp [Event.heard?, Event.produced?, Event.emitted?]
  | @sent _ _ transmission fabric _ _ _ _ carries _ =>
    refine ⟨fun other => ?_, fun other => ?_⟩
    · have part := produced.kept other
      rw [← journal, heardAudio_cons, heardAudio_cons, handedOut_cons, handedOut_cons]
      simp only [Event.heard?, Event.produced?, Option.map_none, Option.getD_none, List.append_nil]
      exact part
    rw [← journal]
    by_cases same : mate = other
    case neg =>
      refine (produced.relayed other).mono (fun _ told => .tail _ (.tail _ told)) ?_ fun third => ?_
      · simp [emissions, Event.emitted?, same]
      · simp [handedOut_cons, Event.produced?]
    subst same
    -- What was sent before came from the same mate, as there is no other.
    have part : (sentAudio mate before.journal).Sublist (handedOut engine before.journal) := by
      rcases faithful.relayed mate with none | ⟨other, also, part⟩
      · rw [sentAudio, none]
        exact List.nil_sublist _
      · cases orderly.mate_unique mates also
        exact part
    have within : before.journal ⊆ .took mate (before.produce engine).1 none ::
        .sent transmission none :: (before.produce engine).2.journal :=
      fun _ told => .tail _ (.tail _ (.tail _ told))
    refine .inr ⟨engine, (mates.imp (Mates.mono · within) (Mates.mono · within)).symm, ?_⟩
    have emitted : Event.emitted? mate (.sent transmission none ::
        (before.produce engine).2.journal) (.took mate (before.produce engine).1 none) =
        some transmission := if_pos rfl
    rw [sentAudio_cons, emitted, sentAudio_cons, handedOut_cons, handedOut_cons, journal,
      sentAudio_cons, handedOut_cons]
    simpa [Event.emitted?, Event.produced?, carries, decodeAudio_encodeAudio] using part

end Faithful

end Resources

end FaxRelay
