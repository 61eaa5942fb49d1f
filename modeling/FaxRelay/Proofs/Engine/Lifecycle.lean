import FaxRelay.Proofs.Delivery
import FaxRelay.Proofs.Engine.Turns

/-!
# Engines follow their legs

Sessions and engines are kept track of by the journal (`Resources.Tracked`): the
journal is orderly, an engine is in use exactly when one of the sessions has it,
and this session is the leg that the engine was attached to. A bridge that is
kept runs between the engines of its keeper and of the leg that its keeper names
as its peer.

Every turn keeps track of them, so they are kept track of at every moment of a
run. It follows what a run makes an engine go through, whatever datagrams
arrive, whichever engines are refused and whichever bridges fail.
-/

set_option autoImplicit false

namespace FaxRelay

open FaxRelay.Media FaxRelay.Net FaxRelay.Pool FaxRelay.Signal

/-- A bridge runs between the engines of its keeper and of the leg that is the keeper's peer. -/
structure Joins (journal : List Event) (keeper partner : Session) (bridge : Bridge) : Prop where
  mates : Mates journal bridge.inbound bridge.outbound
  keeper_has : keeper.engine = some bridge.inbound
  partner_has : partner.engine = some bridge.outbound
  keeper_names : keeper.peer = some partner.id
  partner_names : partner.peer = some keeper.id

theorem Joins.mono {earlier later : List Event} {keeper partner : Session} {bridge : Bridge}
    (joins : Joins earlier keeper partner bridge) (within : earlier ⊆ later) :
    Joins later keeper partner bridge :=
  ⟨joins.mates.mono within, joins.keeper_has, joins.partner_has, joins.keeper_names,
    joins.partner_names⟩

/-! ## What a bridge asks of engines -/

/-- The engine on a side of a bridge. -/
def Bridge.engine (bridge : Bridge) : Direction → Nat
  | .inbound => bridge.inbound
  | .outbound => bridge.outbound

namespace Resources

/-- Moving a frame away from one side asks the engine there for it, and if it is not empty, gives it
to the engine on the opposite side. -/
theorem forward_eq (bridge : Bridge) (source : Direction) (progress : Progress)
    (resources : Resources) :
    (forward (sides bridge.inbound bridge.outbound) source progress resources).2 =
      if (resources.produce (bridge.engine source)).1.isEmpty then
        (resources.produce (bridge.engine source)).2
      else
        ((resources.produce (bridge.engine source)).2.take (bridge.engine source.opposite)
          (resources.produce (bridge.engine source)).1).2 := by
  cases source <;> exact apply_ite Prod.snd _ _ _

theorem aside_relay (resources : Resources) (engine : Nat) (frame : Frame) :
    resources.Aside (resources.relay engine frame).2 := by
  rw [relay]
  split
  · exact .refl _
  split
  · exact .refl _
  · exact .refl _
  · exact resources.aside_transmit _

/-- Taking a frame is noted right after it was sent on. -/
theorem take_eq (resources : Resources) (engine : Nat) (frame : Frame) :
    ∃ fault, (resources.take engine frame).2 =
      (resources.relay engine frame).2.note (.took engine frame fault) := by
  rw [take]
  cases resources.relay engine frame with
  | mk answer relayed =>
    cases answer with
    | ok => exact ⟨none, rfl⟩
    | error fault => exact ⟨some fault, rfl⟩

end Resources

namespace Resources

/-- What the journal tells of the engines is true of the sessions. -/
structure Tracked (sessions : List Session) (resources : Resources) : Prop where
  orderly : Orderly resources.journal
  unmade : ∀ engine, resources.engines.length ≤ engine →
    phase engine resources.journal = .unmade
  decided : ∀ engine, phase engine resources.journal ≠ .made
  inUse_iff : ∀ engine, phase engine resources.journal = .inUse ↔
    ∃ session ∈ sessions, session.engine = some engine
  alone : (sessions.filterMap Session.engine).Nodup
  enrolled : ∀ session ∈ sessions, ∀ engine, session.engine = some engine →
    ∃ leg, .attached engine leg true ∈ resources.journal ∧ session.Fits leg
  bridged : ∀ keeper ∈ sessions, ∀ bridge, keeper.bridge = some bridge →
    ∃ partner ∈ sessions, Joins resources.journal keeper partner bridge

namespace Tracked

variable {session later : Session} {sessions : List Session} {resources before after : Resources}

/-- There is nothing to keep track of in the beginning. -/
theorem nil (nothing : resources.journal = []) : Tracked [] resources where
  orderly := nothing ▸ .nil
  unmade engine _ := by
    rw [nothing]
    rfl
  decided engine := by
    rw [nothing]
    exact Phase.noConfusion
  inUse_iff engine := by
    rw [nothing]
    simp [phase]
  alone := .nil
  enrolled _ member := by cases member
  bridged _ member := by cases member

/-! ## Sessions change -/

theorem perm {others : List Session} (tracked : Tracked sessions resources)
    (same : sessions.Perm others) : Tracked others resources where
  orderly := tracked.orderly
  unmade := tracked.unmade
  decided := tracked.decided
  inUse_iff engine := by
    rw [tracked.inUse_iff]
    exact exists_congr fun session => and_congr_left' same.mem_iff
  alone := (same.filterMap _).nodup_iff.mp tracked.alone
  enrolled session member := tracked.enrolled session (same.mem_iff.mpr member)
  bridged keeper member bridge kept := by
    obtain ⟨partner, found, joins⟩ := tracked.bridged keeper (same.mem_iff.mpr member) bridge kept
    exact ⟨partner, same.mem_iff.mp found, joins⟩

/-- A session without an engine may go. -/
theorem drop (tracked : Tracked (session :: sessions) resources)
    (without : session.engine = none) : Tracked sessions resources where
  orderly := tracked.orderly
  unmade := tracked.unmade
  decided := tracked.decided
  inUse_iff engine := by
    rw [tracked.inUse_iff]
    simp [without]
  alone := by
    have alone := tracked.alone
    rwa [List.filterMap_cons_none without] at alone
  enrolled other member := tracked.enrolled other (List.mem_cons_of_mem _ member)
  bridged keeper member bridge kept := by
    obtain ⟨partner, found, joins⟩ :=
      tracked.bridged keeper (List.mem_cons_of_mem _ member) bridge kept
    rcases List.mem_cons.mp found with rfl | found
    · cases without.symm.trans joins.partner_has
    · exact ⟨partner, found, joins⟩

/-- A session with neither an engine nor a bridge may come. -/
theorem idle (tracked : Tracked sessions resources) (without : later.engine = none)
    (unbridged : later.bridge = none) : Tracked (later :: sessions) resources where
  orderly := tracked.orderly
  unmade := tracked.unmade
  decided := tracked.decided
  inUse_iff engine := by
    rw [tracked.inUse_iff]
    simp [without]
  alone := by
    rw [List.filterMap_cons_none without]
    exact tracked.alone
  enrolled other member engine has := by
    rcases List.mem_cons.mp member with rfl | member
    · cases without.symm.trans has
    · exact tracked.enrolled other member engine has
  bridged keeper member bridge kept := by
    rcases List.mem_cons.mp member with rfl | member
    · cases unbridged.symm.trans kept
    · obtain ⟨partner, found, joins⟩ := tracked.bridged keeper member bridge kept
      exact ⟨partner, List.mem_cons_of_mem _ found, joins⟩

/-- A session without an engine keeps no bridge. -/
theorem unbridged (tracked : Tracked (session :: sessions) resources)
    (without : session.engine = none) : session.bridge = none := by
  cases kept : session.bridge with
  | none => rfl
  | some bridge =>
    obtain ⟨_, _, joins⟩ := tracked.bridged session List.mem_cons_self bridge kept
    cases without.symm.trans joins.keeper_has

/-- A session may change as long as it stays the same leg and keeps no other bridge. -/
theorem replace (tracked : Tracked (session :: sessions) resources)
    (engine_eq : later.engine = session.engine) (id_eq : later.id = session.id)
    (peer_eq : later.peer = session.peer) (fits : ∀ leg, session.Fits leg → later.Fits leg)
    (fewer : later.bridge = none ∨ later.bridge = session.bridge) :
    Tracked (later :: sessions) resources where
  orderly := tracked.orderly
  unmade := tracked.unmade
  decided := tracked.decided
  inUse_iff engine := by
    rw [tracked.inUse_iff]
    simp [engine_eq]
  alone := by
    have alone := tracked.alone
    simp only [List.filterMap_cons, engine_eq] at alone ⊢
    exact alone
  enrolled other member engine has := by
    rcases List.mem_cons.mp member with rfl | member
    · obtain ⟨leg, attached, fit⟩ :=
        tracked.enrolled session List.mem_cons_self engine (engine_eq.symm.trans has)
      exact ⟨leg, attached, fits leg fit⟩
    · exact tracked.enrolled other (List.mem_cons_of_mem _ member) engine has
  bridged keeper member bridge kept := by
    -- Whoever was partner or keeper in place of the session that changed is so still.
    have still : ∀ {keeper}, (∃ partner ∈ session :: sessions,
        Joins resources.journal keeper partner bridge) →
        ∃ partner ∈ later :: sessions, Joins resources.journal keeper partner bridge := by
      rintro keeper ⟨partner, found, joins⟩
      rcases List.mem_cons.mp found with rfl | found
      · exact ⟨later, List.mem_cons_self, joins.mates, joins.keeper_has,
          engine_eq.trans joins.partner_has, joins.keeper_names.trans (congrArg some id_eq.symm),
          peer_eq.trans joins.partner_names⟩
      · exact ⟨partner, List.mem_cons_of_mem _ found, joins⟩
    rcases List.mem_cons.mp member with rfl | member
    · have keptBefore : session.bridge = some bridge := by
        rcases fewer with none | same
        · cases none.symm.trans kept
        · exact same.symm.trans kept
      obtain ⟨partner, found, joins⟩ :=
        still (tracked.bridged session List.mem_cons_self bridge keptBefore)
      exact ⟨partner, found, joins.mates, engine_eq.trans joins.keeper_has, joins.partner_has,
        peer_eq.trans joins.keeper_names, joins.partner_names.trans (congrArg some id_eq.symm)⟩
    · exact still (tracked.bridged keeper (List.mem_cons_of_mem _ member) bridge kept)

/-! ## Engines are used -/

/-- What leaves every phase as it was keeps track of the engines. -/
theorem told (tracked : Tracked sessions before)
    (count : after.engines.length = before.engines.length) (orderly : Orderly after.journal)
    (same : ∀ engine, phase engine after.journal = phase engine before.journal)
    (within : before.journal ⊆ after.journal) : Tracked sessions after where
  orderly := orderly
  unmade engine beyond := by
    rw [same]
    exact tracked.unmade engine (count ▸ beyond)
  decided engine := by
    rw [same]
    exact tracked.decided engine
  inUse_iff engine := by
    rw [same]
    exact tracked.inUse_iff engine
  alone := tracked.alone
  enrolled session member engine has := by
    obtain ⟨leg, attached, fits⟩ := tracked.enrolled session member engine has
    exact ⟨leg, within attached, fits⟩
  bridged keeper member bridge kept := by
    obtain ⟨partner, found, joins⟩ := tracked.bridged keeper member bridge kept
    exact ⟨partner, found, joins.mono within⟩

theorem aside (tracked : Tracked sessions before) (aside : before.Aside after) :
    Tracked sessions after := by
  obtain ⟨events, journal, nobody⟩ := aside.history
  refine tracked.told (congrArg List.length aside.engines_eq) ?_ (fun engine => ?_) ?_
  · rw [journal]
    exact tracked.orderly.aside nobody
  · rw [journal]
    exact phase_append_of_aside nobody engine before.journal
  · rw [journal]
    exact List.subset_append_right events before.journal

theorem uses (tracked : Tracked sessions before) (event : Event) {engine : Nat}
    (used : event.used? = some engine) (inOrder : event.InOrder before.journal)
    (count : after.engines.length = before.engines.length)
    (journal : after.journal = event :: before.journal) : Tracked sessions after := by
  refine tracked.told count ?_ (fun engine => ?_) ?_
  · rw [journal]
    exact .cons inOrder tracked.orderly
  · rw [journal]
    exact phase_cons_of_used used
  · rw [journal]
    exact List.subset_cons_self event before.journal

theorem inUse (tracked : Tracked sessions resources) (member : session ∈ sessions) {engine : Nat}
    (has : session.engine = some engine) : phase engine resources.journal = .inUse :=
  (tracked.inUse_iff engine).mpr ⟨session, member, has⟩

theorem heard (tracked : Tracked (session :: sessions) resources) {engine : Nat}
    (has : session.engine = some engine) (sender : Endpoint) (payload : Payload) :
    Tracked (session.heardFrom sender :: sessions)
      ((resources.aimEngine engine (session.heardFrom sender).remote).hear engine payload) := by
  obtain ⟨remote, same⟩ := session.heardFrom_eq sender
  rw [same]
  have heard : Tracked (session :: sessions)
      ((resources.aimEngine engine remote).hear engine payload) := by
    refine tracked.uses (.heard engine payload) rfl
      (tracked.inUse List.mem_cons_self has) ?_ rfl
    simp [hear, aimEngine, changeEngine, note]
  exact heard.replace rfl rfl rfl (fun _ fits => { fits with }) (.inr rfl)

/-- No other session has the same engine. -/
theorem nobody_else (tracked : Tracked (session :: sessions) resources) {engine : Nat}
    (has : session.engine = some engine) : ∀ other ∈ sessions, other.engine ≠ some engine := by
  have alone := tracked.alone
  rw [List.filterMap_cons_some has, List.nodup_cons] at alone
  exact fun other member hasToo => alone.1 (List.mem_filterMap.mpr ⟨other, member, hasToo⟩)

/-- The engines on both sides of a bridge that is kept are in a call. -/
theorem inCall (tracked : Tracked sessions resources) {keeper : Session} {bridge : Bridge}
    (member : keeper ∈ sessions) (kept : keeper.bridge = some bridge) (side : Direction) :
    InCall resources.journal (bridge.engine side) := by
  obtain ⟨partner, found, joins⟩ := tracked.bridged keeper member bridge kept
  have near := tracked.inUse member joins.keeper_has
  have far := tracked.inUse found joins.partner_has
  cases side with
  | inbound => exact ⟨near, bridge.outbound, .inl joins.mates, far⟩
  | outbound => exact ⟨far, bridge.inbound, .inr joins.mates, near⟩

/-- These engines are mates. -/
theorem mates (tracked : Tracked sessions resources) {keeper : Session} {bridge : Bridge}
    (member : keeper ∈ sessions) (kept : keeper.bridge = some bridge) (side : Direction) :
    Mates resources.journal (bridge.engine side) (bridge.engine side.opposite) ∨
      Mates resources.journal (bridge.engine side.opposite) (bridge.engine side) := by
  obtain ⟨partner, _, joins⟩ := tracked.bridged keeper member bridge kept
  cases side with
  | inbound => exact .inl joins.mates
  | outbound => exact .inr joins.mates

theorem forwarded (tracked : Tracked sessions resources) {keeper : Session} {bridge : Bridge}
    (member : keeper ∈ sessions) (kept : keeper.bridge = some bridge) (source : Direction)
    (progress : Progress) :
    Tracked sessions (forward (sides bridge.inbound bridge.outbound) source progress
      resources).2 := by
  have produced : Tracked sessions (resources.produce (bridge.engine source)).2 :=
    tracked.uses (.produced _ _) rfl (tracked.inCall member kept source)
      (List.length_modify ..) rfl
  rw [forward_eq]
  split
  · exact produced
  obtain ⟨fault, taken⟩ := take_eq (resources.produce (bridge.engine source)).2
    (bridge.engine source.opposite) (resources.produce (bridge.engine source)).1
  have relayed := produced.aside (aside_relay _ (bridge.engine source.opposite)
    (resources.produce (bridge.engine source)).1)
  rw [taken]
  exact relayed.uses (.took _ _ fault) rfl (relayed.inCall member kept source.opposite)
    rfl rfl

/-! ## Engines are made -/

/-- The engine that is made next has not been made yet. -/
theorem unmade_next (tracked : Tracked sessions resources) :
    phase resources.engines.length resources.journal = .unmade :=
  tracked.unmade _ (Nat.le_refl _)

/-- After an engine was made and attached, every other engine is in the phase in which it was. -/
theorem phase_attached (resources : Resources) (leg : Leg) (accepted : Bool) (engine : Nat) :
    phase engine (.attached resources.engines.length leg accepted ::
      .made resources.engines.length :: resources.journal) =
      if engine = resources.engines.length then Phase.made.after (.attached engine leg accepted)
      else phase engine resources.journal := by
  by_cases next : engine = resources.engines.length
  · subst next
    simp [phase, Event.engine?, Phase.after]
  · simp [phase, Event.engine?, next, Ne.symm next]

theorem orderly_attached (tracked : Tracked sessions resources) (leg : Leg) (accepted : Bool) :
    Orderly (.attached resources.engines.length leg accepted ::
      .made resources.engines.length :: resources.journal) := by
  refine .cons ?_ (.cons tracked.unmade_next tracked.orderly)
  exact phase_cons_of_eq rfl

theorem unmade_attached (tracked : Tracked sessions resources) (leg : Leg) (accepted : Bool)
    {engine : Nat} (beyond : resources.engines.length + 1 ≤ engine) :
    phase engine (.attached resources.engines.length leg accepted ::
      .made resources.engines.length :: resources.journal) = .unmade := by
  rw [phase_attached, if_neg (by omega)]
  exact tracked.unmade engine (Nat.le_of_succ_le beyond)

theorem decided_attached (tracked : Tracked sessions resources) (leg : Leg) (accepted : Bool)
    (engine : Nat) :
    phase engine (.attached resources.engines.length leg accepted ::
      .made resources.engines.length :: resources.journal) ≠ .made := by
  rw [phase_attached]
  split
  · cases accepted <;> exact Phase.noConfusion
  · exact tracked.decided engine

theorem refused (tracked : Tracked sessions resources) (leg : Leg) :
    Tracked sessions (resources.refused leg) where
  orderly := tracked.orderly_attached leg false
  unmade engine beyond := by
    refine tracked.unmade_attached leg false ?_
    simpa [Resources.refused] using beyond
  decided := tracked.decided_attached leg false
  inUse_iff engine := by
    refine (Eq.congr_left (phase_attached resources leg false engine)).trans ?_
    rw [← tracked.inUse_iff]
    split
    · next next =>
      rw [next, tracked.unmade_next]
      exact ⟨Phase.noConfusion, Phase.noConfusion⟩
    · exact .rfl
  alone := tracked.alone
  enrolled session member engine has := by
    obtain ⟨leg', attached, fits⟩ := tracked.enrolled session member engine has
    exact ⟨leg', .tail _ (.tail _ attached), fits⟩
  bridged keeper member bridge kept := by
    obtain ⟨partner, found, joins⟩ := tracked.bridged keeper member bridge kept
    exact ⟨partner, found, joins.mono fun _ told => .tail _ (.tail _ told)⟩

theorem equipped (tracked : Tracked sessions resources) {leg : Leg} (fits : session.Fits leg)
    (unbridged : session.bridge = none) (has : session.engine = some resources.engines.length) :
    Tracked (session :: sessions) (resources.equipped leg) where
  orderly := tracked.orderly_attached leg true
  unmade engine beyond := by
    refine tracked.unmade_attached leg true ?_
    simpa [Resources.equipped] using beyond
  decided := tracked.decided_attached leg true
  inUse_iff engine := by
    refine (Eq.congr_left (phase_attached resources leg true engine)).trans ?_
    split
    · next next =>
      rw [next]
      exact ⟨fun _ => ⟨session, List.mem_cons_self, has⟩, fun _ => rfl⟩
    · next other =>
      rw [tracked.inUse_iff]
      simp [has, Ne.symm other]
  alone := by
    rw [List.filterMap_cons_some has, List.nodup_cons]
    refine ⟨fun member => ?_, tracked.alone⟩
    obtain ⟨other, found, hasToo⟩ := List.mem_filterMap.mp member
    cases tracked.unmade_next.symm.trans (tracked.inUse found hasToo)
  enrolled other member engine hasOther := by
    rcases List.mem_cons.mp member with rfl | member
    · cases has.symm.trans hasOther
      exact ⟨leg, .head _, fits⟩
    · obtain ⟨leg', attached, fits'⟩ := tracked.enrolled other member engine hasOther
      exact ⟨leg', .tail _ (.tail _ attached), fits'⟩
  bridged keeper member bridge kept := by
    rcases List.mem_cons.mp member with rfl | member
    · cases unbridged.symm.trans kept
    · obtain ⟨partner, found, joins⟩ := tracked.bridged keeper member bridge kept
      exact ⟨partner, .tail _ found, joins.mono fun _ told => .tail _ (.tail _ told)⟩

/-! ## Legs are joined and go -/

theorem joined {inbound outbound : Session} {engine : Nat}
    (tracked : Tracked (inbound :: outbound :: sessions) resources)
    (hasInbound : inbound.engine = some engine) (hasOutbound : outbound.engine = some (engine + 1))
    (incoming : inbound.direction = .inbound) (outgoing : outbound.direction = .outbound)
    (same : outbound.callId = inbound.callId)
    (alone : inbound.peer = none ∧ outbound.peer = none) :
    Tracked (inbound.bridged outbound.id (some ⟨engine, engine + 1, Progress.fresh⟩) ::
      outbound.bridged inbound.id none :: sessions) resources where
  orderly := tracked.orderly
  unmade := tracked.unmade
  decided := tracked.decided
  inUse_iff engine := by
    rw [tracked.inUse_iff]
    simp [Session.bridged]
  alone := by
    simpa [Session.bridged, List.filterMap_cons] using tracked.alone
  enrolled session member other has := by
    rcases List.mem_cons.mp member with rfl | member
    · obtain ⟨leg, attached, fits⟩ := tracked.enrolled inbound (.head _) other has
      exact ⟨leg, attached, { fits with }⟩
    rcases List.mem_cons.mp member with rfl | member
    · obtain ⟨leg, attached, fits⟩ := tracked.enrolled outbound (.tail _ (.head _)) other has
      exact ⟨leg, attached, { fits with }⟩
    · exact tracked.enrolled session (.tail _ (.tail _ member)) other has
  bridged keeper member bridge kept := by
    rcases List.mem_cons.mp member with rfl | member
    · cases kept
      obtain ⟨leg, attached, fits⟩ := tracked.enrolled inbound (.head _) engine hasInbound
      obtain ⟨leg', attached', fits'⟩ :=
        tracked.enrolled outbound (.tail _ (.head _)) (engine + 1) hasOutbound
      have call : leg'.callId = leg.callId :=
        Option.some.inj (fits'.callId_eq.symm.trans (same.trans fits.callId_eq))
      exact ⟨_, .tail _ (.head _), ⟨rfl, leg, leg', attached, attached',
        fits.direction_eq.symm.trans incoming, fits'.direction_eq.symm.trans outgoing, call⟩,
        hasInbound, hasOutbound, rfl, rfl⟩
    rcases List.mem_cons.mp member with rfl | member
    · cases kept
    · obtain ⟨partner, found, joins⟩ :=
        tracked.bridged keeper (.tail _ (.tail _ member)) bridge kept
      -- A leg that is only joined now was no one's peer.
      rcases List.mem_cons.mp found with rfl | found
      · cases alone.1.symm.trans joins.partner_names
      rcases List.mem_cons.mp found with rfl | found
      · cases alone.2.symm.trans joins.partner_names
      · exact ⟨partner, .tail _ (.tail _ found), joins⟩

theorem retired (tracked : Tracked (session :: sessions) resources) {engine : Nat}
    (has : session.engine = some engine) (still : later.engine = none)
    (unbridged : later.bridge = none)
    (unused : session.peer = none ∨ ∀ keeper ∈ session :: sessions, ∀ bridge,
      keeper.bridge = some bridge → ¬ bridge.Uses engine) :
    Tracked (later :: sessions) (resources.retireEngine engine) := by
  have phases : ∀ other, phase other (resources.retireEngine engine).journal =
      if other = engine then .retired else phase other resources.journal := by
    intro other
    by_cases same : other = engine
    · simp [retireEngine, note, phase, Event.engine?, Phase.after, same]
    · simp [retireEngine, note, changeEngine, phase, Event.engine?, same, Ne.symm same]
  have nobody := tracked.nobody_else has
  refine ⟨.cons (tracked.inUse List.mem_cons_self has) tracked.orderly, fun other beyond => ?_,
    fun other => ?_, fun other => ?_, ?_, fun other member engine' hasOther => ?_,
    fun keeper member bridge kept => ?_⟩
  · have beyond : resources.engines.length ≤ other := by
      simpa [retireEngine, note, changeEngine] using beyond
    have unmade := tracked.unmade other beyond
    rw [phases, if_neg ?_]
    · exact unmade
    · rintro rfl
      cases unmade.symm.trans (tracked.inUse List.mem_cons_self has)
  · rw [phases]
    split
    · exact Phase.noConfusion
    · exact tracked.decided other
  · rw [phases]
    split
    · next same =>
      subst same
      refine ⟨Phase.noConfusion, ?_⟩
      rintro ⟨holder, member, holds⟩
      rcases List.mem_cons.mp member with rfl | member
      · cases still.symm.trans holds
      · exact absurd holds (nobody holder member)
    · next differs =>
      rw [tracked.inUse_iff]
      simp [has, still, Ne.symm differs]
  · rw [List.filterMap_cons_none still]
    have alone := tracked.alone
    rw [List.filterMap_cons_some has] at alone
    exact (List.nodup_cons.mp alone).2
  · rcases List.mem_cons.mp member with rfl | member
    · cases still.symm.trans hasOther
    · obtain ⟨leg, attached, fits⟩ := tracked.enrolled other (.tail _ member) engine' hasOther
      exact ⟨leg, .tail _ attached, fits⟩
  · rcases List.mem_cons.mp member with rfl | member
    · cases unbridged.symm.trans kept
    obtain ⟨partner, found, joins⟩ := tracked.bridged keeper (.tail _ member) bridge kept
    rcases List.mem_cons.mp found with rfl | found
    · rcases unused with lone | unused
      · cases lone.symm.trans joins.partner_names
      · refine absurd ?_ (unused keeper (.tail _ member) bridge kept)
        exact .inr (Option.some.inj (has.symm.trans joins.partner_has))
    · exact ⟨partner, .tail _ found, joins.mono fun _ told => .tail _ told⟩

/-! ## Turns -/

/-- **Every turn keeps track of the engines.** -/
theorem turn {first second : List Session × Resources} (tracked : Tracked first.1 first.2)
    (turn : Turn first second) : Tracked second.1 second.2 := by
  cases turn with
  | aside sessions aside => exact tracked.aside aside
  | reordered same => exact tracked.perm same
  | changed without still fewer =>
    exact (tracked.drop without).idle still
      (fewer.elim id fun same => same.trans (tracked.unbridged without))
  | dropped without => exact tracked.drop without
  | equipped fits _ unbridged _ _ has => exact tracked.equipped fits unbridged has
  | refused sessions resources leg => exact tracked.refused leg
  | joined hasInbound hasOutbound incoming outgoing same alone =>
    exact tracked.joined hasInbound hasOutbound incoming outgoing same alone
  | heard has _ _ sender payload => exact tracked.heard has sender payload
  | forwarded member kept source progress =>
    exact tracked.forwarded member kept source progress
  | stopped =>
    exact tracked.replace rfl rfl rfl (fun _ fits => { fits with }) (.inl rfl)
  | retired has still unbridged unused => exact tracked.retired has still unbridged unused

theorem turns {first second : List Session × Resources} (tracked : Tracked first.1 first.2)
    (turns : Turns first second) : Tracked second.1 second.2 := by
  induction turns with
  | refl => exact tracked
  | tail _ step ih => exact ih.turn step

end Tracked

end Resources

namespace Gateway

/-! ## The engines of a gateway -/

/-- No engine has been made when a gateway starts, and the control session has none. -/
theorem start_bare {settings : Settings} {supply : EngineSupply} {fabric : Fabric}
    {gateway : Gateway} (started : start settings supply fabric = .ok gateway) :
    gateway.settings = settings ∧ gateway.exchange.resources.journal = [] ∧
      gateway.exchange.resources.engines = [] ∧
      gateway.exchange.resources.engineSettings = settings.engine ∧
      ∃ control : Session, gateway.exchange.table.roster = [control] ∧ control.engine = none ∧
        control.bridge = none := by
  obtain ⟨_, _, _, _, _, _, _, resources, table⟩ := start_resources started
  rw [resources, table]
  exact ⟨(start_eq_ok started).2.1, rfl, rfl, rfl, _, rfl, rfl, rfl⟩

/-- **The engines are kept track of at every moment.** -/
theorem Attained.tracked {gateway : Gateway} (attained : gateway.Attained) :
    gateway.exchange.resources.Tracked gateway.exchange.table.roster := by
  induction attained with
  | started started =>
    obtain ⟨_, journal, _, _, control, roster, without, unbridged⟩ := start_bare started
    rw [roster]
    exact (Resources.Tracked.nil journal).idle without unbridged
  | passed _ moment ih => exact ih.turns moment.turns

/-- What is true of the engines of a gateway. Every engine has its story, and none waits between
being made and being attached; the engines in use are those of the sessions, each with one session,
which is the leg that it was attached to; and the bridge of a call used engines only while both
engines of the call were in use. -/
structure EnginesFollowLegs (gateway : Gateway) : Prop where
  told : ∀ engine, Story engine (phase engine gateway.exchange.resources.journal)
    (story engine gateway.exchange.resources.journal)
  decided : ∀ engine, phase engine gateway.exchange.resources.journal ≠ .made
  inUse_iff : ∀ engine, phase engine gateway.exchange.resources.journal = .inUse ↔
    ∃ index session, gateway.exchange.table.session? index = some session ∧
      session.engine = some engine
  alone : ∀ {first second : Nat} {session other : Session} {engine : Nat},
    gateway.exchange.table.session? first = some session →
    gateway.exchange.table.session? second = some other →
    session.engine = some engine → other.engine = some engine → first = second
  enrolled : ∀ {index : Nat} {session : Session} {engine : Nat},
    gateway.exchange.table.session? index = some session → session.engine = some engine →
    ∃ leg, .attached engine leg true ∈ gateway.exchange.resources.journal ∧ session.Fits leg
  moved : ∀ {later earlier : List Event} {event : Event} {engine : Nat},
    gateway.exchange.resources.journal = later ++ event :: earlier →
    event.moved? = some engine →
    (∃ inbound outbound, Mates earlier inbound outbound ∧
      (engine = inbound ∨ engine = outbound)) ∧
    ∀ inbound outbound, Mates gateway.exchange.resources.journal inbound outbound →
      engine = inbound ∨ engine = outbound →
      phase inbound earlier = .inUse ∧ phase outbound earlier = .inUse

/-- At every moment the engines follow their legs. -/
theorem Attained.enginesFollowLegs {gateway : Gateway} (attained : gateway.Attained) :
    gateway.EnginesFollowLegs := by
  have tracked := attained.tracked
  refine ⟨tracked.orderly.story, tracked.decided, fun engine => ?_, ?_, ?_, ?_⟩
  · rw [tracked.inUse_iff]
    constructor
    · rintro ⟨session, member, has⟩
      obtain ⟨slot, inTable, rfl⟩ := List.mem_map.mp member
      obtain ⟨index, found⟩ := List.getElem?_of_mem inTable
      exact ⟨index, slot.session, Table.session?_of_slot found, has⟩
    · rintro ⟨index, session, found, has⟩
      obtain ⟨slot, place, rfl⟩ := Table.slot_of_session? found
      exact ⟨slot.session.aspect, Table.mem_roster place, has⟩
  · intro first second session other engine foundFirst foundSecond has hasToo
    obtain ⟨slot, place, rfl⟩ := Table.slot_of_session? foundFirst
    obtain ⟨slot', place', rfl⟩ := Table.slot_of_session? foundSecond
    have alone := tracked.alone
    rw [Table.roster, List.filterMap_map] at alone
    exact place_unique alone place place' has hasToo
  · intro index session engine found has
    obtain ⟨slot, place, rfl⟩ := Table.slot_of_session? found
    obtain ⟨leg, attached, fits⟩ := tracked.enrolled _ (Table.mem_roster place) engine has
    exact ⟨leg, attached, { fits with }⟩
  · intro later earlier event engine journal moves
    rw [journal]
    exact Orderly.moved (journal ▸ tracked.orderly) moves

/-- **Engines follow their legs.** This holds in every state that a gateway can reach and at every
moment that comes after it, whatever arrives and whatever fails. Between two steps a session has an
engine exactly as long as it is a live leg; and once the gateway was shut down no engine is left in
use, so that everyone that was attached has been retired, once. -/
theorem Reachable.engines_follow_legs {gateway : Gateway} (reached : gateway.Reachable) :
    gateway.EnginesFollowLegs ∧
      (∀ slot ∈ gateway.exchange.table.slots, (∃ engine, slot.session.engine = some engine) ↔
        slot.isLive = true ∧ slot.session.isControl = false) ∧
      (∀ exchange, gateway.exchange.Moments gateway.settings.bufferSize.toNat exchange →
        EnginesFollowLegs { gateway with exchange := exchange }) ∧
      ∀ stop limit, (run stop limit gateway).EnginesFollowLegs ∧
        ∀ engine, phase engine (run stop limit gateway).exchange.resources.journal ≠ .inUse := by
  refine ⟨reached.attained.enginesFollowLegs, fun slot => reached.sound.table.has_engine_iff,
    fun exchange moments => (reached.attained.moments moments).enginesFollowLegs,
    fun stop limit => ?_⟩
  obtain ⟨attained, empty⟩ := reached.attained_run stop limit
  refine ⟨attained.enginesFollowLegs, fun engine inUse => ?_⟩
  obtain ⟨index, session, found, _⟩ := (attained.enginesFollowLegs.inUse_iff engine).mp inUse
  rw [Table.session?, empty] at found
  cases found

/-- A relay with two calls, in the first of which the bridge has moved a frame either way. -/
def talking : Exchange := (poll ⟨{}, busy⟩).2.exchange.runBridge 1 1

theorem reachable_talking : Reachable ⟨{}, talking⟩ := by
  have reached : Reachable ⟨{}, busy⟩ :=
    (((reachable_idle.advanced (.signaled idle.exchange _)).arrive _ _).arrive _ _).arrive _ _
      |>.arrive _ _
  exact reached.poll.advanced (.beside (.bridged (.nothing _) 1 1))

/-- Shut down, this relay has retired all four engines. The first of them was handed a datagram,
was asked for a frame and took one. -/
theorem engines_follow_legs_talking :
    Reachable ⟨{}, talking⟩ ∧ EnginesFollowLegs (run (fun _ => true) 1 ⟨{}, talking⟩) ∧
      (List.range 5).map (fun engine => phase engine
        (run (fun _ => true) 1 ⟨{}, talking⟩).exchange.resources.journal) =
        [.retired, .retired, .retired, .retired, .unmade] ∧
      (story 0 (run (fun _ => true) 1 ⟨{}, talking⟩).exchange.resources.journal).map
        Event.used? = [none, none, some 0, some 0, some 0, none] :=
  ⟨reachable_talking, ((Reachable.engines_follow_legs reachable_talking).2.2.2 _ _).1,
    by decide +kernel, by decide +kernel⟩

end Gateway

end FaxRelay
