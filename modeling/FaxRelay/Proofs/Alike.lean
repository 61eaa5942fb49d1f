import FaxRelay.Proofs.Steadiness

/-!
# Drawing on alike resources

On alike resources the same operation has the same outcome and leaves alike
resources behind, whether it succeeds or fails. This goes from the single
supplies over sessions to the two legs of a call (`Exchange.openLegs_alike`) and
to the ending of a call.

The legs may stand at different places of two tables, which is not what they
draw on: what is opened at one place is what is opened at another, but for the
place (`Session.placedAt`).
-/

set_option autoImplicit false

namespace FaxRelay

open FaxRelay.Media FaxRelay.Net FaxRelay.Pool FaxRelay.Signal

namespace Session

/-- A session at another place of a table. -/
def placedAt (session : Session) (index : Nat) : Session := { session with index := index }

end Session

namespace Resources

namespace Alike

variable {left right : Resources} (alike : left.Alike right)
include alike

/-! ## Giving back -/

theorem note (event other : Event) : (left.note event).Alike (right.note other) :=
  { alike with }

theorem releasePort (port : UInt16) : (left.releasePort port).Alike (right.releasePort port) := by
  rw [Resources.releasePort, Resources.releasePort, alike.ports_eq]
  cases left.ports.release port with
  | ok ports => exact { alike with ports_eq := rfl }
  | error fault => exact alike.note _ _

theorem releaseId (id : SessionId) : (left.releaseId id).Alike (right.releaseId id) := by
  rw [Resources.releaseId, Resources.releaseId, alike.ids_eq]
  cases left.ids.release id with
  | ok ids => exact { alike with ids_eq := rfl }
  | error fault => exact alike.note _ _

theorem closeSocket (address : Endpoint) :
    (left.closeSocket address).Alike (right.closeSocket address) := by
  refine { alike with holder_eq := fun other => ?_ }
  rw [Resources.closeSocket, Resources.closeSocket, Fabric.holder?_close, Fabric.holder?_close,
    alike.holder_eq]

theorem changeEngine (engine : Nat) (change : Engine → Engine) :
    (left.changeEngine engine change).Alike (right.changeEngine engine change) := by
  refine { alike with count_eq := ?_ }
  rw [Resources.changeEngine, Resources.changeEngine, List.length_modify, List.length_modify,
    alike.count_eq]

theorem retireEngine (engine : Nat) :
    (left.retireEngine engine).Alike (right.retireEngine engine) :=
  (alike.changeEngine engine Engine.retire).note _ _

theorem elim {α : Type} (held : Option α) {give give' : α → Resources}
    (gives : ∀ value, (give value).Alike (give' value)) :
    (held.elim left give).Alike (held.elim right give') := by
  cases held with
  | none => exact alike
  | some value => exact gives value

/-- Destroying a session gives back the same. -/
theorem destroy (session : Session) (index : Nat) :
    (session.destroy left).2.Alike ((session.placedAt index).destroy right).2 := by
  by_cases isOpen : session.stage = .complete
  · have still : (session.placedAt index).stage = .complete := isOpen
    rw [Session.destroy, Session.destroy, if_pos isOpen, if_pos still]
    exact alike
  · have still : ¬ (session.placedAt index).stage = .complete := isOpen
    rw [Session.destroy, Session.destroy, if_neg isOpen, if_neg still]
    have retired := alike.elim session.engine alike.retireEngine
    have closed := retired.elim session.socket retired.closeSocket
    have returned := closed.elim session.port closed.releasePort
    show Resources.Alike (if session.ownsId = true then _ else _)
      (if session.ownsId = true then _ else _)
    split
    · exact returned.releaseId session.id
    · exact returned

/-! ## Drawing -/

theorem openSocket (address : Endpoint) :
    (∃ fault, left.openSocket address = .error fault ∧ right.openSocket address = .error fault) ∨
    ∃ later later', left.openSocket address = .ok later ∧ right.openSocket address = .ok later' ∧
      later.Alike later' := by
  have taken := Fabric.isTaken_congr alike.holder_eq address
  simp only [Resources.openSocket, Fabric.bind, alike.bindFault_eq, taken]
  cases left.fabric.policy.bindFault address with
  | some cause => exact .inl ⟨_, rfl, rfl⟩
  | none =>
    by_cases occupied : left.fabric.isTaken address = true
    · simp only [occupied, if_true]
      exact .inl ⟨_, rfl, rfl⟩
    · simp only [occupied]
      refine .inr ⟨_, _, rfl, rfl, { alike with holder_eq := fun other => ?_ }⟩
      simp only [Fabric.holder?, Fabric.socket?, List.lookup_cons]
      split
      · rfl
      · exact alike.holder_eq other

theorem makeEngine :
    ∃ outcome later later', left.makeEngine = (outcome, later) ∧
      right.makeEngine = (outcome, later') ∧ later.Alike later' := by
  have same : right.supply.makeFault right.makeAttempts =
      left.supply.makeFault left.makeAttempts := by rw [alike.supply_eq, alike.makes_eq]
  have attempted : Resources.Alike
      { left with makeAttempts := left.makeAttempts + 1 }
      { right with makeAttempts := right.makeAttempts + 1 } :=
    { alike with makes_eq := congrArg (· + 1) alike.makes_eq }
  have blank : Engine.ofSettings right.engineSettings = Engine.ofSettings left.engineSettings := by
    rw [alike.settings_eq]
  rw [Resources.makeEngine, Resources.makeEngine, same, blank]
  cases left.supply.makeFault left.makeAttempts with
  | some reason => exact ⟨_, _, _, rfl, rfl, attempted⟩
  | none =>
    cases Engine.ofSettings left.engineSettings with
    | error fault => exact ⟨_, _, _, rfl, rfl, attempted⟩
    | ok state =>
      refine ⟨_, _, _, rfl, Prod.ext (congrArg Except.ok alike.count_eq) rfl,
        { attempted with count_eq := ?_ }⟩
      simp only [Resources.note, List.length_append, alike.count_eq, List.length_singleton]

theorem attachEngine (engine : Nat) (leg : Leg) :
    ∃ outcome later later', left.attachEngine engine leg = (outcome, later) ∧
      right.attachEngine engine leg = (outcome, later') ∧ later.Alike later' := by
  have same : right.supply.attachFault right.attachAttempts =
      left.supply.attachFault left.attachAttempts := by rw [alike.supply_eq, alike.attaches_eq]
  have attempted : Resources.Alike
      { left with attachAttempts := left.attachAttempts + 1 }
      { right with attachAttempts := right.attachAttempts + 1 } :=
    { alike with attaches_eq := congrArg (· + 1) alike.attaches_eq }
  rw [Resources.attachEngine, Resources.attachEngine, same]
  cases left.supply.attachFault left.attachAttempts with
  | some reason => exact ⟨_, _, _, rfl, rfl, attempted.note _ _⟩
  | none => exact ⟨_, _, _, rfl, rfl, (attempted.changeEngine engine _).note _ _⟩

end Alike

end Resources

/-! ## Joining legs -/

section Joining

variable (inbound outbound : Session) (index other : Nat)

theorem Session.link_placedAt :
    Session.link (inbound.placedAt index) (outbound.placedAt other) =
      (Session.link inbound outbound).map fun legs =>
        (legs.1.placedAt index, legs.2.placedAt other) := by
  rw [link, link]
  show (if (inbound.isControl || outbound.isControl) = true then _ else _) = _
  split
  · rfl
  · rfl

theorem Session.startBridge_placedAt :
    (inbound.placedAt index).startBridge (outbound.placedAt other) =
      (inbound.startBridge outbound).map fun legs =>
        (legs.1.placedAt index, legs.2.placedAt other) := by
  rw [startBridge, startBridge]
  by_cases unpaired : inbound.direction ≠ .inbound ∨ inbound.peer ≠ some outbound.id
  · have unpaired' : (inbound.placedAt index).direction ≠ .inbound ∨
        (inbound.placedAt index).peer ≠ some (outbound.placedAt other).id := unpaired
    rw [if_pos unpaired, if_pos unpaired']
    rfl
  have paired : ¬ ((inbound.placedAt index).direction ≠ .inbound ∨
      (inbound.placedAt index).peer ≠ some (outbound.placedAt other).id) := unpaired
  rw [if_neg unpaired, if_neg paired]
  by_cases running : inbound.bridge.isSome = true
  · have running' : (inbound.placedAt index).bridge.isSome = true := running
    rw [if_pos running, if_pos running']
    rfl
  have idle : ¬ (inbound.placedAt index).bridge.isSome = true := running
  rw [if_neg running, if_neg idle]
  obtain ⟨_, _, _, _, _, _, _, _, _, _, _, _, first, _, _⟩ := inbound
  obtain ⟨_, _, _, _, _, _, _, _, _, _, _, _, second, _, _⟩ := outbound
  cases first with
  | none => rfl
  | some engine => cases second <;> rfl

/-- Where two legs stand does not matter for joining them. -/
theorem Exchange.join_placedAt :
    join (inbound.placedAt index) (outbound.placedAt other) =
      (join inbound outbound).map fun legs =>
        (legs.1.placedAt index, legs.2.placedAt other) := by
  rw [join, join, Session.link_placedAt]
  cases Session.link inbound outbound with
  | error fault => rfl
  | ok legs => exact legs.1.startBridge_placedAt legs.2 index other

end Joining

/-! ## Opening legs -/

section Opening

variable {left right : Resources} (alike : left.Alike right)
include alike

namespace Session

theorem create_alike (role : Role) (direction : Direction) (index other : Nat) :
    (∃ fault, create role index direction left = .error fault ∧
      create role other direction right = .error fault) ∨
    ∃ session later later', create role index direction left = .ok (session, later) ∧
      create role other direction right = .ok (session.placedAt other, later') ∧
      later.Alike later' := by
  rw [create, create, alike.ids_eq]
  cases misfit? role direction with
  | some misuse => exact .inl ⟨_, rfl, rfl⟩
  | none =>
    cases left.ids.allocate direction with
    | error fault => exact .inl ⟨_, rfl, rfl⟩
    | ok issued =>
      exact .inr ⟨fresh issued.1 role direction index, _, _, rfl, rfl, { alike with ids_eq := rfl }⟩

variable (session : Session) (other : Nat)

theorem bindSocket_alike (address : Endpoint) :
    (∃ fault, session.bindSocket address left = .error fault ∧
      (session.placedAt other).bindSocket address right = .error fault) ∨
    ∃ bound later later', session.bindSocket address left = .ok (bound, later) ∧
      (session.placedAt other).bindSocket address right = .ok (bound.placedAt other, later') ∧
      later.Alike later' := by
  rw [bindSocket, bindSocket]
  rcases alike.openSocket address with ⟨fault, refused, refused'⟩ |
    ⟨later, later', opened, opened', alike⟩
  · rw [refused, refused']
    exact .inl ⟨fault, rfl, rfl⟩
  · rw [opened, opened']
    exact .inr ⟨_, _, _, rfl, rfl, alike.elim session.socket alike.closeSocket⟩

theorem equip_alike (callId : CallId) (address : Endpoint) :
    ∃ outcome equipped later later',
      session.equip callId address left = (outcome, equipped, later) ∧
      (session.placedAt other).equip callId address right =
        (outcome, equipped.placedAt other, later') ∧ later.Alike later' := by
  obtain ⟨outcome, made, made', makes, makes', alike⟩ := alike.makeEngine
  rw [equip, equip, makes, makes']
  cases outcome with
  | error fault => exact ⟨_, _, _, _, rfl, rfl, alike⟩
  | ok engine =>
    obtain ⟨outcome, later, later', attaches, attaches', alike⟩ :=
      alike.attachEngine engine (session.leg callId address)
    have sameLeg : (session.placedAt other).leg callId address = session.leg callId address := rfl
    rw [sameLeg]
    dsimp only
    rw [attaches, attaches']
    cases outcome with
    | error fault => exact ⟨_, _, _, _, rfl, rfl, alike⟩
    | ok _ => exact ⟨_, _, _, _, rfl, rfl, alike⟩

theorem openMedia_alike (callId : CallId) (remote : Option Endpoint) :
    ∃ outcome opened later later',
      session.openMedia callId remote left = (outcome, opened, later) ∧
      (session.placedAt other).openMedia callId remote right =
        (outcome, opened.placedAt other, later') ∧ later.Alike later' := by
  rw [openMedia, openMedia, alike.ports_eq]
  by_cases misused : session.role = .control ∨ session.stage ≠ .null
  · have misused' : (session.placedAt other).role = .control ∨
        (session.placedAt other).stage ≠ .null := misused
    rw [if_pos misused, if_pos misused']
    exact ⟨_, _, _, _, rfl, rfl, alike⟩
  have fits : ¬ ((session.placedAt other).role = .control ∨
      (session.placedAt other).stage ≠ .null) := misused
  rw [if_neg misused, if_neg fits]
  by_cases aimless : session.role = .gateway ∧ remote = none
  · have aimless' : (session.placedAt other).role = .gateway ∧ remote = none := aimless
    rw [if_pos aimless, if_pos aimless']
    exact ⟨_, _, _, _, rfl, rfl, alike⟩
  have aimed : ¬ ((session.placedAt other).role = .gateway ∧ remote = none) := aimless
  rw [if_neg aimless, if_neg aimed]
  dsimp only
  cases left.ports.allocate with
  | error fault => exact ⟨_, _, _, _, rfl, rfl, alike⟩
  | ok issued =>
    obtain ⟨port, ports⟩ := issued
    have drawn : Resources.Alike { left with ports := ports } { right with ports := ports } :=
      { alike with ports_eq := rfl }
    have sameAddress : Endpoint.mk right.mediaIp port = ⟨left.mediaIp, port⟩ := by
      rw [alike.mediaIp_eq]
    dsimp only
    rw [sameAddress]
    rcases bindSocket_alike drawn
        { session with callId := some callId, remote := remote, port := some port } other
        ⟨left.mediaIp, port⟩ with
      ⟨fault, refused, refused'⟩ | ⟨bound, later, later', opened, opened', alike⟩
    · rw [placedAt] at refused' ⊢
      rw [refused, refused']
      exact ⟨_, _, _, _, rfl, rfl, drawn⟩
    · rw [placedAt] at opened' ⊢
      rw [opened, opened']
      have sameAddress : Endpoint.mk later'.mediaIp port = ⟨later.mediaIp, port⟩ := by
        rw [alike.mediaIp_eq]
      dsimp only
      rw [sameAddress]
      exact equip_alike alike bound other callId ⟨later.mediaIp, port⟩

end Session

namespace Exchange

theorem openLeg_alike (role : Role) (direction : Direction) (index other : Nat) (callId : CallId)
    (remote : Option Endpoint) :
    ∃ outcome later later', openLeg role index direction callId remote left = (outcome, later) ∧
      openLeg role other direction callId remote right =
        (outcome.map fun session => session.placedAt other, later') ∧ later.Alike later' := by
  rw [openLeg, openLeg]
  rcases Session.create_alike alike role direction index other with
    ⟨fault, refused, refused'⟩ | ⟨session, middle, middle', created, created', alike⟩
  · rw [refused, refused']
    exact ⟨_, _, _, rfl, rfl, ‹left.Alike right›⟩
  obtain ⟨outcome, opened, later, later', opens, opens', alike⟩ :=
    Session.openMedia_alike alike session other callId remote
  rw [created, created']
  dsimp only
  rw [opens, opens']
  cases outcome with
  | error fault => exact ⟨_, _, _, rfl, rfl, alike.destroy opened other⟩
  | ok _ => exact ⟨_, _, _, rfl, rfl, alike⟩

theorem openLegs_alike (role : Role) (setup : Setup) (base other : Nat) :
    ∃ outcome later later', openLegs role base setup left = (outcome, later) ∧
      openLegs role other setup right =
        (outcome.map fun legs => (legs.1.placedAt other, legs.2.placedAt (other + 1)), later') ∧
      later.Alike later' := by
  rw [openLegs, openLegs]
  obtain ⟨outcome, middle, middle', opens, opens', alike⟩ :=
    openLeg_alike alike .gateway .inbound base other setup.callId (some setup.source)
  rw [opens, opens']
  cases outcome with
  | error fault => exact ⟨_, _, _, rfl, rfl, alike⟩
  | ok inbound =>
    obtain ⟨outcome, last, last', opens, opens', alike⟩ :=
      openLeg_alike alike role .outbound (base + 1) (other + 1) setup.callId setup.destination
    dsimp only [Except.map]
    rw [opens, opens']
    cases outcome with
    | error fault => exact ⟨_, _, _, rfl, rfl, alike.destroy inbound other⟩
    | ok outbound =>
      dsimp only [Except.map]
      rw [join_placedAt]
      cases join inbound outbound with
      | ok legs => exact ⟨_, _, _, rfl, rfl, alike⟩
      | error fault =>
        exact ⟨_, _, _, rfl, rfl, (alike.destroy outbound (other + 1)).destroy inbound other⟩

end Exchange

end Opening

end FaxRelay
