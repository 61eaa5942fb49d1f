import FaxRelay.Proofs.FirstCall
import FaxRelay.Proofs.Pool.Accounts

/-!
# Why setups are refused

A setup that a peer can send fails for one of five reasons (`Exchange.Refuses`):
its mode is not served, the table has no room for two legs, a live leg has its
call identifier, or the resources deny one of the legs. What denies a leg is the
first thing that it lacks: a number, a port, a socket on the port that comes
next, or an engine (`Resources.Denies`). The second leg is counted from what the
first one has left.

None of these is a misuse. The faults that speak of a misuse guard against a
caller that breaks the rules of sessions, and the exchange keeps them: a peer
cannot name a gateway without an address, there always is a control session, and
two legs that were just opened can be linked, bridged and entered.
-/

set_option autoImplicit false

namespace FaxRelay

open FaxRelay.Media FaxRelay.Net FaxRelay.Pool FaxRelay.Signal

/-! ## One leg -/

namespace Resources

/-- Why the resources deny the media of a leg, with the fault that tells of it: what is free and
what is refused of ports, sockets and engines. Where the bound of an engine's queue is no word, the
relay goes down instead of answering. -/
inductive DeniesMedia (resources : Resources) : Fault → Prop where
  | port (empty : resources.ports.free = []) : DeniesMedia resources (.exhausted .mediaPort)
  | socket {port : UInt16} {cause : OsFault} (next : resources.ports.free.head? = some port)
      (refused : resources.fabric.bind .relay ⟨resources.mediaIp, port⟩ = .error cause) :
      DeniesMedia resources (.socket (.bind ⟨resources.mediaIp, port⟩) cause)
  | engine {reason : String}
      (refused : resources.supply.makeFault resources.makeAttempts = some reason ∨
        resources.supply.attachFault resources.attachAttempts = some reason) :
      DeniesMedia resources (.engine (.refused reason))
  | overflow (beyond : resources.engineSettings.queueOverflows = true) :
      DeniesMedia resources .overflow

/-- Why the resources deny a leg of a direction: no number is free, or its media is denied. -/
inductive Denies (resources : Resources) (direction : Direction) : Fault → Prop where
  | number (empty : resources.ids.free direction = []) :
      Denies resources direction (.exhausted .sessionId)
  | media {fault : Fault} (denied : resources.DeniesMedia fault) :
      Denies resources direction fault

/-- Whether media is denied does not depend on the numbers. -/
theorem DeniesMedia.of_ids {resources : Resources} {ids : SessionIds} {fault : Fault}
    (denied : { resources with ids := ids }.DeniesMedia fault) :
    resources.DeniesMedia fault := by
  cases denied with
  | port empty => exact .port empty
  | socket next refused => exact .socket next refused
  | engine refused => exact .engine refused
  | overflow beyond => exact .overflow beyond

theorem Denies.not_misuse {resources : Resources} {direction : Direction} {fault : Fault}
    (denied : resources.Denies direction fault) (cause : Misuse) : fault ≠ .misuse cause := by
  cases denied with
  | number => exact Fault.noConfusion
  | media denied => cases denied <;> exact Fault.noConfusion

end Resources

namespace Session

/-- A session is given no engine only because none is made or attached, or none can be made. -/
theorem equip_error {session other : Session} {callId : CallId} {address : Endpoint}
    {resources after : Resources} {fault : Fault}
    (failed : session.equip callId address resources = (.error fault, other, after)) :
    (∃ reason, fault = .engine (.refused reason) ∧
      (resources.supply.makeFault resources.makeAttempts = some reason ∨
        resources.supply.attachFault resources.attachAttempts = some reason)) ∨
    (fault = .overflow ∧ resources.engineSettings.queueOverflows = true) := by
  rw [equip, Resources.makeEngine] at failed
  cases made : resources.supply.makeFault resources.makeAttempts with
  | some reason =>
    rw [made] at failed
    cases failed
    exact .inl ⟨reason, rfl, .inl rfl⟩
  | none =>
    rcases Engine.ofSettings_cases resources.engineSettings with ⟨beyond, fails⟩ | ⟨_, engine⟩
    · rw [made, fails] at failed
      cases failed
      exact .inr ⟨rfl, beyond⟩
    rw [made, engine] at failed
    simp only [Resources.attachEngine, Resources.note] at failed
    cases attached : resources.supply.attachFault resources.attachAttempts with
    | some reason =>
      rw [attached] at failed
      cases failed
      exact .inl ⟨reason, rfl, .inr rfl⟩
    | none =>
      rw [attached] at failed
      cases failed

/-- A media leg that is aimed is not opened only because the resources deny it. -/
theorem openMedia_error {role : Role} (notControl : role ≠ .control) {id : SessionId}
    {direction : Direction} {index : Nat} {callId : CallId} {remote : Option Endpoint}
    (aimed : Aimed role remote) {resources after : Resources} (sound : resources.ports.Sound)
    {fault : Fault} {other : Session}
    (failed : (fresh id role direction index).openMedia callId remote resources =
      (.error fault, other, after)) : resources.DeniesMedia fault := by
  have closed : ¬ ((fresh id role direction index).role = .control ∨
      (fresh id role direction index).stage ≠ .null) := by
    simp [fresh, notControl]
  have goal : ¬ ((fresh id role direction index).role = .gateway ∧ remote = none) :=
    aimed_iff.mp aimed
  rw [openMedia, if_neg closed, if_neg goal] at failed
  dsimp only at failed
  rcases sound.allocate_cases with ⟨empty, fault', refused⟩ | ⟨port, ports, issued, next⟩
  · obtain ⟨rfl, _⟩ := MediaPorts.allocate_eq_error_iff.mp refused
    rw [refused] at failed
    cases failed
    exact .port empty
  have first : resources.ports.free.head? = some port := by rw [next, List.head?_cons]
  rw [issued] at failed
  dsimp only at failed
  rw [bindSocket, Resources.openSocket] at failed
  dsimp only at failed
  cases bound : resources.fabric.bind .relay ⟨resources.mediaIp, port⟩ with
  | error cause =>
    rw [bound] at failed
    cases failed
    exact .socket first bound
  | ok fabric =>
    rw [bound] at failed
    rcases equip_error failed with ⟨reason, rfl, refused⟩ | ⟨rfl, beyond⟩
    · exact .engine refused
    · exact .overflow beyond

end Session

namespace Exchange

/-- **A leg that is aimed is not opened only because the resources deny it.** -/
theorem openLeg_denied {role : Role} {direction : Direction} (notControl : role ≠ .control)
    (fits : Session.misfit? role direction = none) {index : Nat} {callId : CallId}
    {remote : Option Endpoint} (aimed : Session.Aimed role remote) {before after : Resources}
    (sound : before.Sound) {fault : Fault}
    (failed : openLeg role index direction callId remote before = (.error fault, after)) :
    before.Denies direction fault := by
  rw [openLeg, Session.create, fits] at failed
  dsimp only at failed
  rcases sound.ids.allocate_cases direction with
    ⟨empty, fault', refused⟩ | ⟨id, ids, issued, _, _⟩
  · obtain ⟨rfl, _⟩ := SessionIds.allocate_eq_error_iff.mp refused
    rw [refused] at failed
    cases failed
    exact .number empty
  rw [issued] at failed
  dsimp only at failed
  split at failed
  · cases failed
  next refused =>
  cases failed
  have portsSound : ({ before with ids := ids } : Resources).ports.Sound := sound.ports
  exact .media (Session.openMedia_error notControl aimed portsSound refused).of_ids

/-! ## Two legs -/

/-- Two legs of which the second is aimed cannot be had only because one of them is denied, the
second one by what the first has left. -/
theorem openLegs_denied {role : Role} (notControl : role ≠ .control) {base : Nat} {setup : Setup}
    (aimed : Session.Aimed role setup.destination) {before after : Resources}
    (sound : before.Sound) {fault : Fault}
    (failed : openLegs role base setup before = (.error fault, after)) :
    before.Denies .inbound fault ∨
      ∃ id port middle, before.Draws .inbound id port middle ∧ middle.Denies .outbound fault := by
  have isMedia : Role.gateway ≠ .control := Role.noConfusion
  have aimed' : Session.Aimed .gateway (some setup.source) := fun _ => rfl
  rw [openLegs] at failed
  rcases openLeg_outcome isMedia rfl base setup.callId (some setup.source) sound with
    ⟨_, _, id, port, middle, draws, opened⟩ | ⟨_, fault', middle, refused⟩
  · have soundMiddle := (openLeg_ok sound opened).2.1
    rw [opened] at failed
    dsimp only at failed
    split at failed
    · next refused =>
      cases failed
      exact .inr ⟨id, port, middle, draws,
        openLeg_denied notControl (misfit?_outbound notControl) aimed soundMiddle refused⟩
    next outbound last opened' =>
    obtain ⟨_, _, _, id', port', rfl⟩ := openLeg_ok soundMiddle opened'
    rw [join_opened notControl] at failed
    cases failed
  · have denied := openLeg_denied isMedia rfl aimed' sound refused
    rw [refused] at failed
    cases failed
    exact .inl denied

/-! ## The whole call -/

/-- Why a setup is refused, with the fault that tells of it. -/
inductive Refuses (exchange : Exchange) (setup : Setup) : Fault → Prop where
  | mode (unserved : setup.mode = .unknown) : Refuses exchange setup (.unsupportedMode .unknown)
  | room (full : exchange.table.capacity - exchange.table.slots.length < 2) :
      Refuses exchange setup (.capacity exchange.table.slots.length exchange.table.capacity)
  | duplicate {leg : Session} (live : leg ∈ exchange.table.liveLegs)
      (names : leg.callId = some setup.callId) :
      Refuses exchange setup (.duplicateCall setup.callId)
  | inbound {fault : Fault} (denied : exchange.resources.Denies .inbound fault) :
      Refuses exchange setup fault
  | outbound {id : SessionId} {port : UInt16} {middle : Resources} {fault : Fault}
      (draws : exchange.resources.Draws .inbound id port middle)
      (denied : middle.Denies .outbound fault) : Refuses exchange setup fault

variable {exchange : Exchange} {setup : Setup}

theorem Refuses.not_misuse {fault : Fault} (refuses : exchange.Refuses setup fault)
    (cause : Misuse) : fault ≠ .misuse cause := by
  cases refuses with
  | mode => exact Fault.noConfusion
  | room => exact Fault.noConfusion
  | duplicate => exact Fault.noConfusion
  | inbound denied => exact denied.not_misuse cause
  | outbound _ denied => exact denied.not_misuse cause

/-- The objection of a sound table is that it is full or has a call of that name: there always is a
control session. -/
theorem Sound.refuses_of_objection? (sound : exchange.Sound) {fault : Fault}
    (objected : objection? exchange.table setup.callId = some fault) :
    exchange.Refuses setup fault := by
  obtain ⟨_, _, _, _, _, present⟩ := sound.table.control?_eq
  rw [objection?, present] at objected
  split at objected
  · next missing => cases missing
  split at objected
  · next full =>
    cases objected
    exact .room full
  next room =>
  split at objected
  · next found =>
    cases objected
    by_contra unrefused
    have unused : ∀ leg ∈ exchange.table.liveLegs, leg.callId ≠ some setup.callId :=
      fun leg live names => unrefused (.duplicate live names)
    have welcome := (objection?_eq_none_iff sound.table).mpr ⟨Nat.not_lt.mp room, unused⟩
    rw [(objection?_eq_none welcome).2.2] at found
    cases found
  · cases objected

/-- What comes behind the opening of both legs never fails: the inbound leg has an address, and the
table takes both. -/
theorem entry_unopposed {role : Role} (served : outboundRole? setup.mode = some role)
    (welcome : objection? exchange.table setup.callId = none) (sound : exchange.resources.Sound)
    {inbound outbound : Session} {resources : Resources}
    (opened : openLegs role exchange.table.size setup exchange.resources =
      (.ok (inbound, outbound), resources)) :
    inbound.localAddress ≠ none ∧ exchange.table.objection? inbound = none ∧
      (exchange.table.append inbound).objection? outbound = none := by
  have notControl := outboundRole?_ne_control served
  obtain ⟨control, room, _⟩ := objection?_eq_none welcome
  obtain ⟨middle, _, _, _, _, _, id, port, id', port', rfl, rfl⟩ :=
    openLegs_ok notControl sound opened
  exact ⟨Option.some_ne_none _, objection?_legs control room rfl (decide_eq_false notControl)⟩

/-- Only the unknown mode is not served. -/
theorem outboundRole?_eq_none {mode : FaxMode} (unserved : outboundRole? mode = none) :
    mode = .unknown := by
  cases mode with
  | gatewayToGateway => cases unserved
  | gatewayToTerminal => cases unserved
  | unknown => rfl

/-- A setup that came in a datagram fails only for a reason for which setups are refused. -/
theorem Sound.refuses_of_setUp (sound : exchange.Sound) {datagram : Payload}
    (read : Message.ofDatagram datagram = .ok (.setup setup)) {fault : Fault}
    (failed : (exchange.setUp setup).1 = .error fault) : exchange.Refuses setup fault := by
  have supplies := sound.ledger.sound
  cases served : outboundRole? setup.mode with
  | none =>
    have unserved := outboundRole?_eq_none served
    rw [Exchange.setUp, served, unserved] at failed
    cases failed
    exact .mode unserved
  | some role =>
    cases objected : objection? exchange.table setup.callId with
    | some other =>
      simp only [Exchange.setUp, served, objected] at failed
      cases failed
      exact sound.refuses_of_objection? objected
    | none =>
      have failed' := openLegs_of_setUp_error supplies failed served objected
      have aimed : Session.Aimed role setup.destination := by
        have known : setup.mode ≠ .unknown := fun unknown => by
          rw [unknown] at served
          cases served
        obtain ⟨other, serves, aimed⟩ := served_iff.mp (Signal.served_of_ofDatagram read known)
        cases served.symm.trans serves
        exact aimed
      rcases openLegs_denied (outboundRole?_ne_control served) aimed supplies
          (Prod.ext failed' rfl) with denied | ⟨id, port, middle, draws, denied⟩
      · exact .inbound denied
      · exact .outbound draws denied

end Exchange

/-- **No setup fails by a misuse.** In every state that a gateway can reach, a setup that comes in a
datagram fails only because its mode is not served, the table is full, its call exists, or the
resources deny one of its legs; and once both legs are had, neither the inbound leg lacks an address
nor does the table refuse one of them. -/
theorem Gateway.Reachable.setUp_never_misused {gateway : Gateway} (reached : gateway.Reachable)
    {datagram : Payload} {setup : Setup}
    (read : Message.ofDatagram datagram = .ok (.setup setup)) :
    (∀ fault, (gateway.exchange.setUp setup).1 = .error fault →
      gateway.exchange.Refuses setup fault ∧ ∀ cause, fault ≠ .misuse cause) ∧
    ∀ role inbound outbound resources, Exchange.outboundRole? setup.mode = some role →
      Exchange.objection? gateway.exchange.table setup.callId = none →
      Exchange.openLegs role gateway.exchange.table.size setup gateway.exchange.resources =
        (.ok (inbound, outbound), resources) →
      inbound.localAddress ≠ none ∧ gateway.exchange.table.objection? inbound = none ∧
        (gateway.exchange.table.append inbound).objection? outbound = none := by
  have sound := reached.sound
  constructor
  · intro fault failed
    have refuses := sound.refuses_of_setUp read failed
    exact ⟨refuses, refuses.not_misuse⟩
  · intro role inbound outbound resources served welcome opened
    exact Exchange.entry_unopposed served welcome sound.ledger.sound opened

namespace Gateway

/-- A gateway that has just started on a network in which somebody else has bound the second of its
media ports. -/
def hampered : Gateway :=
  match start {} EngineSupply.unfailing
    ⟨[(⟨Ipv4.loopback, 37001⟩, ⟨.outside, [], false⟩)], Policy.loopback⟩ with
  | .ok gateway => gateway
  | .error _ => idle

/-- It refuses a call to a terminal because the socket of the second leg cannot be opened. -/
theorem setUp_never_misused_hampered :
    hampered.Reachable ∧
      (hampered.exchange.setUp (.toTerminal CallId.placeholder ⟨Ipv4.loopback, 4000⟩)).1 =
        .error (.socket (.bind ⟨Ipv4.loopback, 37001⟩) .addressInUse) ∧
      hampered.exchange.Refuses (.toTerminal CallId.placeholder ⟨Ipv4.loopback, 4000⟩)
        (.socket (.bind ⟨Ipv4.loopback, 37001⟩) .addressInUse) := by
  have started : start {} EngineSupply.unfailing
      ⟨[(⟨Ipv4.loopback, 37001⟩, ⟨.outside, [], false⟩)], Policy.loopback⟩ = .ok hampered := rfl
  have reached : hampered.Reachable := .started started
  have read : Message.ofDatagram (textBytes "SETUP 0 GT 127.0.0.1:4000".toList) =
      .ok (.setup (.toTerminal CallId.placeholder ⟨Ipv4.loopback, 4000⟩)) := by decide +kernel
  have failed : (hampered.exchange.setUp
      (.toTerminal CallId.placeholder ⟨Ipv4.loopback, 4000⟩)).1 =
      .error (.socket (.bind ⟨Ipv4.loopback, 37001⟩) .addressInUse) := rfl
  exact ⟨reached, failed, ((Reachable.setUp_never_misused reached read).1 _ failed).1⟩

end Gateway

end FaxRelay
