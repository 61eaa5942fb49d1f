import FaxRelay.Proofs.Pool.FreeOrder
import FaxRelay.Proofs.Reachable

/-!
# Which setups are admitted

A setup is admitted exactly when its mode is served, the table has room for two
more slots, no live leg has its call identifier, a number of each direction and
two ports are free, sockets can be opened on the two ports that come next, and
an engine can be made for each leg and attached to it (`Exchange.Admits`). The
two legs that are then entered are determined by the setup and by what the pools
issue next (`Exchange.Enters`).

The conditions are checked one at a time, by different functions and in part on
what earlier steps have left of the resources. So the argument goes from one leg
(`openLeg_outcome`) to two (`openLegs_outcome`), where the needs of the second
are expressed in terms of the resources before the first.
-/

set_option autoImplicit false

namespace FaxRelay

open FaxRelay.Media FaxRelay.Net FaxRelay.Pool FaxRelay.Signal

/-! ## Sockets that can be opened -/

namespace Net.Fabric

/-- Whether a socket can be opened on an endpoint: the network does not refuse it and no socket is
in its way. -/
def CanBind (fabric : Fabric) (address : Endpoint) : Prop :=
  fabric.policy.bindFault address = none ∧ fabric.isTaken address = false

/-- The network with one more socket, in which nothing waits. -/
def withSocket (fabric : Fabric) (holder : Holder) (address : Endpoint) : Fabric :=
  { fabric with sockets := (address, ⟨holder, [], false⟩) :: fabric.sockets }

/-- A socket is opened exactly where it can be. -/
theorem bind_outcome (fabric : Fabric) (holder : Holder) (address : Endpoint) :
    (fabric.CanBind address ∧ fabric.bind holder address = .ok (fabric.withSocket holder address)) ∨
      (¬ fabric.CanBind address ∧ ∃ cause, fabric.bind holder address = .error cause) := by
  rw [bind]
  cases refused : fabric.policy.bindFault address with
  | some cause =>
    refine .inr ⟨fun can => ?_, cause, rfl⟩
    rw [can.1] at refused
    cases refused
  | none =>
    by_cases taken : fabric.isTaken address = true
    · refine .inr ⟨fun can => ?_, _, if_pos taken⟩
      rw [can.2] at taken
      cases taken
    · exact .inl ⟨⟨refused, Bool.not_eq_true _ ▸ taken⟩, if_neg taken⟩

/-- With one more socket, every endpoint can be bound that could be bound and does not conflict with
that of the socket. -/
theorem canBind_withSocket_iff {fabric : Fabric} {holder : Holder} {address other : Endpoint} :
    (fabric.withSocket holder address).CanBind other ↔
      address.conflicts other = false ∧ fabric.CanBind other := by
  have taken : (fabric.withSocket holder address).isTaken other =
      (address.conflicts other || fabric.isTaken other) := List.any_cons
  rw [CanBind, CanBind, taken, Bool.or_eq_false_iff, and_left_comm]
  rfl

/-- Opening a socket takes no other port away. -/
theorem canBind_withSocket {fabric : Fabric} {holder : Holder} {address other : Endpoint}
    (differs : address.port ≠ other.port) :
    (fabric.withSocket holder address).CanBind other ↔ fabric.CanBind other := by
  have apart : address.conflicts other = false :=
    Bool.eq_false_iff.mpr fun conflict => differs (Endpoint.conflicts_iff.mp conflict).1
  rw [canBind_withSocket_iff, and_iff_right apart]

end Net.Fabric

/-! ## One leg -/

namespace Resources

/-- Whether the next engine can be made and attached. -/
def CanEquip (resources : Resources) : Prop :=
  resources.supply.makeFault resources.makeAttempts = none ∧
    resources.engineSettings.queueOverflows = false ∧
    resources.supply.attachFault resources.attachAttempts = none

/-- The resources after an engine was made and attached to a leg. -/
def equipped (resources : Resources) (leg : Leg) : Resources :=
  { resources with
    makeAttempts := resources.makeAttempts + 1
    attachAttempts := resources.attachAttempts + 1
    engines := (resources.engines ++ [Engine.blank resources.engineSettings]).modify
      resources.engines.length fun engine => engine.attach leg
    journal := .attached resources.engines.length leg true ::
      .made resources.engines.length :: resources.journal }

/-- What the resources must have for one leg of a direction. -/
structure Affords (resources : Resources) (direction : Direction) : Prop where
  number : resources.ids.free direction ≠ []
  socket : ∃ port, resources.ports.free.head? = some port ∧
    resources.fabric.CanBind ⟨resources.mediaIp, port⟩
  engine : resources.CanEquip

/-- What one leg has drawn: a number, a port with a socket on it, and an engine. -/
structure Draws (before : Resources) (direction : Direction) (id : SessionId) (port : UInt16)
    (after : Resources) : Prop where
  number : before.ids.free direction = id :: after.ids.free direction
  others : after.ids.free direction.opposite = before.ids.free direction.opposite
  ports : before.ports.free = port :: after.ports.free
  fabric_eq : after.fabric = before.fabric.withSocket .relay ⟨before.mediaIp, port⟩
  make_eq : after.makeAttempts = before.makeAttempts + 1
  attach_eq : after.attachAttempts = before.attachAttempts + 1
  fixed_eq : after.fixed = before.fixed

end Resources

namespace Session

variable {resources : Resources}

theorem equip_outcome (session : Session) (callId : CallId) (address : Endpoint)
    (resources : Resources) :
    (resources.CanEquip ∧ session.equip callId address resources =
      (.ok (), { session with engine := some resources.engines.length, stage := .setup },
        resources.equipped (session.leg callId address))) ∨
    (¬ resources.CanEquip ∧ ∃ fault after,
      session.equip callId address resources = (.error fault, session, after)) := by
  rw [equip, Resources.makeEngine]
  cases made : resources.supply.makeFault resources.makeAttempts with
  | some reason =>
    refine .inr ⟨fun can => ?_, _, _, rfl⟩
    rw [can.1] at made
    cases made
  | none =>
    rcases Engine.ofSettings_cases resources.engineSettings with ⟨beyond, fails⟩ | ⟨fits, engine⟩
    · rw [fails]
      refine .inr ⟨fun can => ?_, _, _, rfl⟩
      cases beyond.symm.trans can.2.1
    · rw [engine]
      simp only [Resources.attachEngine, Resources.note]
      cases attached : resources.supply.attachFault resources.attachAttempts with
      | some reason =>
        refine .inr ⟨fun can => ?_, _, _, rfl⟩
        rw [can.2.2] at attached
        cases attached
      | none => exact .inl ⟨⟨made, fits, attached⟩, rfl⟩

/-- Whether a leg of a role may have a remote endpoint: a gateway leg must have one. -/
def Aimed (role : Role) (remote : Option Endpoint) : Prop :=
  role = .gateway → remote.isSome = true

theorem aimed_iff {role : Role} {remote : Option Endpoint} :
    Aimed role remote ↔ ¬ (role = .gateway ∧ remote = none) := by
  simp only [Aimed, not_and, Option.isSome_iff_ne_none, ne_eq]

theorem openMedia_outcome {role : Role} (notControl : role ≠ .control) (id : SessionId)
    (direction : Direction) (index : Nat) (callId : CallId) (remote : Option Endpoint)
    {resources : Resources} (sound : resources.ports.Sound) :
    (Aimed role remote ∧ resources.CanEquip ∧ ∃ port ports leg,
      resources.ports.free = port :: ports.free ∧
      resources.fabric.CanBind ⟨resources.mediaIp, port⟩ ∧
      (fresh id role direction index).openMedia callId remote resources =
        (.ok (), opened id role direction index callId remote ⟨resources.mediaIp, port⟩
            resources.engines.length,
          { resources with
            ports := ports
            fabric := resources.fabric.withSocket .relay ⟨resources.mediaIp, port⟩ }.equipped
              leg)) ∨
    (¬ (Aimed role remote ∧ resources.CanEquip ∧ ∃ port,
        resources.ports.free.head? = some port ∧
        resources.fabric.CanBind ⟨resources.mediaIp, port⟩) ∧
      ∃ fault session after, (fresh id role direction index).openMedia callId remote resources =
        (.error fault, session, after)) := by
  rw [openMedia, if_neg (by simp [fresh, notControl])]
  by_cases missing : (fresh id role direction index).role = .gateway ∧ remote = none
  · rw [if_pos missing]
    exact .inr ⟨fun needs => aimed_iff.mp needs.1 missing, _, _, _, rfl⟩
  have aimed : Aimed role remote := aimed_iff.mpr missing
  rw [if_neg missing]
  dsimp only
  rcases sound.allocate_cases with ⟨empty, fault, refused⟩ | ⟨port, ports, issued, next⟩
  · rw [refused]
    refine .inr ⟨fun needs => ?_, _, _, _, rfl⟩
    obtain ⟨port, first, _⟩ := needs.2.2
    rw [empty] at first
    cases first
  have first : resources.ports.free.head? = some port := by rw [next, List.head?_cons]
  rw [issued]
  dsimp only
  rw [bindSocket, Resources.openSocket]
  rcases resources.fabric.bind_outcome .relay ⟨resources.mediaIp, port⟩ with
    ⟨can, bound⟩ | ⟨cannot, cause, refused⟩
  swap
  · rw [refused]
    refine .inr ⟨fun needs => ?_, _, _, _, rfl⟩
    obtain ⟨other, head, can⟩ := needs.2.2
    cases first.symm.trans head
    exact cannot can
  rw [bound]
  dsimp only [fresh, Option.elim_none]
  rcases equip_outcome _ callId ⟨resources.mediaIp, port⟩
      { resources with
        ports := ports
        fabric := resources.fabric.withSocket .relay ⟨resources.mediaIp, port⟩ } with
    ⟨able, equipped⟩ | ⟨unable, fault, after, refused⟩
  · rw [equipped]
    exact .inl ⟨aimed, able, port, ports, _, next, can, rfl⟩
  · rw [refused]
    exact .inr ⟨fun needs => unable needs.2.1, _, _, _, rfl⟩

end Session

namespace Exchange

/-- **A leg is opened exactly when it is aimed and the resources afford it.** It then draws what
comes next of everything. -/
theorem openLeg_outcome {role : Role} {direction : Direction} (notControl : role ≠ .control)
    (fits : Session.misfit? role direction = none) (index : Nat) (callId : CallId)
    (remote : Option Endpoint) {before : Resources} (sound : before.Sound) :
    (Session.Aimed role remote ∧ before.Affords direction ∧
      ∃ id port after, before.Draws direction id port after ∧
        openLeg role index direction callId remote before =
          (.ok (Session.opened id role direction index callId remote ⟨before.mediaIp, port⟩
            before.engines.length), after)) ∨
    (¬ (Session.Aimed role remote ∧ before.Affords direction) ∧
      ∃ fault after, openLeg role index direction callId remote before =
        (.error fault, after)) := by
  rw [openLeg, Session.create, fits]
  dsimp only
  rcases sound.ids.allocate_cases direction with
    ⟨empty, fault, refused⟩ | ⟨id, ids, issued, number, others⟩
  · rw [refused]
    exact .inr ⟨fun needs => needs.2.number empty, _, _, rfl⟩
  rw [issued]
  dsimp only
  have portsSound : ({ before with ids := ids } : Resources).ports.Sound := sound.ports
  rcases Session.openMedia_outcome notControl id direction index callId remote portsSound with
    ⟨aimed, able, port, ports, leg, next, can, opened⟩ | ⟨unable, fault, session, after, refused⟩
  · rw [opened]
    refine .inl ⟨aimed, ⟨?_, ⟨port, ?_, can⟩, able⟩, id, port, _, ?_, rfl⟩
    · rw [number]
      exact List.cons_ne_nil _ _
    · exact congrArg List.head? next
    · exact ⟨number, others, next, rfl, rfl, rfl, rfl⟩
  · rw [refused]
    exact .inr ⟨fun needs => unable ⟨needs.1, needs.2.engine, needs.2.socket⟩, _, _, rfl⟩

end Exchange

/-! ## Two legs -/

namespace Resources

/-- What the resources must have for both legs of a call: the needs of the second leg are counted
from before the first. -/
structure AffordsCall (resources : Resources) : Prop where
  numbers : ∀ direction, resources.ids.free direction ≠ []
  sockets : ∃ first second rest, resources.ports.free = first :: second :: rest ∧
    resources.fabric.CanBind ⟨resources.mediaIp, first⟩ ∧
    resources.fabric.CanBind ⟨resources.mediaIp, second⟩
  made : resources.supply.makeFault resources.makeAttempts = none ∧
    resources.supply.makeFault (resources.makeAttempts + 1) = none
  fits : resources.engineSettings.queueOverflows = false
  attached : resources.supply.attachFault resources.attachAttempts = none ∧
    resources.supply.attachFault (resources.attachAttempts + 1) = none

variable {before middle : Resources} {id : SessionId} {port : UInt16}

/-- The resources afford a call exactly if they afford its first leg, and what that leg leaves of
them affords the second. -/
theorem affordsCall_iff (sound : before.ports.Sound)
    (draws : before.Draws .inbound id port middle) (first : before.Affords .inbound) :
    before.AffordsCall ↔ middle.Affords .outbound := by
  obtain ⟨number, others, ports, fabric_eq, make_eq, attach_eq, fixed_eq⟩ := draws
  have sameSupply : middle.supply = before.supply := congrArg Prod.fst fixed_eq
  have sameSettings : middle.engineSettings = before.engineSettings :=
    congrArg (fun fixed => fixed.2.1) fixed_eq
  have sameIp : middle.mediaIp = before.mediaIp := congrArg (fun fixed => fixed.2.2.1) fixed_eq
  have outbound : middle.ids.free .outbound = before.ids.free .outbound := others
  -- A socket on the first port takes no other port away.
  have apart : ∀ other ∈ middle.ports.free,
      middle.fabric.CanBind ⟨before.mediaIp, other⟩ ↔
        before.fabric.CanBind ⟨before.mediaIp, other⟩ := by
    intro other member
    have nodup := MediaPorts.nodup_free sound
    rw [ports] at nodup
    rw [fabric_eq]
    refine Fabric.canBind_withSocket fun same => (List.nodup_cons.mp nodup).1 ?_
    obtain rfl : port = other := same
    exact member
  constructor
  · rintro ⟨numbers, ⟨_, second, rest, free, _, can⟩, made, fits, attached⟩
    obtain ⟨rfl, left⟩ := List.cons.inj (ports.symm.trans free)
    refine ⟨?_, ⟨second, ?_, ?_⟩, ?_, sameSettings ▸ fits, ?_⟩
    · rw [outbound]
      exact numbers _
    · rw [left, List.head?_cons]
    · rw [sameIp, apart second (by simp [left])]
      exact can
    · rw [sameSupply, make_eq]
      exact made.2
    · rw [sameSupply, attach_eq]
      exact attached.2
  · rintro ⟨number', ⟨second, head, can⟩, made, fits, attached⟩
    obtain ⟨rest, free⟩ : ∃ rest, middle.ports.free = second :: rest := by
      cases free : middle.ports.free with
      | nil => rw [free] at head; cases head
      | cons other rest => rw [free] at head; cases head; exact ⟨rest, rfl⟩
    obtain ⟨_, ⟨port', head', can'⟩, made', _, attached'⟩ := first
    rw [ports] at head'
    cases head'
    rw [sameSupply, make_eq] at made
    rw [sameSupply, attach_eq] at attached
    rw [sameIp, apart second (by simp [free])] at can
    refine ⟨fun direction => ?_, ⟨_, second, rest, by rw [ports, free], can', can⟩,
      ⟨made', made⟩, sameSettings ▸ fits, attached', attached⟩
    cases direction with
    | inbound =>
      rw [number]
      exact List.cons_ne_nil _ _
    | outbound =>
      rw [← outbound]
      exact number'

end Resources

namespace Exchange

theorem misfit?_outbound {role : Role} (notControl : role ≠ .control) :
    Session.misfit? role .outbound = none := by
  cases role with
  | control => exact absurd rfl notControl
  | gateway => rfl
  | terminal => rfl

/-- **Both legs of a call are opened exactly when the second is aimed and the resources afford the
call.** The first leg gets the port that comes next, the second the one after it, and each the
number of its direction that comes next. -/
theorem openLegs_outcome {role : Role} (notControl : role ≠ .control) (base : Nat) (setup : Setup)
    {before : Resources} (sound : before.Sound) :
    (Session.Aimed role setup.destination ∧ before.AffordsCall ∧
      ∃ id id' first second engine engine' after,
        (∃ rest, before.ids.free .inbound = id :: rest) ∧
        (∃ rest, before.ids.free .outbound = id' :: rest) ∧
        (∃ rest, before.ports.free = first :: second :: rest) ∧
        openLegs role base setup before =
          (.ok
            ((Session.opened id .gateway .inbound base setup.callId (some setup.source)
                ⟨before.mediaIp, first⟩ engine).bridged id'
                (some ⟨engine, engine', Progress.fresh⟩),
              (Session.opened id' role .outbound (base + 1) setup.callId setup.destination
                ⟨before.mediaIp, second⟩ engine').bridged id none), after)) ∨
    (¬ (Session.Aimed role setup.destination ∧ before.AffordsCall) ∧
      ∃ fault after, openLegs role base setup before = (.error fault, after)) := by
  have isMedia : Role.gateway ≠ .control := Role.noConfusion
  have fits : Session.misfit? .gateway .inbound = none := rfl
  rw [openLegs]
  rcases openLeg_outcome isMedia fits base setup.callId (some setup.source) sound with
    ⟨_, affords, id, first, middle, draws, opened⟩ | ⟨unable, fault, middle, refused⟩
  swap
  · rw [refused]
    refine .inr ⟨fun needs => unable ⟨fun _ => rfl, ?_⟩, _, _, rfl⟩
    obtain ⟨_, numbers, ⟨first, second, rest, free, can, _⟩, made, fits, attached⟩ := needs
    exact ⟨numbers _, ⟨first, by rw [free, List.head?_cons], can⟩, made.1, fits, attached.1⟩
  rw [opened]
  dsimp only
  have soundMiddle := (openLeg_ok sound opened).2.1
  have enough := Resources.affordsCall_iff sound.ports draws affords
  have sameIp : middle.mediaIp = before.mediaIp :=
    congrArg (fun fixed => fixed.2.2.1) draws.fixed_eq
  rcases openLeg_outcome notControl (misfit?_outbound notControl) (base + 1) setup.callId
      setup.destination soundMiddle with
    ⟨aimed, affords', id', second, after, draws', opened'⟩ | ⟨unable, fault, after, refused⟩
  · rw [opened']
    dsimp only
    rw [join_opened notControl, sameIp]
    have ports : before.ports.free = first :: second :: after.ports.free := by
      rw [draws.ports, draws'.ports]
    exact .inl ⟨aimed, enough.mpr affords', id, id', first, second, _, _, after,
      ⟨_, draws.number⟩, ⟨_, draws.others.symm.trans draws'.number⟩, ⟨_, ports⟩, rfl⟩
  · rw [refused]
    exact .inr ⟨fun needs => unable ⟨needs.1, enough.mp needs.2⟩, _, _, rfl⟩

/-! ## The whole call -/

/-- The conditions under which a setup is admitted. -/
structure Admits (exchange : Exchange) (setup : Setup) : Prop where
  served : setup.mode = .gatewayToGateway ∧ setup.destination.isSome = true ∨
    setup.mode = .gatewayToTerminal
  room : 2 ≤ exchange.table.capacity - exchange.table.slots.length
  unused : ∀ leg ∈ exchange.table.liveLegs, leg.callId ≠ some setup.callId
  numbers : ∀ direction, 1 ≤ exchange.resources.ids.available direction
  ports : 2 ≤ exchange.resources.ports.available
  sockets : ∀ port ∈ exchange.resources.ports.free.take 2,
    exchange.resources.fabric.CanBind ⟨exchange.resources.mediaIp, port⟩
  made : exchange.resources.supply.makeFault exchange.resources.makeAttempts = none ∧
    exchange.resources.supply.makeFault (exchange.resources.makeAttempts + 1) = none
  fits : exchange.resources.engineSettings.queueOverflows = false
  attached : exchange.resources.supply.attachFault exchange.resources.attachAttempts = none ∧
    exchange.resources.supply.attachFault (exchange.resources.attachAttempts + 1) = none

/-- What an admitted setup enters: two slots behind those that there were, with the two legs of the
call, on the two ports that come next. -/
structure Enters (before : Exchange) (setup : Setup) (after : Exchange) (first second : UInt16)
    (inbound outbound : Session) : Prop where
  next_ports : ∃ rest, before.resources.ports.free = first :: second :: rest
  slots : after.table.slots = before.table.slots ++
    [⟨inbound, Descriptor.opened (some inbound.id)⟩,
      ⟨outbound, Descriptor.opened (some outbound.id)⟩]
  capacity_eq : after.table.capacity = before.table.capacity
  inbound_id : ∃ rest, before.resources.ids.free .inbound = inbound.id :: rest
  outbound_id : ∃ rest, before.resources.ids.free .outbound = outbound.id :: rest
  fresh_ids : before.resources.ids.isAllocated inbound.id = false ∧
    before.resources.ids.isAllocated outbound.id = false ∧ inbound.id ≠ outbound.id
  inbound_role : inbound.role = .gateway
  outbound_role : outboundRole? setup.mode = some outbound.role
  directions : inbound.direction = .inbound ∧ outbound.direction = .outbound
  call : inbound.callId = some setup.callId ∧ outbound.callId = some setup.callId
  inbound_local : inbound.localAddress = some ⟨before.resources.mediaIp, first⟩
  inbound_remote : inbound.remote = some setup.source
  outbound_local : outbound.localAddress = some ⟨before.resources.mediaIp, second⟩
  outbound_remote : outbound.remote = setup.destination
  linked : inbound.peer = some outbound.id ∧ outbound.peer = some inbound.id
  stages : inbound.stage = .progress ∧ outbound.stage = .progress

variable {exchange : Exchange}

/-- A setup is served when there is a role for its outbound leg and that leg is aimed. -/
theorem served_iff {setup : Setup} :
    (setup.mode = .gatewayToGateway ∧ setup.destination.isSome = true ∨
        setup.mode = .gatewayToTerminal) ↔
      ∃ role, outboundRole? setup.mode = some role ∧ Session.Aimed role setup.destination := by
  cases mode : setup.mode with
  | gatewayToGateway => simp [outboundRole?, Session.Aimed]
  | gatewayToTerminal => simp [outboundRole?, Session.Aimed]
  | unknown => simp [outboundRole?]

/-- The pools have enough, and the next sockets can be opened, exactly if the resources afford a
call. -/
theorem affordsCall_iff_available {resources : Resources} (sound : resources.Sound) :
    resources.AffordsCall ↔
      (∀ direction, 1 ≤ resources.ids.available direction) ∧ 2 ≤ resources.ports.available ∧
      (∀ port ∈ resources.ports.free.take 2,
        resources.fabric.CanBind ⟨resources.mediaIp, port⟩) ∧
      (resources.supply.makeFault resources.makeAttempts = none ∧
        resources.supply.makeFault (resources.makeAttempts + 1) = none) ∧
      resources.engineSettings.queueOverflows = false ∧
      resources.supply.attachFault resources.attachAttempts = none ∧
        resources.supply.attachFault (resources.attachAttempts + 1) = none := by
  simp only [SessionIds.available_eq sound.ids, MediaPorts.available_eq sound.ports,
    Nat.one_le_iff_ne_zero, ne_eq, List.length_eq_zero_iff]
  constructor
  · rintro ⟨numbers, ⟨first, second, rest, free, can, can'⟩, made, fits, attached⟩
    rw [free]
    exact ⟨numbers, by simp, by simp [can, can'], made, fits, attached⟩
  · rintro ⟨numbers, two, can, made, fits, attached⟩
    obtain ⟨first, second, rest, free⟩ : ∃ first second rest,
        resources.ports.free = first :: second :: rest := by
      match resources.ports.free, two with
      | first :: second :: rest, _ => exact ⟨first, second, rest, rfl⟩
    rw [free] at can
    exact ⟨numbers, ⟨first, second, rest, free, can first (by simp), can second (by simp)⟩, made,
      fits, attached⟩

/-- A table raises no objection to a call exactly if it has room for two more slots and no live leg
has the identifier. -/
theorem objection?_eq_none_iff {table : Table} (sound : table.Sound) {callId : CallId} :
    objection? table callId = none ↔
      2 ≤ table.capacity - table.slots.length ∧
        ∀ leg ∈ table.liveLegs, leg.callId ≠ some callId := by
  have unused : table.findCall? callId = none ↔
      ∀ leg ∈ table.liveLegs, leg.callId ≠ some callId := by
    constructor
    · intro missing leg member names
      obtain ⟨slot, slotMember, rfl⟩ := List.mem_map.mp member
      obtain ⟨inTail, live⟩ := List.mem_filter.mp slotMember
      have spared := sound.findCall?_eq_none missing slot (List.mem_of_mem_tail inTail)
      rw [Slot.isOf_iff.mpr ⟨live, names⟩] at spared
      cases spared
    · intro unused
      cases found : table.findCall? callId with
      | none => rfl
      | some index =>
        obtain ⟨slot, place, behind, isOf⟩ := Table.findCall?_eq_some found
        obtain ⟨live, names⟩ := Slot.isOf_iff.mp isOf
        have inTail : slot ∈ table.slots.tail := by
          refine List.mem_of_getElem? (i := index - 1) ?_
          rw [List.getElem?_tail, Nat.sub_add_cancel behind, place]
        have member : slot.session ∈ table.liveLegs :=
          List.mem_map_of_mem (List.mem_filter.mpr ⟨inTail, live⟩)
        exact absurd names (unused slot.session member)
  rw [← unused]
  constructor
  · intro welcome
    exact (objection?_eq_none welcome).2
  · rintro ⟨room, missing⟩
    obtain ⟨_, _, _, _, _, present⟩ := sound.control?_eq
    have enough : ¬ table.remaining < 2 := Nat.not_lt.mpr room
    simp [objection?, present, enough, missing]

/-- The two legs of a call, appended to the table. -/
theorem enters_append {setup : Setup} {role : Role} {id id' : SessionId} {first second : UInt16}
    (sound : exchange.resources.Sound) (served : outboundRole? setup.mode = some role)
    (number : ∃ rest, exchange.resources.ids.free .inbound = id :: rest)
    (number' : ∃ rest, exchange.resources.ids.free .outbound = id' :: rest)
    (ports : ∃ rest, exchange.resources.ports.free = first :: second :: rest)
    (engine engine' : Nat) (resources : Resources) (counters : Counters) :
    let inbound := (Session.opened id .gateway .inbound exchange.table.size setup.callId
      (some setup.source) ⟨exchange.resources.mediaIp, first⟩ engine).bridged id'
        (some ⟨engine, engine', Progress.fresh⟩)
    let outbound := (Session.opened id' role .outbound (exchange.table.size + 1) setup.callId
      setup.destination ⟨exchange.resources.mediaIp, second⟩ engine').bridged id none
    exchange.Enters setup
      ⟨(exchange.table.append inbound).append outbound, resources, counters⟩ first second
      inbound outbound := by
  intro inbound outbound
  have isFirst : ∀ {ids : List SessionId} {id : SessionId}, (∃ rest, ids = id :: rest) →
      id ∈ ids := by
    rintro ids id ⟨rest, rfl⟩
    exact List.mem_cons_self
  obtain ⟨side, free⟩ := SessionIds.of_mem_free sound.ids (isFirst number)
  obtain ⟨side', free'⟩ := SessionIds.of_mem_free sound.ids (isFirst number')
  have differ : id ≠ id' := by
    rintro rfl
    cases side.symm.trans side'
  have slots : ((exchange.table.append inbound).append outbound).slots = exchange.table.slots ++
      [⟨inbound, Descriptor.opened (some id)⟩, ⟨outbound, Descriptor.opened (some id')⟩] := by
    rw [Table.append, Table.size_append, Table.append, List.append_assoc]
    rfl
  exact {
    next_ports := ports
    slots := slots
    capacity_eq := rfl
    inbound_id := number
    outbound_id := number'
    fresh_ids := ⟨free, free', differ⟩
    inbound_role := rfl
    outbound_role := served
    directions := ⟨rfl, rfl⟩
    call := ⟨rfl, rfl⟩
    inbound_local := rfl
    inbound_remote := rfl
    outbound_local := rfl
    outbound_remote := rfl
    linked := ⟨rfl, rfl⟩
    stages := ⟨rfl, rfl⟩ }

/-- **What becomes of a setup:** it is admitted and enters its two legs, or it is not admitted and
fails. -/
theorem Sound.setUp_outcome (sound : exchange.Sound) (setup : Setup) :
    (exchange.Admits setup ∧ ∃ after first second inbound outbound,
      exchange.setUp setup = (.ok ⟨exchange.resources.mediaIp, first⟩, after) ∧
      exchange.Enters setup after first second inbound outbound) ∨
    (¬ exchange.Admits setup ∧ ∃ fault after, exchange.setUp setup = (.error fault, after)) := by
  have supplies := sound.ledger.sound
  rw [Exchange.setUp]
  cases served : outboundRole? setup.mode with
  | none =>
    refine .inr ⟨fun admits => ?_, _, _, rfl⟩
    obtain ⟨role, serves, _⟩ := served_iff.mp admits.served
    rw [served] at serves
    cases serves
  | some role =>
    have notControl := outboundRole?_ne_control served
    dsimp only
    cases objected : objection? exchange.table setup.callId with
    | some fault =>
      refine .inr ⟨fun admits => ?_, _, _, rfl⟩
      rw [(objection?_eq_none_iff sound.table).mpr ⟨admits.room, admits.unused⟩] at objected
      cases objected
    | none =>
      obtain ⟨room, unused⟩ := (objection?_eq_none_iff sound.table).mp objected
      obtain ⟨control, space, _⟩ := objection?_eq_none objected
      dsimp only
      rcases openLegs_outcome notControl exchange.table.size setup supplies with
        ⟨aimed, affords, id, id', first, second, engine, engine', after, number, number', ports,
          opened⟩ | ⟨unable, fault, after, refused⟩
      · rw [opened]
        dsimp only [Session.bridged, Session.opened]
        rw [enter_eq_ok control space rfl (decide_eq_false notControl)]
        obtain ⟨numbers, two, sockets, made, fits, attached⟩ :=
          (affordsCall_iff_available supplies).mp affords
        exact .inl ⟨⟨served_iff.mpr ⟨role, served, aimed⟩, room, unused, numbers, two, sockets,
            made, fits, attached⟩, _, first, second, _, _, rfl,
          enters_append supplies served number number' ports engine engine' after _⟩
      · rw [refused]
        refine .inr ⟨fun admits => unable ⟨?_, ?_⟩, _, _, rfl⟩
        · obtain ⟨other, serves, aimed⟩ := served_iff.mp admits.served
          cases served.symm.trans serves
          exact aimed
        · exact (affordsCall_iff_available supplies).mpr
            ⟨admits.numbers, admits.ports, admits.sockets, admits.made, admits.fits,
              admits.attached⟩

end Exchange

/-- **Admission is exact.** In every state that a gateway can reach, a setup succeeds exactly when
it is admitted, and it is then answered with the endpoint on the port that came next, on which the
inbound leg is that was entered. -/
theorem Gateway.Reachable.setUp_ok_iff {gateway : Gateway} (reached : gateway.Reachable)
    (setup : Setup) :
    ((∃ address, (gateway.exchange.setUp setup).1 = .ok address) ↔
      gateway.exchange.Admits setup) ∧
    ∀ address, (gateway.exchange.setUp setup).1 = .ok address →
      ∃ first second inbound outbound, address = ⟨gateway.exchange.resources.mediaIp, first⟩ ∧
        gateway.exchange.Enters setup (gateway.exchange.setUp setup).2 first second
          inbound outbound := by
  rcases reached.sound.setUp_outcome setup with
    ⟨admits, after, first, second, inbound, outbound, made, enters⟩ |
    ⟨refuses, fault, after, failed⟩
  · rw [made]
    refine ⟨iff_of_true ⟨_, rfl⟩ admits, fun address same => ?_⟩
    obtain rfl := Except.ok.inj same
    exact ⟨first, second, inbound, outbound, rfl, enters⟩
  · rw [failed]
    refine ⟨iff_of_false ?_ refuses, fun address same => by cases same⟩
    rintro ⟨address, same⟩
    cases same

/-- A gateway that has just started admits a call to a terminal and enters it on its first two
ports. -/
theorem Gateway.setUp_ok_iff_first_setup :
    idle.Reachable ∧ idle.exchange.Admits (.toTerminal CallId.placeholder ⟨Ipv4.loopback, 4000⟩) ∧
      ∃ inbound outbound,
        idle.exchange.Enters (.toTerminal CallId.placeholder ⟨Ipv4.loopback, 4000⟩)
        (idle.exchange.setUp (.toTerminal CallId.placeholder ⟨Ipv4.loopback, 4000⟩)).2 37000 37001
        inbound outbound := by
  have made : (idle.exchange.setUp (.toTerminal CallId.placeholder ⟨Ipv4.loopback, 4000⟩)).1 =
      .ok ⟨Ipv4.loopback, 37000⟩ := rfl
  obtain ⟨admission, entry⟩ := Reachable.setUp_ok_iff reachable_idle
    (.toTerminal CallId.placeholder ⟨Ipv4.loopback, 4000⟩)
  obtain ⟨first, second, inbound, outbound, same, enters⟩ := entry _ made
  obtain ⟨rest, free⟩ := enters.next_ports
  have next : idle.exchange.resources.ports.free.take 2 = [37000, 37001] := by decide +kernel
  rw [free] at next
  obtain ⟨rfl, rfl⟩ : first = 37000 ∧ second = 37001 := by simpa using next
  exact ⟨reachable_idle, admission.mp ⟨_, made⟩, inbound, outbound, enters⟩

end FaxRelay
