import FaxRelay.Proofs.Compaction
import FaxRelay.Proofs.Start

/-!
# Rounds

A gateway goes through rounds, and beside them the world goes on: others use the
network, and the bridges of the calls make their passes or fail
(`Exchange.Beside`). A round is broken down into steps small enough that
anything may happen between any two of them; in the two steps that go over many
slots, it may also happen between any two slots (`Exchange.Step`).

The states of a gateway that can be reached are those to which such steps lead
from its start (`Gateway.Reachable`), in whatever order. All of them are sound,
and a round leads from one of them to another.
-/

set_option autoImplicit false

namespace FaxRelay

open FaxRelay.Media FaxRelay.Net FaxRelay.Pool FaxRelay.Signal

/-! ## Beside the rounds -/

/-- A session whose bridge, if it keeps one, has failed. -/
def Session.failBridge (session : Session) : Session :=
  { session with
    bridge := session.bridge.map fun bridge =>
      { bridge with progress := { bridge.progress with failed := true } } }

theorem Session.gist_failBridge (session : Session) : session.failBridge.gist = session.gist := by
  cases kept : session.bridge <;> simp [gist, failBridge, kept]

namespace Exchange

/-- Marks the bridge that a slot keeps as failed. -/
def failBridge (index : Nat) (exchange : Exchange) : Exchange :=
  { exchange with table := exchange.table.changeSession index Session.failBridge }

/-- What may happen to an exchange while its gateway does nothing. -/
inductive Beside : Exchange → Exchange → Prop where
  | nothing (exchange : Exchange) : Beside exchange exchange
  /-- Somebody else uses the network. -/
  | network {before after : Exchange} {fabric : Fabric} (earlier : Beside before after)
      (moved : after.resources.fabric.Outside fabric) :
      Beside before { after with resources := { after.resources with fabric := fabric } }
  /-- A bridge makes a number of passes. -/
  | bridged {before after : Exchange} (earlier : Beside before after) (index count : Nat) :
      Beside before (after.runBridge index count)
  /-- A bridge fails, for whatever reason. -/
  | failed {before after : Exchange} (earlier : Beside before after) (index : Nat) :
      Beside before (after.failBridge index)

theorem quiet_failBridge (index : Nat) (exchange : Exchange) :
    exchange.Quiet (exchange.failBridge index) :=
  ⟨Table.sameOutline_changeSession _ _ _ fun session _ => session.gist_failBridge,
    Resources.Traffic.refl _⟩

/-- Beside the rounds there is only traffic. -/
theorem Beside.quiet {before after : Exchange} (beside : Beside before after) :
    before.Quiet after := by
  induction beside with
  | nothing => exact Quiet.refl _
  | network earlier moved ih => exact ih.trans (quiet_fabric _ moved.keeps)
  | bridged earlier index count ih => exact ih.trans (quiet_runBridge _ index count)
  | failed earlier index ih => exact ih.trans (quiet_failBridge index _)

/-- Destroys every call whose bridge has failed, with something done beside each. -/
def reapWith (beside : Nat → Exchange → Exchange) (exchange : Exchange) : Exchange :=
  (exchange.table.failedBridges.foldl (fun state index =>
    ((reapSlot state index).1, beside index (reapSlot state index).2)) (0, exchange)).2

/-! ## Steps -/

/-- One step of a round, or something beside it. A datagram of signaling has at most `size` bytes
when it is handled. -/
inductive Step (size : Nat) : Exchange → Exchange → Prop where
  | beside {before after : Exchange} (beside : Beside before after) : Step size before after
  /-- A wait ends for one socket. -/
  | settled (exchange : Exchange) (address : Endpoint) :
      Step size exchange
        { exchange with
          resources :=
            { exchange.resources with fabric := exchange.resources.fabric.settle address } }
  /-- The network reports a token. -/
  | reported (exchange : Exchange) (token : SessionId) :
      Step size exchange { exchange with table := (exchange.table.markReadable token).2 }
  /-- The mark of the control session is cleared. -/
  | unmarked (exchange : Exchange) :
      Step size exchange { exchange with table := exchange.table.clearReadable 0 }
  /-- The control socket is read until it is empty. -/
  | drained (exchange : Exchange) {address : Endpoint}
      (control : exchange.table.control?.bind Session.socket = some address) :
      Step size exchange
        { exchange with
          resources :=
            { exchange.resources with fabric := (exchange.resources.fabric.drain address).2 } }
  /-- One datagram of signaling is handled and answered. -/
  | signaled (exchange : Exchange) (datagram : Endpoint × Payload) :
      Step size exchange (exchange.signal size datagram)
  /-- The calls whose bridges have failed are destroyed. -/
  | reaped (exchange : Exchange) {beside : Nat → Exchange → Exchange}
      (between : ∀ index exchange, Beside exchange (beside index exchange)) :
      Step size exchange (exchange.reapWith beside)
  /-- The table is compacted, and the media that was reported is handled. -/
  | compacted (exchange : Exchange) {beside : Nat → Exchange → Exchange}
      (between : ∀ index exchange, Beside exchange (beside index exchange)) :
      Step size exchange
        (exchange.compactWith fun index exchange =>
          beside index (exchange.handleMedia size index)).2

theorem Sound.reapWith {exchange : Exchange} (sound : exchange.Sound)
    {beside : Nat → Exchange → Exchange}
    (between : ∀ index exchange, Beside exchange (beside index exchange)) :
    (exchange.reapWith beside).Sound := by
  rw [Exchange.reapWith]
  generalize exchange.table.failedBridges = indices
  generalize 0 = count
  induction indices generalizing count exchange with
  | nil => exact sound
  | cons index rest ih =>
    exact ih ((sound.reapSlot count index).of_quiet (between index _).quiet) _

/-- Handling the media of a slot, with something done beside it. -/
theorem keeps_handleMedia {size : Nat} {beside : Nat → Exchange → Exchange}
    (between : ∀ index exchange, Beside exchange (beside index exchange)) :
    Keeps fun index exchange => beside index (exchange.handleMedia size index) := by
  intro index exchange sound
  obtain ⟨handled, closing⟩ := sound.handleMedia size index
  have quiet := (between index (exchange.handleMedia size index)).quiet
  exact ⟨handled.of_quiet quiet, closing.trans (.of_sameOutline quiet.outline)⟩

/-- **Every step keeps an exchange sound.** -/
theorem Step.sound {size : Nat} {before after : Exchange} (step : Step size before after)
    (sound : before.Sound) : after.Sound := by
  cases step with
  | beside beside => exact sound.of_quiet beside.quiet
  | settled address => exact sound.of_quiet (quiet_fabric _ (Fabric.keeps_settle _ address))
  | reported token => exact sound.of_quiet (quiet_markReadable _ token)
  | unmarked => exact sound.of_quiet (quiet_clearReadable _ 0)
  | drained control => exact sound.of_quiet (quiet_fabric _ (Fabric.keeps_drain _ _))
  | signaled datagram => exact sound.signal size datagram
  | reaped between => exact sound.reapWith between
  | compacted between => exact sound.compactWith (keeps_handleMedia between)

end Exchange

namespace Gateway

/-! ## Reachable states -/

/-- The states that a gateway can reach from its start, under whatever settings, supply of engines
and network. -/
inductive Reachable : Gateway → Prop where
  | started {settings : Settings} {supply : EngineSupply} {fabric : Fabric} {gateway : Gateway}
      (started : start settings supply fabric = .ok gateway) : Reachable gateway
  | advanced {gateway : Gateway} {exchange : Exchange} (reached : Reachable gateway)
      (step : gateway.exchange.Step gateway.settings.bufferSize.toNat exchange) :
      Reachable { gateway with exchange := exchange }

namespace Reachable

/-- **Every state that a gateway can reach is sound.** -/
theorem sound {gateway : Gateway} (reached : gateway.Reachable) : gateway.exchange.Sound := by
  induction reached with
  | started started => exact sound_start started
  | advanced reached step ih => exact step.sound ih

/-- Handling a list of things one after the other, each of them in a step. -/
theorem foldl {α : Type} {settings : Settings} {change : Exchange → α → Exchange}
    (steps : ∀ (exchange : Exchange) (value : α),
      exchange.Step settings.bufferSize.toNat (change exchange value))
    (values : List α) {exchange : Exchange} (reached : Reachable ⟨settings, exchange⟩) :
    Reachable ⟨settings, values.foldl change exchange⟩ := by
  induction values generalizing exchange with
  | nil => exact reached
  | cons value rest ih => exact ih (reached.advanced (steps exchange value))

end Reachable

/-- Waiting in steps: the sockets settle one after the other, and then the tokens are marked. -/
theorem wait_eq (exchange : Exchange) :
    (wait exchange).2 =
      (reported exchange).foldl (fun exchange token =>
          { exchange with table := (exchange.table.markReadable token).2 })
        ((watched exchange).foldl (fun exchange entry =>
          { exchange with
            resources :=
              { exchange.resources with fabric := exchange.resources.fabric.settle entry.1 } })
          exchange) := by
  -- Each of the two loops changes one component only, so it may run on that component.
  have settled : ∀ (entries : List (Endpoint × SessionId)) (exchange : Exchange),
      entries.foldl (fun exchange entry =>
        { exchange with
          resources :=
            { exchange.resources with fabric := exchange.resources.fabric.settle entry.1 } })
        exchange =
      { exchange with
        resources :=
          { exchange.resources with
            fabric := entries.foldl (fun fabric entry => fabric.settle entry.1)
              exchange.resources.fabric } } := fun _ exchange =>
    List.foldl_hom (fun fabric =>
      { exchange with resources := { exchange.resources with fabric := fabric } }) fun _ _ => rfl
  have marked : ∀ (tokens : List SessionId) (exchange : Exchange),
      tokens.foldl (fun exchange token =>
        { exchange with table := (exchange.table.markReadable token).2 }) exchange =
      { exchange with
        table := tokens.foldl (fun table token => (table.markReadable token).2)
          exchange.table } := fun _ exchange =>
    List.foldl_hom (fun table => { exchange with table := table }) fun _ _ => rfl
  rw [settled, marked]
  rfl

namespace Reachable

section Round

variable {settings : Settings} {exchange : Exchange} (reached : Reachable ⟨settings, exchange⟩)
include reached

theorem wait : Reachable ⟨settings, (Gateway.wait exchange).2⟩ := by
  rw [wait_eq]
  have settled := foldl (fun exchange (entry : Endpoint × SessionId) =>
    .settled exchange entry.1) (watched exchange) reached
  exact foldl (fun exchange token => .reported exchange token) _ settled

theorem handleControl :
    Reachable ⟨settings, exchange.handleControl settings.bufferSize.toNat⟩ := by
  rw [Exchange.handleControl]
  split
  · exact reached
  · next address control =>
    exact foldl (fun exchange datagram => .signaled exchange datagram) _
      (reached.advanced (.drained exchange control))

theorem reap : Reachable ⟨settings, (exchange.reap).2⟩ :=
  reached.advanced (.reaped exchange fun _ exchange => .nothing exchange)

theorem compact :
    Reachable ⟨settings, (exchange.compact settings.bufferSize.toNat).2⟩ := by
  rw [Exchange.compact_eq]
  exact reached.advanced (.compacted exchange fun _ exchange => .nothing exchange)

end Round

/-- **A round leads from one reachable state to another.** -/
theorem poll {gateway : Gateway} (reached : gateway.Reachable) : gateway.poll.2.Reachable := by
  obtain ⟨settings, exchange⟩ := gateway
  have waited := wait reached
  show Reachable ⟨settings, dispatch settings.bufferSize.toNat (Gateway.wait exchange).1
    (Gateway.wait exchange).2⟩
  rw [dispatch]
  refine compact (reap ?_)
  split
  · exact handleControl (waited.advanced (.unmarked _))
  · exact waited

end Reachable

/-- A gateway with the default settings that has just started on a network of its own. -/
def idle : Gateway :=
  match start {} EngineSupply.unfailing Fabric.loopback with
  | .ok gateway => gateway
  | .error _ => ⟨{}, .ofResources 0 (.ofSettings {} .unfailing .loopback Ipv4.loopback)⟩

theorem start_idle : start {} EngineSupply.unfailing Fabric.loopback = .ok idle := rfl

theorem reachable_idle : idle.Reachable := .started start_idle

end Gateway

end FaxRelay
