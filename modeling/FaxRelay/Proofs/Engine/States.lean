import FaxRelay.Proofs.Engine.Provenance
import FaxRelay.Proofs.Media.Packets

/-!
# The states of engines

A relay does nothing to an engine but what can be done with engines one by one:
it makes, attaches, aims and retires them, hands them datagrams and asks them
for frames. So every engine of a relay is at all times in a state that an engine
with the same settings reaches by itself (`Gateway.Attained.operated`), and what
is true of all such states is true of the engines of a relay, above all that a
queue is within its bound.
-/

set_option autoImplicit false

namespace FaxRelay

open FaxRelay.Media FaxRelay.Net

namespace Resources

/-- Every engine is in a state to which the settings and operations have led. -/
def Operated (resources : Resources) : Prop :=
  ∀ (engine : Nat) (state : Engine), resources.engines[engine]? = some state →
    state.Reachable resources.engineSettings

namespace Operated

variable {resources before after : Resources}

theorem of_engines (operated : before.Operated) (engines : after.engines = before.engines)
    (settings : after.engineSettings = before.engineSettings) : after.Operated := by
  intro engine state found
  rw [engines] at found
  rw [settings]
  exact operated engine state found

/-- An operation on one engine. -/
theorem changeEngine (operated : resources.Operated) (engine : Nat) (operation : Operation) :
    (resources.changeEngine engine fun state => state.after operation).Operated := by
  intro other state found
  rw [Resources.changeEngine, List.getElem?_modify] at found
  obtain ⟨old, present, rfl⟩ := Option.map_eq_some_iff.mp found
  have reached := operated other old present
  split
  · exact reached.used operation
  · exact reached

theorem append (operated : before.Operated) {state : Engine}
    (settings : after.engineSettings = before.engineSettings)
    (engines : after.engines = before.engines ++ [state])
    (reached : state.Reachable before.engineSettings) : after.Operated := by
  intro engine other found
  rw [settings]
  rw [engines] at found
  rcases List.mem_append.mp (List.mem_of_getElem? found) with member | member
  · obtain ⟨place, present⟩ := List.getElem?_of_mem member
    exact operated place other present
  · cases List.mem_singleton.mp member
    exact reached

/-- **Every turn is made of operations on engines.** -/
theorem turn {first second : List Session × Resources} (operated : first.2.Operated)
    (turn : Turn first second) : second.2.Operated := by
  cases turn with
  | aside _ aside => exact operated.of_engines aside.engines_eq aside.settings_eq
  | reordered | changed | dropped | joined | stopped => exact operated
  | @equipped _ leg _ _ _ _ resources sized _ =>
    exact operated.append rfl (resources.engines_equipped leg)
      ((Engine.Reachable.made (Engine.ofSettings_eq_ok sized)).used (.attach leg))
  | refused sessions resources leg sized =>
    have engines : (resources.refused leg).engines =
      resources.engines ++ [Engine.blank resources.engineSettings] := rfl
    exact operated.append rfl engines (.made (Engine.ofSettings_eq_ok sized))
  | @heard _ engine _ _ _ sender payload =>
    exact (operated.changeEngine engine (.aim _)).changeEngine engine (.hear payload)
  | @forwarded _ _ bridge _ _ source progress resources =>
    obtain ⟨engines, settings⟩ := (resources.moving bridge source progress).engines_eq
    exact (operated.changeEngine (bridge.engine source) .produce).of_engines engines settings
  | @retired _ _ engine => exact operated.changeEngine engine .retire

theorem turns {first second : List Session × Resources} (operated : first.2.Operated)
    (turns : Turns first second) : second.2.Operated := by
  induction turns with
  | refl => exact operated
  | tail _ step ih => exact ih.turn step

end Operated

end Resources

namespace Gateway

/-- **The engines of a gateway are always in states that operations lead to,** under the settings of
the gateway. -/
theorem Attained.operated {gateway : Gateway} (attained : gateway.Attained) {engine : Nat}
    {state : Engine} (found : gateway.exchange.resources.engines[engine]? = some state) :
    state.Reachable gateway.settings.engine := by
  have operated : gateway.exchange.resources.Operated := by
    clear found
    induction attained with
    | started started =>
      obtain ⟨_, _, engines, _⟩ := start_bare started
      intro engine state found
      rw [engines] at found
      cases found
    | passed _ moment ih => exact ih.turns moment.turns
  rw [← attained.sends.2]
  exact operated engine state found

end Gateway

end FaxRelay
