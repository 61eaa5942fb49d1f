import FaxRelay.Settings.Basic

/-!
# Valid settings

What the check of settings accepts is a row of bounds, one for each test that it
makes, and the settings for engines are valid by bounds of their own. The check
doubles the samples of a frame, and so its outcome is an overflow when these are
half as many as there are words (`EngineSettings.validate_eq_overflow_iff`).
-/

set_option autoImplicit false

namespace FaxRelay

open FaxRelay.Signal

theorem overflows_eq_false_iff {left right : UInt64} :
    overflows left right = false ↔ left.toNat * right.toNat < UInt64.size := by
  rw [overflows, decide_eq_false_iff_not, Nat.not_le]

/-- A row of tests finds no fault when neither the first one nor the others do. -/
theorem test_eq_none_iff {failed : Prop} [Decidable failed] {fault : Fault}
    {others : Option Fault} :
    (if failed then some fault else others) = none ↔ ¬ failed ∧ others = none := by
  split
  · next bad => exact ⟨nofun, fun ⟨good, _⟩ => absurd bad good⟩
  · next good => exact (and_iff_right good).symm

theorem reported_eq_ok_iff {fault? : Option Fault} :
    reported fault? = .ok () ↔ fault? = none := by
  cases fault? with
  | none => exact ⟨fun _ => rfl, fun _ => rfl⟩
  | some fault => exact ⟨nofun, nofun⟩

/-- A product that fits a word is the product of the words. -/
theorem toNat_mul_of_overflows {left right : UInt64} (fits : overflows left right = false) :
    (left * right).toNat = left.toNat * right.toNat :=
  (UInt64.toNat_mul _ _).trans (Nat.mod_eq_of_lt (overflows_eq_false_iff.mp fits))

/-- Valid settings for engines: no size is zero, and the bytes of a frame fit a datagram. -/
theorem EngineSettings.validate_eq_ok_iff {settings : EngineSettings} :
    settings.validate = .ok () ↔
      settings.frameSamples ≠ 0 ∧ settings.frameSamples.toNat * 2 ≤ 65507 ∧
        settings.maxQueuedFrames ≠ 0 := by
  have small : overflows settings.frameSamples 2 = false ∧
      ¬ 65507 < settings.frameSamples * 2 ↔ settings.frameSamples.toNat * 2 ≤ 65507 := by
    have two : (2 : UInt64).toNat = 2 := rfl
    have size : UInt64.size = 18446744073709551616 := rfl
    have limit : (65507 : UInt64).toNat = 65507 := rfl
    constructor
    · rintro ⟨fits, short⟩
      rw [UInt64.lt_iff_toNat_lt, toNat_mul_of_overflows fits, two, limit] at short
      exact Nat.not_lt.mp short
    · intro short
      have fits : overflows settings.frameSamples 2 = false :=
        overflows_eq_false_iff.mpr (by rw [two, size]; omega)
      rw [UInt64.lt_iff_toNat_lt, toNat_mul_of_overflows fits, two, limit]
      exact ⟨fits, Nat.not_lt.mpr short⟩
  simp only [validate, reported_eq_ok_iff, fault?, test_eq_none_iff, Bool.not_eq_true, and_true,
    ← small, and_assoc, ne_eq]

/-- The check of settings for engines overflows exactly when twice the samples of a frame are no
word. -/
theorem EngineSettings.validate_eq_overflow_iff {settings : EngineSettings} :
    settings.validate = .error .overflow ↔ UInt64.size ≤ settings.frameSamples.toNat * 2 := by
  have flag : overflows settings.frameSamples 2 = true ↔
      UInt64.size ≤ settings.frameSamples.toNat * 2 := decide_eq_true_iff
  have some : settings.frameSamples = 0 → ¬ UInt64.size ≤ settings.frameSamples.toNat * 2 := by
    intro zero
    rw [zero]
    decide
  rw [validate, fault?, ← flag]
  split
  · next zero => exact ⟨nofun, fun beyond => absurd (flag.mp beyond) (some zero)⟩
  split
  · next beyond => exact iff_of_true rfl beyond
  · next fits =>
    refine iff_of_false ?_ fits
    split
    · exact nofun
    · split <;> exact nofun

/-- Valid settings of a relay: there is room for the control session and two legs, there are numbers
and ports, whose ranges fit their words, a message fits the buffer, and the settings for engines are
valid. -/
theorem Settings.validate_eq_ok_iff {settings : Settings} : settings.validate = .ok () ↔
    3 ≤ settings.maxSessions ∧ settings.idPoolSize ≠ 0 ∧
      settings.idPoolSize.toNat * 2 < UInt32.size ∧ settings.portCount ≠ 0 ∧
      settings.portBase.toNat + settings.portCount.toNat ≤ UInt16.size ∧
      settings.portBase ≠ 0 ∧ maxMessageLength ≤ settings.bufferSize.toNat ∧
      settings.engine.validate = .ok () := by
  have ports : ¬ 65535 < settings.portBase.toNat + settings.portCount.toNat - 1 ↔
      settings.portBase.toNat + settings.portCount.toNat ≤ UInt16.size := by
    have size : UInt16.size = 65536 := rfl
    omega
  simp only [validate, EngineSettings.validate, reported_eq_ok_iff, fault?, test_eq_none_iff, ports,
    Nat.not_le, Nat.not_lt, UInt64.not_lt]

end FaxRelay
