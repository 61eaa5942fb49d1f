import FaxRelay.Proofs.Media.Packets

/-!
# How much audio an engine has room for

Settings give the samples of a frame and the frames that an engine keeps. Two
products of these are formed in words: twice the samples of a frame, its bytes,
when the settings are checked, and the bound of the queue when an engine is
made. Where such a product is no word, the relay goes down.

The check bounds the first product, so of settings that are accepted the bytes
of a frame are a word and fit a datagram. It does not bound the second one:
settings are accepted under which no engine can be made
(`EngineSettings.accepted_beyond_word`). Under all others, the bound of the
queue is what the settings ask for, and an engine whose queue is empty has room
for a frame (`EngineSettings.room_of_validate`).
-/

set_option autoImplicit false

namespace FaxRelay

open FaxRelay.Media FaxRelay.Net

namespace EngineSettings

variable {settings : EngineSettings}

/-- Making an engine overflows exactly when the samples that it may keep are no word. -/
theorem ofSettings_eq_overflow_iff :
    Engine.ofSettings settings = .error .overflow ↔ UInt64.size ≤ Account.bound settings := by
  have flag : settings.queueOverflows = true ↔ UInt64.size ≤ Account.bound settings :=
    decide_eq_true_iff
  rw [← flag]
  refine ⟨fun fails => ?_, Engine.ofSettings_eq_overflow⟩
  rcases Engine.ofSettings_cases settings with ⟨beyond, _⟩ | ⟨_, made⟩
  · exact beyond
  · cases made.symm.trans fails

/-- An empty queue takes all that the bound allows. -/
theorem hear_of_empty {engine : Engine} (reached : engine.Reachable settings)
    (empty : engine.queue = []) {payloads : List Payload}
    (fits : (payloads.flatMap decodeAudio).length ≤ Account.bound settings) :
    payloads.foldl Engine.hear engine =
      { engine with queue := payloads.flatMap decodeAudio } := by
  have room : engine.queue.length + (payloads.flatMap decodeAudio).length ≤
      engine.maxQueued.toNat := by
    rw [empty, List.length_nil, Nat.zero_add, reached.sized.bound_eq]
    exact fits
  rw [Engine.foldl_hear_of_fits room, empty, List.nil_append]

/-- Settings that are accepted ask for a queue of at least one frame. -/
theorem frameSamples_le_bound (accepted : settings.validate = .ok ()) :
    settings.frameSamples.toNat ≤ Account.bound settings := by
  obtain ⟨_, _, someFrames⟩ := validate_eq_ok_iff.mp accepted
  have several : 0 < settings.maxQueuedFrames.toNat :=
    Nat.pos_of_ne_zero fun none => someFrames (UInt64.toNat_inj.mp none)
  exact Nat.le_mul_of_pos_right _ several

/-- **An engine that can be made has room for a frame.** Of settings that are accepted, the bytes of
a frame fit a datagram, and so a word. An engine can be made under them exactly when the samples
that it may keep are a word, too; otherwise making one overflows. In every state of an engine that
was made, the bound of its queue is just that product; and if the queue is empty, it keeps all of a
frame, in however many datagrams that comes, and drops nothing. -/
theorem room_of_validate (accepted : settings.validate = .ok ()) :
    settings.frameSamples.toNat * 2 ≤ 65507 ∧
      ((∃ engine, Engine.ofSettings settings = .ok engine) ↔
        Account.bound settings < UInt64.size) ∧
      (Engine.ofSettings settings = .error .overflow ↔
        UInt64.size ≤ Account.bound settings) ∧
      ∀ engine : Engine, engine.Reachable settings →
        engine.maxQueued.toNat = Account.bound settings ∧
          (engine.queue = [] → ∀ payloads : List Payload,
            (payloads.flatMap decodeAudio).length ≤ settings.frameSamples.toNat →
              (payloads.foldl Engine.hear engine).queue = payloads.flatMap decodeAudio ∧
                (payloads.foldl Engine.hear engine).dropped = engine.dropped) := by
  obtain ⟨_, short, _⟩ := validate_eq_ok_iff.mp accepted
  refine ⟨short, ?_, ofSettings_eq_overflow_iff, fun engine reached => ⟨reached.sized.bound_eq, ?_⟩⟩
  · constructor
    · rintro ⟨engine, made⟩
      exact (Engine.ofSettings_eq_ok_iff.mp made).1
    · intro word
      exact ⟨_, Engine.ofSettings_eq_ok_iff.mpr ⟨word, rfl⟩⟩
  · intro empty payloads frame
    have room := Nat.le_trans frame (frameSamples_le_bound accepted)
    rw [hear_of_empty reached empty room]
    exact ⟨rfl, rfl⟩

/-- The longest frame that fits a datagram, and the longest queue of such frames. -/
theorem room_of_validate_greatest :
    validate ⟨32753, 563207769477896, {}⟩ = .ok () ∧
      ∃ engine, Engine.ofSettings ⟨32753, 563207769477896, {}⟩ = .ok engine ∧
        engine.maxQueued.toNat = 32753 * 563207769477896 ∧
        (engine.hear [0, 1]).queue = [1] ∧ (engine.hear [0, 1]).dropped = 0 := by
  have accepted : validate ⟨32753, 563207769477896, {}⟩ = .ok () := rfl
  obtain ⟨_, makeable, _, room⟩ := room_of_validate accepted
  obtain ⟨engine, made⟩ := makeable.mpr (by decide)
  obtain ⟨_, rfl⟩ := Engine.ofSettings_eq_ok_iff.mp made
  obtain ⟨bound, keeps⟩ := room _ (.made made)
  obtain ⟨queue, dropped⟩ := keeps rfl [[0, 1]] (by decide)
  exact ⟨accepted, _, made, bound, queue, dropped⟩

/-- **Settings are accepted although no engine can be made.** With two samples in a frame and half
as many frames as there are words, the samples that an engine may keep are one more than a word
holds. -/
theorem accepted_beyond_word :
    validate ⟨2, 9223372036854775808, {}⟩ = .ok () ∧
      Account.bound ⟨2, 9223372036854775808, {}⟩ = UInt64.size ∧
      Engine.ofSettings ⟨2, 9223372036854775808, {}⟩ = .error .overflow :=
  ⟨rfl, by decide, rfl⟩

end EngineSettings

end FaxRelay
