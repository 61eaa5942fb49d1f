import FaxRelay.Media.Engine
import FaxRelay.Proofs.ValidSettings

/-!
# The queue of an engine

Between the datagrams that an engine hears and the frames that it is asked for,
samples wait in its queue. An `Account` follows an engine through its uses and
keeps the history that the engine forgets: all samples that were heard, and all
that were handed out.

Each use keeps the account balanced (`Balanced.after`): every sample that was
heard was handed out, waits or was dropped, and nothing is moved, doubled or
invented. The queue is an end of what was heard, since only the oldest samples
leave it, whether they are handed out (`Engine.produce_split`) or dropped
(`Engine.hear_split`).

The bound of a queue is a product of two words. There is an engine just when that
product is a word itself, and then the bound is what the settings ask for
(`Engine.ofSettings_eq_ok_iff`).
-/

set_option autoImplicit false

namespace FaxRelay.Media

open FaxRelay.Net

/-! ## One use -/

namespace Engine

variable (engine : Engine)

/-- Of the samples that wait and those that arrive, the oldest are dropped, as many as there are too
many. -/
theorem hear_split (payload : Payload) :
    ∃ lost, engine.queue ++ decodeAudio payload = lost ++ (engine.hear payload).queue ∧
      lost.length =
        engine.queue.length + (decodeAudio payload).length - engine.maxQueued.toNat ∧
      (engine.hear payload).dropped = engine.dropped + lost.length := by
  have size : engine.excess (engine.queue ++ decodeAudio payload) =
      engine.queue.length + (decodeAudio payload).length - engine.maxQueued.toNat := by
    rw [excess, List.length_append]
  have taken : ((engine.queue ++ decodeAudio payload).take
      (engine.excess (engine.queue ++ decodeAudio payload))).length =
      engine.excess (engine.queue ++ decodeAudio payload) := by
    rw [List.length_take, List.length_append, size]
    omega
  refine ⟨_, (List.take_append_drop _ _).symm, taken.trans size, ?_⟩
  rw [taken]
  rfl

theorem length_queue_hear (payload : Payload) :
    (engine.hear payload).queue.length ≤ engine.maxQueued.toNat := by
  rw [hear, List.length_drop, excess]
  omega

/-- The samples that wait are handed out from the oldest on, at most one frame of them. -/
theorem produce_split :
    engine.queue = engine.produce.1 ++ engine.produce.2.queue ∧
      engine.produce.1.length = min engine.frameSamples.toNat engine.queue.length ∧
      engine.produce.2.dropped = engine.dropped :=
  ⟨(List.take_append_drop _ _).symm, List.length_take, rfl⟩

end Engine

/-! ## Accounts -/

/-- A use of an engine: it hears a datagram, or it is asked for a frame. -/
inductive Use where
  | hear (payload : Payload)
  | produce
  deriving DecidableEq

/-- An engine, the samples that it has heard so far, and those that it has handed out. -/
structure Account where
  engine : Engine
  heard : Frame
  handed : Frame
  deriving DecidableEq

namespace Account

/-- The account after one more use. -/
def after (account : Account) : Use → Account
  | .hear payload =>
    { account with
      engine := account.engine.hear payload
      heard := account.heard ++ decodeAudio payload }
  | .produce =>
    { account with
      engine := account.engine.produce.2
      handed := account.handed ++ account.engine.produce.1 }

/-- The account of a fresh engine after a number of uses. -/
def ofUses (settings : EngineSettings) (uses : List Use) : Account :=
  uses.foldl after ⟨.blank settings, [], []⟩

/-- How many samples the settings let an engine keep. -/
def bound (settings : EngineSettings) : Nat :=
  settings.frameSamples.toNat * settings.maxQueuedFrames.toNat

end Account

namespace Engine

variable {settings : EngineSettings}

theorem ofSettings_eq_ok (sized : settings.queueOverflows = false) :
    ofSettings settings = .ok (blank settings) := by
  rw [ofSettings, sized]
  rfl

theorem ofSettings_eq_overflow (beyond : settings.queueOverflows = true) :
    ofSettings settings = .error .overflow := by
  rw [ofSettings, beyond]
  rfl

/-- There is an engine for settings unless the bound of its queue overflows. -/
theorem ofSettings_cases (settings : EngineSettings) :
    (settings.queueOverflows = true ∧ ofSettings settings = .error .overflow) ∨
      (settings.queueOverflows = false ∧ ofSettings settings = .ok (blank settings)) := by
  cases sized : settings.queueOverflows with
  | true => exact .inl ⟨rfl, ofSettings_eq_overflow sized⟩
  | false => exact .inr ⟨rfl, ofSettings_eq_ok sized⟩

/-- An engine is made just when the samples that it may keep are a word. -/
theorem ofSettings_eq_ok_iff {engine : Engine} : ofSettings settings = .ok engine ↔
    Account.bound settings < UInt64.size ∧ engine = blank settings := by
  have word : settings.queueOverflows = false ↔ Account.bound settings < UInt64.size :=
    overflows_eq_false_iff
  rw [← word]
  constructor
  · intro made
    rcases ofSettings_cases settings with ⟨_, fails⟩ | ⟨sized, blank⟩
    · cases made.symm.trans fails
    · exact ⟨sized, Except.ok.inj (made.symm.trans blank)⟩
  · rintro ⟨sized, rfl⟩
    exact ofSettings_eq_ok sized

/-- The queue of an engine is then bounded by what the settings ask for. -/
theorem maxQueued_blank (fits : Account.bound settings < UInt64.size) :
    (blank settings).maxQueued.toNat = Account.bound settings :=
  toNat_mul_of_overflows (overflows_eq_false_iff.mpr fits)

end Engine

namespace Account

/-- What is true of an account at all times. -/
structure Balanced (settings : EngineSettings) (account : Account) : Prop where
  cut : account.engine.frameSamples = settings.frameSamples
  limit : account.engine.maxQueued.toNat = bound settings
  conserved : account.heard.length =
    account.handed.length + account.engine.queue.length + account.engine.dropped
  newest : account.engine.queue <:+ account.heard
  bounded : account.engine.queue.length ≤ bound settings
  ordered : (account.handed ++ account.engine.queue).Sublist account.heard

variable {settings : EngineSettings} {account : Account}

theorem balanced_fresh (fits : bound settings < UInt64.size) :
    Balanced settings ⟨.blank settings, [], []⟩ where
  cut := rfl
  limit := Engine.maxQueued_blank fits
  conserved := rfl
  newest := List.suffix_rfl
  bounded := Nat.zero_le _
  ordered := List.Sublist.refl _

namespace Balanced

theorem hear (balanced : Balanced settings account) (payload : Payload) :
    Balanced settings (account.after (.hear payload)) := by
  obtain ⟨lost, split, -, dropped⟩ := account.engine.hear_split payload
  constructor
  case cut => exact balanced.cut
  case limit => exact balanced.limit
  case conserved =>
    have lengths := congrArg List.length split
    rw [List.length_append, List.length_append] at lengths
    simp only [after, List.length_append, balanced.conserved, dropped]
    omega
  case newest =>
    obtain ⟨older, heard⟩ := balanced.newest
    refine ⟨older ++ lost, ?_⟩
    simp only [after]
    rw [List.append_assoc, ← split, ← List.append_assoc, heard]
  case bounded => exact balanced.limit ▸ account.engine.length_queue_hear payload
  case ordered =>
    have kept : (account.engine.hear payload).queue.Sublist
        (account.engine.queue ++ decodeAudio payload) :=
      split ▸ List.sublist_append_right lost _
    refine ((List.Sublist.refl account.handed).append kept).trans ?_
    rw [← List.append_assoc]
    exact balanced.ordered.append (List.Sublist.refl _)

theorem produce (balanced : Balanced settings account) :
    Balanced settings (account.after .produce) := by
  obtain ⟨split, -, dropped⟩ := account.engine.produce_split
  have lengths := congrArg List.length split
  rw [List.length_append] at lengths
  constructor
  case cut => exact balanced.cut
  case limit => exact balanced.limit
  case conserved =>
    simp only [after, List.length_append, balanced.conserved, dropped]
    omega
  case newest => exact (split ▸ List.suffix_append _ _).trans balanced.newest
  case bounded =>
    have fewer : account.engine.produce.2.queue.length ≤ account.engine.queue.length := by omega
    exact Nat.le_trans fewer balanced.bounded
  case ordered =>
    simp only [after]
    rw [List.append_assoc, ← split]
    exact balanced.ordered

theorem after (balanced : Balanced settings account) (use : Use) :
    Balanced settings (account.after use) := by
  cases use with
  | hear payload => exact balanced.hear payload
  | produce => exact balanced.produce

theorem foldl (balanced : Balanced settings account) (uses : List Use) :
    Balanced settings (uses.foldl Account.after account) := by
  induction uses generalizing account with
  | nil => exact balanced
  | cons use uses ih => exact ih (balanced.after use)

end Balanced

/-- **No sample goes astray in an engine.** Settings whose bound is a word make an engine, and after
any number of uses, what it heard is as much as what it handed out, what waits and what was dropped;
the samples that wait are the newest ones that were heard, no more than the bound, and come in order
after those that were handed out. The next frame is the oldest of them, as many as fill a frame; and
a datagram makes just the oldest give way, and just as many as would exceed the bound. -/
theorem balanced_ofUses (fits : bound settings < UInt64.size) (uses : List Use) :
    Engine.ofSettings settings = .ok (ofUses settings []).engine ∧
    Balanced settings (ofUses settings uses) ∧
      (∃ frame rest, (ofUses settings uses).engine.queue = frame ++ rest ∧
        frame.length =
          min settings.frameSamples.toNat (ofUses settings uses).engine.queue.length ∧
        ofUses settings (uses ++ [.produce]) =
          ⟨{ (ofUses settings uses).engine with queue := rest }, (ofUses settings uses).heard,
            (ofUses settings uses).handed ++ frame⟩) ∧
      ∀ payload, ∃ lost rest,
        (ofUses settings uses).engine.queue ++ decodeAudio payload = lost ++ rest ∧
        lost.length = (ofUses settings uses).engine.queue.length +
          (decodeAudio payload).length - bound settings ∧
        ofUses settings (uses ++ [.hear payload]) =
          ⟨{ (ofUses settings uses).engine with
              queue := rest
              dropped := (ofUses settings uses).engine.dropped + lost.length },
            (ofUses settings uses).heard ++ decodeAudio payload,
            (ofUses settings uses).handed⟩ := by
  have balanced : Balanced settings (ofUses settings uses) := (balanced_fresh fits).foldl uses
  have next : ∀ use, ofUses settings (uses ++ [use]) = (ofUses settings uses).after use :=
    fun use => by rw [ofUses, List.foldl_append]; rfl
  refine ⟨Engine.ofSettings_eq_ok_iff.mpr ⟨fits, rfl⟩, balanced, ?_, fun payload => ?_⟩
  · obtain ⟨split, size, -⟩ := (ofUses settings uses).engine.produce_split
    rw [balanced.cut] at size
    exact ⟨_, _, split, size, next .produce⟩
  · obtain ⟨lost, split, size, dropped⟩ := (ofUses settings uses).engine.hear_split payload
    rw [balanced.limit] at size
    refine ⟨lost, _, split, size, (next _).trans ?_⟩
    rw [after, ← dropped]
    rfl

/-- A burst of two samples and an odd byte, after a sample that waits where one may. -/
theorem balanced_ofUses_burst :
    bound ⟨1, 1, {}⟩ < UInt64.size ∧
      Balanced ⟨1, 1, {}⟩ (ofUses ⟨1, 1, {}⟩ [.hear [0, 1], .hear [0, 2, 0, 3, 0], .produce]) ∧
      (ofUses ⟨1, 1, {}⟩ [.hear [0, 1], .hear [0, 2, 0, 3, 0], .produce]).engine.dropped = 2 ∧
      (ofUses ⟨1, 1, {}⟩ [.hear [0, 1], .hear [0, 2, 0, 3, 0], .produce]).handed = [3] :=
  ⟨by decide, (balanced_ofUses (by decide) _).2.1, by decide, by decide⟩

end Account

end FaxRelay.Media
