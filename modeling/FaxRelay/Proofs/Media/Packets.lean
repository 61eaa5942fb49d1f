import FaxRelay.Proofs.Media.Queue

/-!
# Packets

How a stream of audio is divided into datagrams does not matter to the engine
that hears it, as long as no border divides a sample: hearing datagrams one
after the other is hearing them as one (`Engine.foldl_hear`). Each datagram
trims the queue on its own, but what an earlier one leaves in place, a later one
drops with the same count, and the samples that are dropped are the oldest
either way (`Engine.hear_hear`).

This needs a queue within its bound, since hearing nothing must not drop
anything. The queue is within its bound in every state that an engine can reach
(`Engine.Reachable.sized`), whatever is done with it and under whatever settings
it was made.
-/

set_option autoImplicit false

namespace FaxRelay.Media

open FaxRelay.Net

/-! ## Datagrams in a row -/

/-- Bytes behind an even number of bytes are decoded by themselves. -/
theorem decodeAudio_append (front back : Payload) (even : front.length % 2 = 0) :
    decodeAudio (front ++ back) = decodeAudio front ++ decodeAudio back := by
  induction front using decodeAudio.induct with
  | case1 high low rest ih =>
    have shorter : rest.length % 2 = 0 := by
      simp only [List.length_cons] at even
      omega
    rw [List.cons_append, List.cons_append, decodeAudio, decodeAudio, ih shorter, List.cons_append]
  | case2 front short =>
    rcases front with _ | ⟨high, _ | ⟨low, rest⟩⟩
    · rfl
    · cases even
    · exact absurd rfl (short high low rest)

/-- No sample is divided between a datagram and the next one. -/
def Unbroken (payloads : List Payload) : Prop :=
  ∀ payload ∈ payloads.dropLast, payload.length % 2 = 0

instance (payloads : List Payload) : Decidable (Unbroken payloads) :=
  inferInstanceAs (Decidable (∀ payload ∈ payloads.dropLast, payload.length % 2 = 0))

/-! ## What an engine goes through -/

/-- Whatever can be done with an engine. -/
inductive Operation where
  | attach (leg : Leg)
  | aim (remote : Option Endpoint)
  | hear (payload : Payload)
  | send (frame : Frame)
  | produce
  | retire
  deriving DecidableEq

namespace Engine

/-- The engine after one more operation. The datagram of a frame is read off an engine, which stays
as it is. -/
def after (engine : Engine) : Operation → Engine
  | .attach leg => engine.attach leg
  | .aim remote => engine.aim remote
  | .hear payload => engine.hear payload
  | .send _ => engine
  | .produce => engine.produce.2
  | .retire => engine.retire

/-- The states of an engine that was made with certain settings. -/
inductive Reachable (settings : EngineSettings) : Engine → Prop where
  | made {engine : Engine} (made : ofSettings settings = .ok engine) : Reachable settings engine
  | used {engine : Engine} (reached : Reachable settings engine) (operation : Operation) :
      Reachable settings (engine.after operation)

/-- An engine has the sizes that its settings give, and its queue is within its bound. -/
structure Sized (settings : EngineSettings) (engine : Engine) : Prop where
  frame_eq : engine.frameSamples = settings.frameSamples
  bound_eq : engine.maxQueued.toNat = Account.bound settings
  bounded : engine.queue.length ≤ engine.maxQueued.toNat

variable {settings : EngineSettings} {engine : Engine}

/-- Every operation keeps the sizes of an engine and the bound of its queue. -/
theorem Sized.after (sized : engine.Sized settings) (operation : Operation) :
    (engine.after operation).Sized settings := by
  obtain ⟨frame_eq, bound_eq, bounded⟩ := sized
  cases operation with
  | attach leg => exact ⟨frame_eq, bound_eq, bounded⟩
  | aim remote => exact ⟨frame_eq, bound_eq, bounded⟩
  | hear payload => exact ⟨frame_eq, bound_eq, engine.length_queue_hear payload⟩
  | send frame => exact ⟨frame_eq, bound_eq, bounded⟩
  | produce =>
    exact ⟨frame_eq, bound_eq, Nat.le_trans (List.drop_sublist _ engine.queue).length_le bounded⟩
  | retire => exact ⟨frame_eq, bound_eq, Nat.zero_le _⟩

theorem Reachable.sized (reached : engine.Reachable settings) : engine.Sized settings := by
  induction reached with
  | made made =>
    obtain ⟨fits, rfl⟩ := ofSettings_eq_ok_iff.mp made
    exact ⟨rfl, maxQueued_blank fits, Nat.zero_le _⟩
  | used _ operation ih => exact ih.after operation

/-! ## Hearing -/

/-- What fits into the queue is appended to it. -/
theorem hear_of_fits {payload : Payload}
    (fits : engine.queue.length + (decodeAudio payload).length ≤ engine.maxQueued.toNat) :
    engine.hear payload = { engine with queue := engine.queue ++ decodeAudio payload } := by
  have nothing : engine.excess (engine.queue ++ decodeAudio payload) = 0 := by
    rw [excess, List.length_append, Nat.sub_eq_zero_of_le fits]
  rw [hear, nothing, List.drop_zero, Nat.add_zero]

/-- So are the samples of several datagrams that fit into the queue together. -/
theorem foldl_hear_of_fits {payloads : List Payload}
    (fits : engine.queue.length + (payloads.flatMap decodeAudio).length ≤ engine.maxQueued.toNat) :
    payloads.foldl hear engine =
      { engine with queue := engine.queue ++ payloads.flatMap decodeAudio } := by
  induction payloads generalizing engine with
  | nil => rw [List.foldl_nil, List.flatMap_nil, List.append_nil]
  | cons payload rest ih =>
    rw [List.flatMap_cons, List.length_append] at fits
    have first : engine.queue.length + (decodeAudio payload).length ≤ engine.maxQueued.toNat := by
      omega
    have others : (engine.queue ++ decodeAudio payload).length +
        (rest.flatMap decodeAudio).length ≤ engine.maxQueued.toNat := by
      rw [List.length_append]
      omega
    rw [List.foldl_cons, hear_of_fits first, ih others, List.flatMap_cons, List.append_assoc]

theorem hear_nil (bounded : engine.queue.length ≤ engine.maxQueued.toNat) :
    engine.hear [] = engine := by
  have fits : engine.queue.length + (decodeAudio []).length ≤ engine.maxQueued.toNat := bounded
  rw [hear_of_fits fits, decodeAudio.eq_def, List.append_nil]

/-- Hearing two datagrams is hearing them as one. -/
theorem hear_hear (engine : Engine) (front back : Payload) (even : front.length % 2 = 0) :
    (engine.hear front).hear back = engine.hear (front ++ back) := by
  have few : engine.excess (engine.queue ++ decodeAudio front) ≤
      (engine.queue ++ decodeAudio front).length := Nat.sub_le _ _
  have queued : (engine.hear front).queue ++ decodeAudio back =
      (engine.queue ++ decodeAudio front ++ decodeAudio back).drop
        (engine.excess (engine.queue ++ decodeAudio front)) :=
    (List.drop_append_of_le_length few).symm
  -- Once the first datagram fills the queue, the second one drops as many samples as it brings.
  have counted : engine.excess (engine.queue ++ decodeAudio front) +
      engine.excess ((engine.hear front).queue ++ decodeAudio back) =
      engine.excess (engine.queue ++ decodeAudio front ++ decodeAudio back) := by
    simp only [hear, excess, List.length_append, List.length_drop]
    omega
  have joined : engine.queue ++ decodeAudio (front ++ back) =
      engine.queue ++ decodeAudio front ++ decodeAudio back := by
    rw [decodeAudio_append front back even, List.append_assoc]
  calc (engine.hear front).hear back
      = { engine with
          queue := ((engine.hear front).queue ++ decodeAudio back).drop
            (engine.excess ((engine.hear front).queue ++ decodeAudio back))
          dropped := engine.dropped + engine.excess (engine.queue ++ decodeAudio front) +
            engine.excess ((engine.hear front).queue ++ decodeAudio back) } := rfl
    _ = { engine with
          queue := (engine.queue ++ decodeAudio front ++ decodeAudio back).drop
            (engine.excess (engine.queue ++ decodeAudio front ++ decodeAudio back))
          dropped := engine.dropped +
            engine.excess (engine.queue ++ decodeAudio front ++ decodeAudio back) } := by
        rw [← counted, Nat.add_assoc, ← List.drop_drop, ← queued]
    _ = engine.hear (front ++ back) := by rw [hear, joined]

/-- **Hearing datagrams is hearing their bytes as one datagram,** when no sample is divided. -/
theorem foldl_hear (bounded : engine.queue.length ≤ engine.maxQueued.toNat)
    {payloads : List Payload} (unbroken : Unbroken payloads) :
    payloads.foldl hear engine = engine.hear payloads.flatten := by
  induction payloads generalizing engine with
  | nil => exact (hear_nil bounded).symm
  | cons payload rest ih =>
    rw [List.foldl_cons, List.flatten_cons]
    cases rest with
    | nil => rw [List.foldl_nil, List.flatten_nil, List.append_nil]
    | cons next rest =>
      have even : payload.length % 2 = 0 := unbroken payload (.head _)
      have later : Unbroken (next :: rest) := fun other member => unbroken other (.tail _ member)
      rw [ih (engine.length_queue_hear payload) later, hear_hear engine payload _ even]

/-- **How audio is divided into datagrams does not matter:** whatever state an engine has reached,
two sequences of datagrams with the same bytes leave it in the same state, and so with the same
queue and the same count of dropped samples, as long as they divide no sample. -/
theorem Reachable.repacketized (reached : engine.Reachable settings) {first second : List Payload}
    (unbrokenFirst : Unbroken first) (unbrokenSecond : Unbroken second)
    (same : first.flatten = second.flatten) :
    first.foldl hear engine = second.foldl hear engine := by
  have bounded := reached.sized.bounded
  rw [foldl_hear bounded unbrokenFirst, foldl_hear bounded unbrokenSecond, same]

/-- An engine with one sample in a queue for two hears three more and half of a fourth, in two
datagrams or in four. -/
theorem repacketized_overflowing :
    Unbroken [[0, 2, 0, 3], [0, 4, 0]] ∧ Unbroken [[0, 2], [], [0, 3, 0, 4], [0]] ∧
      ofSettings ⟨1, 2, {}⟩ = .ok (blank ⟨1, 2, {}⟩) ∧
      (((blank ⟨1, 2, {}⟩).hear [0, 1]).hear [0, 2, 0, 3]).hear [0, 4, 0] =
        [[0, 2], [], [0, 3, 0, 4], [0]].foldl hear ((blank ⟨1, 2, {}⟩).hear [0, 1]) ∧
      ((((blank ⟨1, 2, {}⟩).hear [0, 1]).hear [0, 2, 0, 3]).hear [0, 4, 0]).queue = [3, 4] ∧
      ((((blank ⟨1, 2, {}⟩).hear [0, 1]).hear [0, 2, 0, 3]).hear [0, 4, 0]).dropped = 2 := by
  have made : ofSettings ⟨1, 2, {}⟩ = .ok (blank ⟨1, 2, {}⟩) := rfl
  have reached : ((blank ⟨1, 2, {}⟩).hear [0, 1]).Reachable ⟨1, 2, {}⟩ :=
    (Reachable.made made).used (.hear [0, 1])
  have unbroken : Unbroken [[0, 2, 0, 3], [0, 4, 0]] := by decide
  have unbroken' : Unbroken [[0, 2], [], [0, 3, 0, 4], [0]] := by decide
  exact ⟨unbroken, unbroken', made, Reachable.repacketized reached unbroken unbroken' rfl,
    by decide, by decide⟩

end Engine

end FaxRelay.Media
