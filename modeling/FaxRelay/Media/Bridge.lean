import FaxRelay.Media.Audio
import FaxRelay.Fault

/-!
# Bridges

The bridge of a call moves audio between its two legs. In each pass it asks the
inbound side for a frame and gives it to the outbound side, then the other way
round. Empty frames are not given to anybody. A frame that is refused is lost
and the bridge goes on; but when a socket fails, the bridge fails at once and
for good.

How the sides produce and take frames is a parameter, so the same bridge runs
between engines in their sockets and between scripted sides.
-/

set_option autoImplicit false

namespace FaxRelay.Media

/-- The two sides of a call, as far as a bridge uses them. -/
structure Sides (σ : Type) where
  produce : Direction → σ → Frame × σ
  take : Direction → Frame → σ → Except Fault Unit × σ

/-- How far a bridge has come: the frames that were taken, and whether it failed. The count stands
for a 64-bit counter, which no run fills. -/
structure Progress where
  forwarded : Nat
  failed : Bool
  deriving DecidableEq, Repr

namespace Progress

/-- A bridge that has not moved anything yet. -/
def fresh : Progress := ⟨0, false⟩

/-- The progress after a frame was answered. -/
def after (progress : Progress) : Except Fault Unit → Progress
  | .ok () => { progress with forwarded := progress.forwarded + 1 }
  | .error fault => { progress with failed := progress.failed || fault.isSocket }

end Progress

variable {σ : Type}

/-- Moves one frame from a side to the opposite one. -/
def forward (sides : Sides σ) (source : Direction) (progress : Progress) (state : σ) :
    Progress × σ :=
  let (frame, state) := sides.produce source state
  if frame.isEmpty then (progress, state)
  else
    let (answer, state) := sides.take source.opposite frame state
    (progress.after answer, state)

/-- One pass of a bridge, a turn of the loop of `run_bridge`; a bridge that has failed does nothing
any more. -/
def pass (sides : Sides σ) (progress : Progress) (state : σ) : Progress × σ :=
  if progress.failed then (progress, state)
  else
    let (progress, state) := forward sides .inbound progress state
    if progress.failed then (progress, state) else forward sides .outbound progress state

/-- A number of passes. -/
def passes (sides : Sides σ) : Nat → Progress → σ → Progress × σ
  | 0, progress, state => (progress, state)
  | count + 1, progress, state =>
    let (progress, state) := pass sides progress state
    passes sides count progress state

end FaxRelay.Media
