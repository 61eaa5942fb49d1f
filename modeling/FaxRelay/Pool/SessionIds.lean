import FaxRelay.Fault
import FaxRelay.Pool.Rotating

/-!
# Session numbers

Sessions are numbered from two ranges of equal size: inbound sessions from zero
on, outbound sessions behind them. Each range is a rotating pool of its own.

Valid settings see to it that twice the size of a range is a word, and then every
sum and product below is one. For a greater size, the program stops where one of
them overflows; here it wraps.
-/

set_option autoImplicit false

namespace FaxRelay.Pool

/-- The numbers for sessions of both directions (`IdAllocator`). -/
structure SessionIds where
  size : UInt32
  inbound : Rotating
  outbound : Rotating

namespace SessionIds

/-- A fresh supply with `size` numbers for each direction. -/
def ofSize (size : UInt32) : SessionIds :=
  ⟨size, Rotating.ofSize size.toNat, Rotating.ofSize size.toNat⟩

/-- The pool of a direction. -/
def pool (ids : SessionIds) : Direction → Rotating
  | .inbound => ids.inbound
  | .outbound => ids.outbound

/-- The supply with another pool for a direction. -/
def setPool (ids : SessionIds) (direction : Direction) (pool : Rotating) : SessionIds :=
  match direction with
  | .inbound => { ids with inbound := pool }
  | .outbound => { ids with outbound := pool }

/-- The first number of a direction. -/
def base (ids : SessionIds) : Direction → UInt32
  | .inbound => 0
  | .outbound => ids.size

/-- The direction whose range holds a number. -/
def direction? (ids : SessionIds) (id : SessionId) : Option Direction :=
  if id.value < ids.size then some .inbound
  else if id.value < ids.size * 2 then some .outbound
  else none

/-- The place of a number in the pool of its direction. -/
def index (ids : SessionIds) (direction : Direction) (id : SessionId) : Nat :=
  (id.value - ids.base direction).toNat

/-- Issues the next free number of a direction. -/
def allocate (ids : SessionIds) (direction : Direction) : Except Fault (SessionId × SessionIds) :=
  match (ids.pool direction).allocate? with
  | none => .error (.exhausted .sessionId)
  | some (index, pool) =>
    .ok (⟨ids.base direction + UInt32.ofNat index⟩, ids.setPool direction pool)

/-- Takes a number back. -/
def release (ids : SessionIds) (id : SessionId) : Except Fault SessionIds :=
  match ids.direction? id with
  | none => .error (.outOfRange .sessionId id.value)
  | some direction =>
    match (ids.pool direction).release? (ids.index direction id) with
    | none => .error (.notOwned .sessionId id.value)
    | some pool => .ok (ids.setPool direction pool)

/-- Whether a number is issued and not taken back. -/
def isAllocated (ids : SessionIds) (id : SessionId) : Bool :=
  match ids.direction? id with
  | none => false
  | some direction => (ids.pool direction).isTaken (ids.index direction id)

/-- How many numbers of a direction are free. -/
def available (ids : SessionIds) (direction : Direction) : Nat := (ids.pool direction).available

/-- How many numbers are issued. -/
def inUse (ids : SessionIds) : Nat := ids.inbound.inUse + ids.outbound.inUse

end SessionIds

end FaxRelay.Pool
