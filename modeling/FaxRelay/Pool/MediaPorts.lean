import FaxRelay.Fault
import FaxRelay.Pool.Rotating

/-!
# Media ports

The ports for media legs are a contiguous range, issued and taken back as a
rotating pool of their distances from the first one.

Valid settings see to it that the last port of the range is a word. For another
range, the program stops at the sum that overflows; here it wraps.
-/

set_option autoImplicit false

namespace FaxRelay.Pool

/-- The ports for media legs, from `base` on (`PortAllocator`). -/
structure MediaPorts where
  base : UInt16
  pool : Rotating

namespace MediaPorts

/-- A fresh supply of `count` ports. -/
def ofRange (base count : UInt16) : MediaPorts := ⟨base, Rotating.ofSize count.toNat⟩

/-- How many ports the range has. -/
def count (ports : MediaPorts) : Nat := ports.pool.size

/-- The distance of a port from the first one. -/
def index (ports : MediaPorts) (port : UInt16) : Nat := (port - ports.base).toNat

/-- Whether a port lies in the range. -/
def contains (ports : MediaPorts) (port : UInt16) : Bool :=
  ports.base ≤ port && ports.index port < ports.count

/-- Issues the next free port. -/
def allocate (ports : MediaPorts) : Except Fault (UInt16 × MediaPorts) :=
  match ports.pool.allocate? with
  | none => .error (.exhausted .mediaPort)
  | some (index, pool) => .ok (ports.base + UInt16.ofNat index, { ports with pool := pool })

/-- Takes a port back. -/
def release (ports : MediaPorts) (port : UInt16) : Except Fault MediaPorts :=
  if ports.contains port then
    match ports.pool.release? (ports.index port) with
    | none => .error (.notOwned .mediaPort port.toUInt32)
    | some pool => .ok { ports with pool := pool }
  else .error (.outOfRange .mediaPort port.toUInt32)

/-- Whether a port is issued and not taken back. -/
def isAllocated (ports : MediaPorts) (port : UInt16) : Bool :=
  ports.contains port && ports.pool.isTaken (ports.index port)

/-- How many ports are issued. -/
def inUse (ports : MediaPorts) : Nat := ports.pool.inUse

/-- How many ports are free. -/
def available (ports : MediaPorts) : Nat := ports.pool.available

end MediaPorts

end FaxRelay.Pool
