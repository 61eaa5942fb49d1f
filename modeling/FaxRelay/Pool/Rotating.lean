import Std.Data.ExtTreeSet

/-!
# Pools with a rotating cursor

A pool issues the numbers below its size and takes them back. It issues the
first free number at or after its cursor, going on from zero behind the last
one, and then moves the cursor behind the number issued. A number that was just
given back is therefore not issued again before the cursor has come round.

The pool is exhausted exactly when all its numbers are taken. How many are taken
is counted along, so that nobody has to count them.
-/

set_option autoImplicit false

namespace FaxRelay.Pool

/-- The numbers below `size`, some of them taken, where the search for a free one starts, and how
many are taken. -/
structure Rotating where
  size : Nat
  taken : Std.ExtTreeSet Nat
  cursor : Nat
  inUse : Nat

namespace Rotating

/-- A pool with nothing taken. -/
def ofSize (size : Nat) : Rotating := ⟨size, ∅, 0, 0⟩

/-- How many numbers are free. -/
def available (pool : Rotating) : Nat := pool.size - pool.inUse

/-- Whether a number is taken. -/
def isTaken (pool : Rotating) (index : Nat) : Bool := pool.taken.contains index

/-- The first number that is not taken among the `count` numbers from `start` on. -/
def firstFree? (taken : Std.ExtTreeSet Nat) (start : Nat) : Nat → Option Nat
  | 0 => none
  | count + 1 =>
    if taken.contains start then firstFree? taken (start + 1) count else some start

/-- The first free number at or after the cursor, or else the first one before it. -/
def next? (pool : Rotating) : Option Nat :=
  if pool.inUse = pool.size then none
  else
    (firstFree? pool.taken pool.cursor (pool.size - pool.cursor)).or
      (firstFree? pool.taken 0 pool.cursor)

/-- Takes the next free number. -/
def allocate? (pool : Rotating) : Option (Nat × Rotating) :=
  pool.next?.map fun index =>
    (index,
      { pool with
        taken := pool.taken.insert index
        cursor := (index + 1) % pool.size
        inUse := pool.inUse + 1 })

/-- Gives a number back; nothing when it is not taken. -/
def release? (pool : Rotating) (index : Nat) : Option Rotating :=
  if pool.isTaken index then
    some { pool with taken := pool.taken.erase index, inUse := pool.inUse - 1 }
  else none

end Rotating

end FaxRelay.Pool
