/-!
# Requests to stop

A gateway is asked to stop through handles. A handle can be shared: whoever
triggers one, triggers it for all that share it, and a triggered handle stays
triggered.
-/

set_option autoImplicit false

namespace FaxRelay

/-- Some handles: the requests that were made or not, and which request each handle stands for. -/
structure StopHandles where
  requests : List Bool
  handles : List Nat
  deriving DecidableEq, Repr

namespace StopHandles

/-- No handles. -/
def empty : StopHandles := ⟨[], []⟩

/-- Adds a handle of its own. -/
def create (stops : StopHandles) : StopHandles :=
  ⟨stops.requests ++ [false], stops.handles ++ [stops.requests.length]⟩

/-- Adds a handle that shares the request of another one. -/
def share (stops : StopHandles) (handle : Nat) : StopHandles :=
  { stops with handles := stops.handles ++ (stops.handles[handle]?).toList }

/-- Makes the request of a handle. -/
def trigger (stops : StopHandles) (handle : Nat) : StopHandles :=
  match stops.handles[handle]? with
  | none => stops
  | some request => { stops with requests := stops.requests.modify request fun _ => true }

/-- For each handle, whether its request was made. -/
def triggered (stops : StopHandles) : List Bool :=
  stops.handles.map fun request => (stops.requests[request]?).getD false

end StopHandles

end FaxRelay
