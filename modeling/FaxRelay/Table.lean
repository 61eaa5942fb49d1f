import FaxRelay.Session

/-!
# The session table

The sessions of a relay in slots: the control session in slot zero, the media
legs behind it in pairs. Each slot also has a descriptor, which says under which
number the network reports the slot's socket, whether something was reported,
and whether the slot is closed.

Destroying a call closes the slots of both legs where they stand. Closed slots
go when the table is compacted: the slots that are still open move up, and each
learns its new place before anything is done with it.
-/

set_option autoImplicit false

namespace FaxRelay

open FaxRelay.Signal

/-- The state of one slot towards the network (`PollDescriptor`). -/
structure Descriptor where
  token : Option SessionId
  closed : Bool
  readable : Bool
  deriving DecidableEq, Repr

/-- The descriptor of a slot that was just filled. -/
def Descriptor.opened (token : Option SessionId) : Descriptor := ⟨token, false, false⟩

/-- The descriptor of a slot whose session was destroyed. -/
def Descriptor.shut : Descriptor := ⟨none, true, false⟩

/-- A session in the table. -/
structure Slot where
  session : Session
  descriptor : Descriptor
  deriving DecidableEq

/-- A slot is live until it is closed. -/
def Slot.isLive (slot : Slot) : Bool := !slot.descriptor.closed

/-- The slots of a relay and how many there may be (`SessionTable`). -/
structure Table where
  slots : List Slot
  capacity : Nat
  deriving DecidableEq

namespace Table

/-- A table without sessions. -/
def empty (capacity : Nat) : Table := ⟨[], capacity⟩

/-- How many slots are filled, closed ones included. -/
def size (table : Table) : Nat := table.slots.length

/-- How many slots can still be filled. -/
def remaining (table : Table) : Nat := table.capacity - table.size

/-! ## Looking up -/

/-- The session in a slot. -/
def session? (table : Table) (index : Nat) : Option Session :=
  (table.slots[index]?).map Slot.session

/-- The control session. -/
def control? (table : Table) : Option Session :=
  (table.session? 0).filter Session.isControl

/-- The live sessions in the order of their slots. -/
def liveSessions (table : Table) : List Session :=
  (table.slots.filter Slot.isLive).map Slot.session

/-- How many live sessions are media legs. -/
def mediaCount (table : Table) : Nat :=
  (table.liveSessions.filter fun session => !session.isControl).length

/-- The first index that satisfies a condition on its slot. -/
def findSlot? (table : Table) (condition : Nat → Slot → Bool) : Option Nat :=
  (table.slots.zipIdx.find? fun entry => condition entry.2 entry.1).map Prod.snd

/-- The slot of the live session with a number. -/
def indexOf? (table : Table) (id : SessionId) : Option Nat :=
  table.findSlot? fun _ slot => slot.isLive && slot.session.id = id

/-- The slot of the first live media leg of a call (`find_by_call_id`). -/
def findCall? (table : Table) (callId : CallId) : Option Nat :=
  table.findSlot? fun index slot =>
    0 < index && slot.isLive && slot.session.callId = some callId

/-- The slots of the live sessions whose bridge has failed. -/
def failedBridges (table : Table) : List Nat :=
  (table.slots.zipIdx.filter fun entry => entry.1.isLive && entry.1.session.bridgeFailed).map
    Prod.snd

/-- Whether every session knows its place and every live descriptor fits its session. -/
def isConsistent (table : Table) : Bool :=
  table.slots.zipIdx.all fun entry =>
    entry.1.session.index = entry.2 &&
      (entry.1.descriptor.closed || entry.1.descriptor.token = entry.1.session.token?)

/-! ## Changing slots -/

/-- Changes a slot. -/
def changeSlot (table : Table) (index : Nat) (change : Slot → Slot) : Table :=
  { table with slots := table.slots.modify index change }

/-- Changes the session in a slot. -/
def changeSession (table : Table) (index : Nat) (change : Session → Session) : Table :=
  table.changeSlot index fun slot => { slot with session := change slot.session }

/-- Puts a session into a slot that is filled already. -/
def setSession (table : Table) (index : Nat) (session : Session) : Table :=
  table.changeSession index fun _ => session

/-! ## Filling -/

/-- The objection to a session as the next one of the table. -/
def objection? (table : Table) (session : Session) : Option Fault :=
  if table.capacity ≤ table.size then some (.capacity table.size table.capacity)
  else if (table.size == 0) != session.isControl then
    some (.misuse (.misplaced session.role table.size))
  else none

/-- Accepts a session as the next one of the table, or says why not (`admit`). -/
def accept (table : Table) (session : Session) : Except Fault Unit :=
  match table.objection? session with
  | some fault => .error fault
  | none => .ok ()

/-- Appends a session that was accepted (`insert`). -/
def append (table : Table) (session : Session) : Table :=
  { table with
    slots := table.slots ++
      [⟨{ session with index := table.size }, Descriptor.opened session.token?⟩] }

/-- Appends a session if the table accepts it. -/
def push (table : Table) (session : Session) : Except Fault Table :=
  match table.objection? session with
  | some fault => .error fault
  | none => .ok (table.append session)

/-! ## Readiness -/

/-- The slot whose descriptor has a token. -/
def tokenSlot? (table : Table) (token : SessionId) : Option Nat :=
  table.findSlot? fun _ slot => slot.descriptor.token = some token

/-- Marks the slot with a token as readable; false when there is none. -/
def markReadable (table : Table) (token : SessionId) : Bool × Table :=
  match table.tokenSlot? token with
  | none => (false, table)
  | some index =>
    (true,
      table.changeSlot index fun slot =>
        { slot with descriptor := { slot.descriptor with readable := true } })

/-- The table with the mark of a slot cleared. -/
def clearReadable (table : Table) (index : Nat) : Table :=
  table.changeSlot index fun slot =>
    { slot with descriptor := { slot.descriptor with readable := false } }

/-- Whether a slot is marked as readable. -/
def isReadable (table : Table) (index : Nat) : Bool :=
  ((table.slots[index]?).map fun slot => slot.descriptor.readable).getD false

/-- Clears the mark of a slot and tells what it was. -/
def takeReadable (table : Table) (index : Nat) : Bool × Table :=
  (table.isReadable index, table.clearReadable index)

/-! ## Destroying calls -/

/-- Destroys the session in a slot and closes the slot. -/
def closeSlot (index : Nat) (table : Table) (resources : Resources) : Table × Resources :=
  match table.session? index with
  | none => (table, resources)
  | some session =>
    let (session, resources) := session.destroy resources
    (table.changeSlot index fun _ => ⟨session, Descriptor.shut⟩, resources)

/-- The slots of the legs of a call: the given one, and that of its peer if there is one. -/
def callSlots (table : Table) (index : Nat) (session : Session) : List Nat :=
  index :: (session.peer.bind table.indexOf?).toList

/-- Destroys the call of the media leg in a slot. Its bridge is stopped before either leg is
touched. -/
def destroyCall (index : Nat) (table : Table) (resources : Resources) :
    Except Fault (Table × Resources) :=
  match table.session? index with
  | none => .error (.misuse (.noSlot index))
  | some session =>
    if session.isControl then .error (.misuse .controlReleased)
    else
      let slots := table.callSlots index session
      let stopped := slots.foldl
        (fun table slot => table.changeSession slot Session.stopBridge) table
      .ok (slots.foldl (fun state slot => closeSlot slot state.1 state.2) (stopped, resources))

/-- Destroys the call in a slot if the slot is live, and counts it. -/
def destroyLive (state : Nat × Table × Resources) (index : Nat) : Nat × Table × Resources :=
  let (calls, table, resources) := state
  match table.slots[index]? with
  | none => state
  | some slot =>
    if slot.isLive then
      match destroyCall index table resources with
      | .ok (table, resources) => (calls + 1, table, resources)
      | .error _ => state
    else state

/-- Destroys every call and then everything else; the number of calls destroyed. -/
def destroyAll (table : Table) (resources : Resources) : Nat × Table × Resources :=
  let (calls, destroyed, resources) :=
    (List.range' 1 (table.size - 1)).foldl destroyLive (0, table, resources)
  let resources :=
    destroyed.slots.foldl (fun resources slot => (slot.session.destroy resources).2) resources
  (calls, { destroyed with slots := [] }, resources)

/-! ## Compacting -/

/-- Exchanges two slots; the one that comes to `target` learns its place. -/
def moveUp (table : Table) (target source : Nat) : Table :=
  if target = source then table
  else
    match table.slots[target]?, table.slots[source]? with
    | some gone, some kept =>
      { table with
        slots := (table.slots.set target
          { kept with session := { kept.session with index := target } }).set source gone }
    | _, _ => table

variable {σ : Type}

/-- Scans the slots from `source` on, at most `count` of them. An open slot moves up to `target`;
if it is marked as readable, the mark is cleared and the slot is dispatched. Returns the target
behind the last open slot. -/
def compactFrom (dispatch : Nat → Table × σ → Table × σ) :
    Nat → Nat → Nat → Table × σ → Nat × Table × σ
  | 0, _, target, state => (target, state)
  | count + 1, source, target, (table, state) =>
    match table.slots[source]? with
    | none => (target, table, state)
    | some slot =>
      if slot.isLive then
        let table := table.moveUp target source
        let next :=
          if slot.descriptor.readable then dispatch target (table.clearReadable target, state)
          else (table, state)
        compactFrom dispatch count (source + 1) (target + 1) next
      else compactFrom dispatch count (source + 1) target (table, state)

/-- Drops the closed slots behind the control session and dispatches the readable ones, in the
order of the slots. What is dispatched may close slots, but neither adds nor removes any. The
number of slots dropped. -/
def compact (dispatch : Nat → Table × σ → Table × σ) (table : Table) (state : σ) :
    Nat × Table × σ :=
  let (target, scanned, state) := compactFrom dispatch (table.size - 1) 1 1 (table, state)
  (scanned.size - target, { scanned with slots := scanned.slots.take target }, state)

end Table

end FaxRelay
