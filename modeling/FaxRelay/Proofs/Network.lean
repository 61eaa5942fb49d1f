import FaxRelay.Net.Fabric

/-!
# What others do to the network

Between any two things that the relay does, the network may change: others open
and close sockets of their own, send datagrams and cause faults, and the network
changes its mind about what it refuses. None of this opens or closes a socket of
the relay.

What is found at an endpoint after a socket was opened, closed or changed, who
holds it and what waits in it, is said here once for every such operation.
-/

set_option autoImplicit false

namespace FaxRelay.Net

/-- Two endpoints conflict when they have the same port, on the same address or with all addresses
on one side. -/
theorem Endpoint.conflicts_iff {first second : Endpoint} :
    first.conflicts second = true ↔ first.port = second.port ∧
      (first.ip = second.ip ∨ first.ip = .unspecified ∨ second.ip = .unspecified) := by
  simp [conflicts, or_assoc]

namespace Fabric

/-- One thing that happens to the network without the relay. -/
inductive Outside : Fabric → Fabric → Prop where
  /-- From now on the network refuses other things. -/
  | policy (fabric : Fabric) (policy : Policy) : Outside fabric { fabric with policy := policy }
  /-- Somebody else opens a socket. -/
  | opened {fabric after : Fabric} {address : Endpoint}
      (bound : fabric.bind .outside address = .ok after) : Outside fabric after
  /-- Somebody else closes a socket of theirs. -/
  | closed {fabric : Fabric} {address : Endpoint} {socket : Socket}
      (found : fabric.socket? address = some socket) (foreign : socket.holder = .outside) :
      Outside fabric (fabric.close address)
  /-- A datagram or a fault arrives at a socket. -/
  | arrived (fabric : Fabric) (address : Endpoint) (arrival : Arrival) :
      Outside fabric (fabric.deliver address arrival)
  /-- The oldest arrival of a socket is read by its holder outside, or lost. -/
  | taken (fabric : Fabric) (address : Endpoint) : Outside fabric (fabric.receive address).2

/-! ## Looking up a socket -/

section Lookup

variable (fabric : Fabric)

theorem socket?_update (address other : Endpoint) (change : Socket → Socket) :
    (fabric.update address change).socket? other =
      if other = address then (fabric.socket? other).map change else fabric.socket? other := by
  obtain ⟨sockets, policy⟩ := fabric
  simp only [socket?, update]
  induction sockets with
  | nil => simp
  | cons entry rest ih =>
    obtain ⟨bound, socket⟩ := entry
    have changed : (if bound = address then (bound, change socket) else (bound, socket)) =
        (bound, if bound = address then change socket else socket) := by split <;> rfl
    rw [List.map_cons, changed, List.lookup_cons, List.lookup_cons, ih]
    by_cases found : other = bound
    · subst found
      by_cases same : other = address <;> simp [same]
    · simp [beq_false_of_ne found]

theorem socket?_close (address other : Endpoint) :
    (fabric.close address).socket? other =
      if other = address then none else fabric.socket? other := by
  obtain ⟨sockets, policy⟩ := fabric
  simp only [socket?, close]
  induction sockets with
  | nil => simp
  | cons entry rest ih =>
    obtain ⟨bound, socket⟩ := entry
    by_cases closed : bound = address
    · subst closed
      rw [List.filter_cons_of_neg (by simp), ih, List.lookup_cons]
      by_cases found : other = bound
      · simp [found]
      · simp [found, beq_false_of_ne found]
    · rw [List.filter_cons_of_pos (by simp [closed]), List.lookup_cons, List.lookup_cons, ih]
      by_cases found : other = bound
      · subst found
        simp [closed]
      · simp [beq_false_of_ne found]

end Lookup

/-! ## Endpoints that are taken -/

/-- An endpoint is taken exactly when there is a socket on one that it conflicts with. -/
theorem isTaken_iff {fabric : Fabric} {address : Endpoint} : fabric.isTaken address = true ↔
    ∃ other, (fabric.socket? other).isSome = true ∧ other.conflicts address = true := by
  rw [isTaken, List.any_eq_true]
  constructor
  · rintro ⟨⟨other, socket⟩, member, conflict⟩
    refine ⟨other, ?_, conflict⟩
    rw [Option.isSome_iff_ne_none, socket?, ne_eq, List.lookup_eq_none_iff]
    exact fun absent => by simpa using absent _ member
  · rintro ⟨other, bound, conflict⟩
    obtain ⟨socket, found⟩ := Option.isSome_iff_exists.mp bound
    obtain ⟨front, back, split, _⟩ := List.lookup_eq_some_iff.mp found
    exact ⟨(other, socket), split ▸ List.mem_append_right _ List.mem_cons_self, conflict⟩

/-- No socket is on an endpoint that is not taken. -/
theorem socket?_of_isTaken {fabric : Fabric} {address : Endpoint}
    (free : ¬ fabric.isTaken address = true) : fabric.socket? address = none := by
  refine Option.not_isSome_iff_eq_none.mp fun bound => free (isTaken_iff.mpr ⟨address, bound, ?_⟩)
  exact Endpoint.conflicts_iff.mpr ⟨rfl, .inl rfl⟩

/-! ## Opening and closing -/

theorem bind_eq_ok {fabric after : Fabric} {holder : Holder} {address : Endpoint}
    (bound : fabric.bind holder address = .ok after) :
    fabric.socket? address = none ∧
      after = { fabric with sockets := (address, ⟨holder, [], false⟩) :: fabric.sockets } := by
  rw [bind] at bound
  split at bound
  · cases bound
  · split at bound
    · cases bound
    · next free =>
      cases bound
      exact ⟨socket?_of_isTaken free, rfl⟩

theorem policy_bind {fabric after : Fabric} {holder : Holder} {address : Endpoint}
    (bound : fabric.bind holder address = .ok after) : after.policy = fabric.policy := by
  rw [(bind_eq_ok bound).2]

/-- Closing a socket that was just opened leaves the network as it was. -/
theorem close_bind {fabric after : Fabric} {holder : Holder} {address : Endpoint}
    (bound : fabric.bind holder address = .ok after) : after.close address = fabric := by
  obtain ⟨free, rfl⟩ := bind_eq_ok bound
  have others : ∀ entry ∈ fabric.sockets, decide (entry.1 ≠ address) = true := by
    intro entry member
    have differs := List.lookup_eq_none_iff.mp free entry member
    exact decide_eq_true fun same => by simp [same] at differs
  show Fabric.mk (List.filter _ (_ :: fabric.sockets)) _ = fabric
  rw [List.filter_cons_of_neg (by simp), List.filter_eq_self.mpr others]

/-- Opening a socket changes what is found at no other endpoint. -/
theorem socket?_bind {fabric after : Fabric} {holder : Holder} {address : Endpoint}
    (bound : fabric.bind holder address = .ok after) (other : Endpoint) :
    after.socket? other =
      if other = address then some ⟨holder, [], false⟩ else fabric.socket? other := by
  obtain ⟨_, rfl⟩ := bind_eq_ok bound
  rw [socket?, List.lookup_cons]
  by_cases same : other = address
  · simp [same]
  · simp [same, beq_false_of_ne same, socket?]

/-! ## Who holds a socket -/

/-- Who opened the socket on an endpoint. -/
def holder? (fabric : Fabric) (address : Endpoint) : Option Holder :=
  (fabric.socket? address).map Socket.holder

/-- Between two states of the network no socket of the relay was closed. -/
def Keeps (before after : Fabric) : Prop :=
  ∀ address, before.holder? address = some .relay → after.holder? address = some .relay

section Holders

variable {fabric first second third : Fabric}

theorem Keeps.refl (fabric : Fabric) : fabric.Keeps fabric := fun _ held => held

theorem Keeps.trans (earlier : first.Keeps second) (later : second.Keeps third) :
    first.Keeps third := fun address held => later address (earlier address held)

theorem holder?_update (address other : Endpoint) {change : Socket → Socket}
    (keeps : ∀ socket, (change socket).holder = socket.holder) :
    (fabric.update address change).holder? other = fabric.holder? other := by
  rw [holder?, socket?_update, holder?]
  split
  · rw [Option.map_map]
    exact congrArg (Option.map · _) (funext keeps)
  · rfl

theorem holder?_close (address other : Endpoint) :
    (fabric.close address).holder? other =
      if other = address then none else fabric.holder? other := by
  rw [holder?, socket?_close]
  split <;> rfl

theorem holder?_bind {holder : Holder} {address : Endpoint}
    (bound : fabric.bind holder address = .ok second) (other : Endpoint) :
    second.holder? other = if other = address then some holder else fabric.holder? other := by
  rw [holder?, socket?_bind bound]
  split <;> rfl

/-- Which endpoints are taken depends on where there are sockets. -/
theorem isTaken_congr {left right : Fabric}
    (holders : ∀ other, right.holder? other = left.holder? other) (address : Endpoint) :
    right.isTaken address = left.isTaken address := by
  have same : ∀ other, (right.socket? other).isSome = (left.socket? other).isSome := by
    intro other
    have holder := congrArg Option.isSome (holders other)
    rwa [holder?, holder?, Option.isSome_map, Option.isSome_map] at holder
  rw [Bool.eq_iff_iff, isTaken_iff, isTaken_iff]
  simp only [same]

/-- Where the network places a socket depends on its policy and on where there are others. -/
theorem place_congr {left right : Fabric} (policy : right.policy = left.policy)
    (holders : ∀ other, right.holder? other = left.holder? other) (address : Endpoint) :
    right.place address = left.place address := by
  have taken : right.isTaken = left.isTaken := funext (isTaken_congr holders)
  rw [place, place, policy, taken]

/-- Whether a socket can be opened depends on what the network refuses and where there are
others. -/
theorem exists_bind {left right after : Fabric} {holder : Holder} {address : Endpoint}
    (policy : right.policy = left.policy)
    (holders : ∀ other, right.holder? other = left.holder? other)
    (bound : right.bind holder address = .ok after) :
    ∃ fabric, left.bind holder address = .ok fabric := by
  rw [bind, policy, isTaken_congr holders] at bound
  rw [bind]
  split at bound
  · cases bound
  · split at bound
    · cases bound
    · next free => exact ⟨_, if_neg free⟩

theorem keeps_update (fabric : Fabric) (address : Endpoint) {change : Socket → Socket}
    (keeps : ∀ socket, (change socket).holder = socket.holder) :
    fabric.Keeps (fabric.update address change) := by
  intro other held
  rw [holder?_update address other keeps]
  exact held

theorem keeps_bind {holder : Holder} {address : Endpoint}
    (bound : fabric.bind holder address = .ok second) : fabric.Keeps second := by
  intro other held
  have taken : other ≠ address := by
    rintro rfl
    rw [holder?, (bind_eq_ok bound).1] at held
    cases held
  rw [holder?_bind bound, if_neg taken]
  exact held

theorem keeps_send {sender destination : Endpoint} {payload : Payload}
    (sent : fabric.send sender destination payload = .ok second) : fabric.Keeps second := by
  rw [send] at sent
  split at sent
  · cases sent
  · cases sent
    exact fabric.keeps_update destination fun _ => rfl

theorem keeps_drain (fabric : Fabric) (address : Endpoint) :
    fabric.Keeps (fabric.drain address).2 := fabric.keeps_update address fun _ => rfl

theorem keeps_settle (fabric : Fabric) (address : Endpoint) :
    fabric.Keeps (fabric.settle address) := fabric.keeps_update address fun _ => rfl

/-- Others close no socket of the relay. -/
theorem Outside.keeps (moved : first.Outside second) : first.Keeps second := by
  cases moved with
  | policy => exact Keeps.refl first
  | opened bound => exact keeps_bind bound
  | @closed address socket found foreign =>
    intro other held
    have differs : other ≠ address := by
      rintro rfl
      rw [holder?, found, Option.map_some, foreign] at held
      cases held
    rw [holder?_close, if_neg differs]
    exact held
  | arrived address arrival => exact first.keeps_update address fun _ => rfl
  | taken address => exact first.keeps_update address fun _ => rfl

end Holders

/-! ## What waits in a socket -/

/-- The datagrams that wait in the socket on an endpoint, in front of any fault. -/
def waiting (fabric : Fabric) (address : Endpoint) : List (Endpoint × Payload) :=
  leadingDatagrams (fabric.queue address)

/-- The arrival of a datagram. -/
def arrival (datagram : Endpoint × Payload) : Arrival := .datagram datagram.1 datagram.2

/-- No fault is in the queue of the socket on an endpoint. -/
def Faultless (fabric : Fabric) (address : Endpoint) : Prop :=
  ∀ cause, Arrival.fault cause ∉ fabric.queue address

section Queues

variable {fabric : Fabric}

theorem queue_update (address other : Endpoint) (change : Socket → Socket) :
    (fabric.update address change).queue other =
      if other = address then ((fabric.socket? other).map fun socket =>
        (change socket).queue).getD [] else fabric.queue other := by
  rw [queue, socket?_update]
  split
  · rw [Option.map_map]
    rfl
  · rfl

theorem queue_update_ne {address other : Endpoint} (differs : other ≠ address)
    (change : Socket → Socket) : (fabric.update address change).queue other =
      fabric.queue other := by
  rw [queue_update, if_neg differs]

theorem queue_settle (address other : Endpoint) :
    (fabric.settle address).queue other = fabric.queue other := by
  rw [settle, queue_update]
  split <;> rfl

/-- What is delivered goes to the end of the queue of its destination, if that is bound, and to no
other queue. -/
theorem queue_deliver {address : Endpoint} (arrived : Arrival) {other : Endpoint}
    (bound : (fabric.holder? other).isSome = true) :
    (fabric.deliver address arrived).queue other =
      fabric.queue other ++ if other = address then [arrived] else [] := by
  rw [deliver, queue_update]
  split
  · cases found : fabric.socket? other with
    | none => simp [holder?, found] at bound
    | some socket => simp [queue, found]
  · rw [List.append_nil]

theorem queue_close_ne {address other : Endpoint} (differs : other ≠ address) :
    (fabric.close address).queue other = fabric.queue other := by
  rw [queue, socket?_close, if_neg differs, queue]

theorem queue_bind {after : Fabric} {holder : Holder} {address : Endpoint}
    (bound : fabric.bind holder address = .ok after) (other : Endpoint) :
    after.queue other = fabric.queue other := by
  rw [queue, socket?_bind bound, queue]
  split
  · next same => rw [same, (bind_eq_ok bound).1]; rfl
  · rfl

theorem Faultless.of_queue_eq {after : Fabric} {address : Endpoint}
    (faultless : fabric.Faultless address) (same : after.queue address = fabric.queue address) :
    after.Faultless address := fun cause member => faultless cause (same ▸ member)

/-- Nothing waits in a socket that was just opened. -/
theorem faultless_bind {after : Fabric} {holder : Holder} {address : Endpoint}
    (bound : fabric.bind holder address = .ok after) : after.Faultless address := by
  intro cause member
  rw [queue, socket?_bind bound, if_pos rfl] at member
  cases member

/-- A queue without faults is the datagrams that wait in it. -/
theorem leadingDatagrams_eq {queue : List Arrival} (faultless : ∀ cause, .fault cause ∉ queue) :
    (leadingDatagrams queue).map arrival = queue ∧ firstFault queue = (none, []) := by
  induction queue with
  | nil => exact ⟨rfl, rfl⟩
  | cons first rest ih =>
    obtain ⟨datagrams, drained⟩ :=
      ih fun cause member => faultless cause (List.mem_cons_of_mem _ member)
    cases first with
    | datagram sender payload =>
      rw [leadingDatagrams, List.map_cons, datagrams, firstFault, drained]
      exact ⟨rfl, rfl⟩
    | fault cause => exact absurd List.mem_cons_self (faultless cause)

theorem leadingDatagrams_map (datagrams : List (Endpoint × Payload)) :
    leadingDatagrams (datagrams.map arrival) = datagrams := by
  induction datagrams with
  | nil => rfl
  | cons datagram rest ih =>
    rw [List.map_cons, arrival, leadingDatagrams, ih]

/-- Exactly a queue without faults consists of the datagrams that wait in it. -/
theorem faultless_iff {address : Endpoint} :
    fabric.Faultless address ↔ (fabric.waiting address).map arrival = fabric.queue address := by
  constructor
  · intro faultless
    exact (leadingDatagrams_eq faultless).1
  · intro datagrams cause member
    rw [← datagrams] at member
    obtain ⟨_, _, same⟩ := List.mem_map.mp member
    cases same

instance (fabric : Fabric) (address : Endpoint) : Decidable (fabric.Faultless address) :=
  decidable_of_iff _ faultless_iff.symm

namespace Faultless

variable {address : Endpoint} (faultless : fabric.Faultless address)
include faultless

theorem queue_eq : fabric.queue address = (fabric.waiting address).map arrival :=
  (faultless_iff.mp faultless).symm

/-- A change of a queue that adds no fault causes none. -/
theorem update (other : Endpoint) {change : Socket → Socket}
    (keeps : ∀ socket cause, Arrival.fault cause ∈ (change socket).queue →
      Arrival.fault cause ∈ socket.queue) : (fabric.update other change).Faultless address := by
  intro cause waits
  rw [queue_update] at waits
  split at waits
  · cases found : fabric.socket? address with
    | none => simp [found] at waits
    | some socket =>
      rw [found] at waits
      have before : Arrival.fault cause ∉ socket.queue := by
        simpa [queue, found] using faultless cause
      exact before (keeps socket cause waits)
  · exact faultless cause waits

/-- A datagram is no fault, wherever it arrives. -/
theorem deliver (other : Endpoint) (datagram : Endpoint × Payload) :
    (fabric.deliver other (arrival datagram)).Faultless address :=
  faultless.update other fun _ _ waits => by simpa [arrival] using waits

/-- A fault that waits nowhere is not found by taking something away. -/
theorem receive (other : Endpoint) : (fabric.receive other).2.Faultless address :=
  faultless.update other fun _ _ waits => List.mem_of_mem_drop waits

/-- Closing a socket brings no fault to any. -/
theorem close (other : Endpoint) : (fabric.close other).Faultless address := by
  by_cases here : address = other
  · intro cause waits
    rw [queue, socket?_close, if_pos here] at waits
    cases waits
  · exact faultless.of_queue_eq (queue_close_ne here)

/-- Reading a socket without faults yields everything that waits in it. -/
theorem drain_eq : (fabric.drain address).1 = ⟨fabric.waiting address, none⟩ := by
  rw [drain, (leadingDatagrams_eq faultless).2]
  rfl

/-- Reading a socket without faults empties it, and no other. -/
theorem queue_drain (other : Endpoint) :
    ((fabric.drain address).2).queue other =
      if other = address then [] else fabric.queue other := by
  rw [drain, (leadingDatagrams_eq faultless).2, queue_update]
  split
  · cases fabric.socket? other <;> rfl
  · rfl

end Faultless

end Queues

end Fabric

end FaxRelay.Net
