import FaxRelay.Media.Bridge

/-!
# What a bridge forwards

A bridge deals with the sides of a call in contacts: it asks a side for a frame,
or gives it one and is answered (`Contact`). Sides that keep a record of their
contacts behave as they would without it (`seenAs_recorded`), so what the record
says of a run is true of the run, whatever the sides are.

Moving one frame keeps two facts about the record, and so does a pass. Each side
was given exactly what the other side had handed out, empty frames apart, and no
contact follows one under which a socket failed (`Settled`); and the two sides
are asked in turn, the inbound one first (`Due`).

A frame that is refused for another reason is lost, and nothing else comes of it:
had it been accepted, everything would have gone the same way
(`seenAs_forgiving`).
-/

set_option autoImplicit false

namespace FaxRelay.Media

variable {σ : Type}

/-! ## Contacts -/

/-- What a bridge does with a side of a call: it asks the side for a frame, or gives it one and is
answered. -/
inductive Contact where
  | asked (side : Direction) (frame : Frame)
  | gave (side : Direction) (frame : Frame) (answer : Except Fault Unit)

namespace Contact

/-- The frame that a certain side handed out. -/
def handedOut? (side : Direction) : Contact → Option Frame
  | .asked other frame => if other = side then some frame else none
  | .gave _ _ _ => none

/-- The frame that a certain side was given. -/
def taken? (side : Direction) : Contact → Option Frame
  | .asked _ _ => none
  | .gave other frame _ => if other = side then some frame else none

/-- Whether a side accepted a frame. -/
def isAccepted : Contact → Bool
  | .gave _ _ (.ok _) => true
  | _ => false

/-- Whether the socket of a side failed under a frame. -/
def isFatal : Contact → Bool
  | .gave _ _ (.error fault) => fault.isSocket
  | _ => false

end Contact

/-- What a side was asked for and handed out, empty frames included. -/
def handedOut (side : Direction) (contacts : List Contact) : List Frame :=
  contacts.filterMap (Contact.handedOut? side)

/-- What a side was given. -/
def taken (side : Direction) (contacts : List Contact) : List Frame :=
  contacts.filterMap (Contact.taken? side)

section Append

variable (side : Direction) (earlier later : List Contact)

theorem handedOut_append :
    handedOut side (earlier ++ later) = handedOut side earlier ++ handedOut side later :=
  List.filterMap_append

theorem taken_append : taken side (earlier ++ later) = taken side earlier ++ taken side later :=
  List.filterMap_append

end Append

section Single

variable (side other : Direction) (frame : Frame) (answer : Except Fault Unit)

@[simp] theorem handedOut_asked :
    handedOut side [.asked other frame] = if other = side then [frame] else [] := by
  cases side <;> cases other <;> rfl

@[simp] theorem handedOut_gave : handedOut side [.gave other frame answer] = [] := rfl

@[simp] theorem taken_asked : taken side [.asked other frame] = [] := rfl

@[simp] theorem taken_gave :
    taken side [.gave other frame answer] = if other = side then [frame] else [] := by
  cases side <;> cases other <;> rfl

end Single

/-! ## The record -/

namespace Sides

/-- The same sides, which keep a record of their contacts, the first one first. -/
def recorded (sides : Sides σ) : Sides (σ × List Contact) where
  produce source state :=
    let (frame, after) := sides.produce source state.1
    (frame, after, state.2 ++ [.asked source frame])
  take target frame state :=
    let (answer, after) := sides.take target frame state.1
    (answer, after, state.2 ++ [.gave target frame answer])

/-- The same sides, which accept every frame under which no socket fails. -/
def forgiving (sides : Sides σ) : Sides σ where
  produce := sides.produce
  take target frame state :=
    match sides.take target frame state with
    | (.ok (), after) => (.ok (), after)
    | (.error fault, after) => (if fault.isSocket then .error fault else .ok (), after)

end Sides

/-! ## Sides that look the same -/

/-- Sides whose states are seen as those of other sides: they hand out the same frames, and answer
in ways that make no difference to what `same` says of the progress of bridges. -/
structure Sides.SeenAs {τ : Type} (other : Sides τ) (sides : Sides σ) (view : τ → σ)
    (same : Progress → Progress → Prop) : Prop where
  produces : ∀ source state,
    (other.produce source state).1 = (sides.produce source (view state)).1 ∧
      view (other.produce source state).2 = (sides.produce source (view state)).2
  takes : ∀ target frame state,
    view (other.take target frame state).2 = (sides.take target frame (view state)).2
  answers : ∀ target frame state {left right : Progress}, same left right →
    same (left.after (other.take target frame state).1)
      (right.after (sides.take target frame (view state)).1)
  fails : ∀ {left right : Progress}, same left right → left.failed = right.failed

namespace Sides.SeenAs

variable {τ : Type} {other : Sides τ} {sides : Sides σ} {view : τ → σ}
  {same : Progress → Progress → Prop} {left right : Progress}

theorem forward (seen : other.SeenAs sides view same) (alike : same left right)
    (source : Direction) (state : τ) :
    same (Media.forward other source left state).1
        (Media.forward sides source right (view state)).1 ∧
      view (Media.forward other source left state).2 =
        (Media.forward sides source right (view state)).2 := by
  obtain ⟨frames, states⟩ := seen.produces source state
  rw [Media.forward, Media.forward]
  simp only [frames, ← states]
  split
  · exact ⟨alike, rfl⟩
  · exact ⟨seen.answers _ _ _ alike, seen.takes _ _ _⟩

theorem pass (seen : other.SeenAs sides view same) (alike : same left right) (state : τ) :
    same (Media.pass other left state).1 (Media.pass sides right (view state)).1 ∧
      view (Media.pass other left state).2 = (Media.pass sides right (view state)).2 := by
  rw [Media.pass, Media.pass, seen.fails alike]
  split
  · exact ⟨alike, rfl⟩
  obtain ⟨inbound, states⟩ := seen.forward alike .inbound state
  dsimp only
  rw [seen.fails inbound, ← states]
  split
  · exact ⟨inbound, rfl⟩
  · exact seen.forward inbound .outbound _

/-- Bridges between sides that look the same go the same way. -/
theorem passes (seen : other.SeenAs sides view same) (alike : same left right) (count : Nat)
    (state : τ) :
    same (Media.passes other count left state).1 (Media.passes sides count right (view state)).1 ∧
      view (Media.passes other count left state).2 =
        (Media.passes sides count right (view state)).2 := by
  induction count generalizing left right state with
  | zero => exact ⟨alike, rfl⟩
  | succ count ih =>
    obtain ⟨passed, states⟩ := seen.pass alike state
    rw [Media.passes, Media.passes]
    dsimp only
    rw [← states]
    exact ih passed _

end Sides.SeenAs

variable (sides : Sides σ)

theorem seenAs_recorded : sides.recorded.SeenAs sides Prod.fst Eq where
  produces _ _ := ⟨rfl, rfl⟩
  takes _ _ _ := rfl
  answers _ _ _ _ _ alike := alike ▸ rfl
  fails alike := congrArg Progress.failed alike

theorem seenAs_forgiving :
    sides.forgiving.SeenAs sides id fun left right => left.failed = right.failed where
  produces _ _ := ⟨rfl, rfl⟩
  takes target frame state := by
    simp only [Sides.forgiving, id]
    split <;> next same => rw [same]
  answers target frame state left right alike := by
    simp only [Sides.forgiving, id]
    split
    · next same => simpa [same, Progress.after] using alike
    · next fault after same =>
      cases socket : fault.isSocket <;> simp [same, Progress.after, socket, alike]
  fails alike := alike

/-! ## One frame -/

/-- What is true of the record of a bridge whenever it is not busy moving a frame: everything that
was handed out was given to the opposite side, empty frames apart, what was accepted is counted, and
the bridge has failed exactly if a socket has, under the frame that it moved last. -/
structure Settled (progress : Progress) (contacts : List Contact) : Prop where
  delivered : ∀ side, taken side contacts =
    (handedOut side.opposite contacts).filter fun frame => !frame.isEmpty
  counted : progress.forwarded = contacts.countP Contact.isAccepted
  failed_iff : progress.failed = true ↔ ∃ contact ∈ contacts, contact.isFatal = true
  last : ∀ contact ∈ contacts.dropLast, contact.isFatal = false

/-- Moving a frame that is empty, or one that is not. -/
theorem forward_recorded_cases (source : Direction) (progress : Progress) (state : σ)
    (contacts : List Contact) :
    (∃ frame after, frame.isEmpty = true ∧
      forward sides.recorded source progress (state, contacts) =
        (progress, after, contacts ++ [.asked source frame])) ∨
    ∃ frame answer after, frame.isEmpty = false ∧
      forward sides.recorded source progress (state, contacts) =
        (progress.after answer, after,
          contacts ++ [.asked source frame] ++ [.gave source.opposite frame answer]) := by
  rw [forward]
  dsimp only
  split
  · next empty => exact .inl ⟨_, _, empty, rfl⟩
  · next audio => exact .inr ⟨_, _, _, Bool.eq_false_iff.mpr audio, rfl⟩

namespace Settled

variable {progress : Progress} {contacts : List Contact}

/-- As long as the bridge has not failed, no contact was fatal. -/
theorem harmless (settled : Settled progress contacts) (runs : progress.failed = false) :
    ∀ contact ∈ contacts, contact.isFatal = false := by
  intro contact member
  cases fatal : contact.isFatal with
  | false => rfl
  | true =>
    rw [settled.failed_iff.mpr ⟨contact, member, fatal⟩] at runs
    cases runs

theorem harmless_asked (settled : Settled progress contacts) (runs : progress.failed = false)
    (source : Direction) (frame : Frame) :
    ∀ contact ∈ contacts ++ [.asked source frame], contact.isFatal = false := by
  intro contact member
  rcases List.mem_append.mp member with member | member
  · exact settled.harmless runs contact member
  · rw [List.mem_singleton.mp member]
    rfl

/-- Asking for a frame and getting an empty one. -/
theorem asked (settled : Settled progress contacts) (runs : progress.failed = false)
    (source : Direction) {frame : Frame} (empty : frame.isEmpty = true) :
    Settled progress (contacts ++ [.asked source frame]) where
  delivered side := by
    rw [taken_append, handedOut_append, List.filter_append, settled.delivered]
    by_cases here : source = side.opposite <;> simp [here, empty]
  counted := by
    rw [List.countP_append, ← settled.counted]
    rfl
  failed_iff := by
    rw [settled.failed_iff]
    simp [or_and_right, exists_or, Contact.isFatal]
  last := by
    rw [List.dropLast_concat]
    exact settled.harmless runs

/-- Moving a frame that is not empty. -/
theorem moved (settled : Settled progress contacts) (runs : progress.failed = false)
    (source : Direction) {frame : Frame} (audio : frame.isEmpty = false)
    (answer : Except Fault Unit) :
    Settled (progress.after answer)
      (contacts ++ [.asked source frame] ++ [.gave source.opposite frame answer]) where
  delivered side := by
    rw [taken_append, taken_append, handedOut_append, handedOut_append, List.filter_append,
      List.filter_append, settled.delivered]
    cases source <;> cases side <;> simp [Direction.opposite, audio]
  counted := by
    rw [List.countP_append, List.countP_append, ← settled.counted]
    cases answer <;> rfl
  failed_iff := by
    have fatal : (progress.after answer).failed =
        Contact.isFatal (.gave source.opposite frame answer) := by
      cases answer <;> simp [Progress.after, runs, Contact.isFatal]
    rw [fatal]
    constructor
    · exact fun broke => ⟨_, List.mem_concat_self, broke⟩
    · rintro ⟨contact, member, broke⟩
      rcases List.mem_append.mp member with member | member
      · rw [settled.harmless_asked runs source frame contact member] at broke
        cases broke
      · rwa [List.mem_singleton.mp member] at broke
  last := by
    rw [List.dropLast_concat]
    exact settled.harmless_asked runs source frame

end Settled

/-! ## Whose turn it is -/

/-- How often the inbound side was asked when a certain side is to be asked next, after a number of
whole passes: it is asked first. -/
def asks (whole : Nat) : Direction → Nat
  | .inbound => whole
  | .outbound => whole + 1

/-- A record after which a certain side is to be asked next, a number of passes being complete: at
no time was the inbound side asked less often than the outbound one, or more often by two. -/
structure Due (whole : Nat) (next : Direction) (contacts : List Contact) : Prop where
  inbound : (handedOut .inbound contacts).length = asks whole next
  outbound : (handedOut .outbound contacts).length = whole
  always : ∀ earlier, earlier <+: contacts →
    (handedOut .inbound earlier).length = (handedOut .outbound earlier).length ∨
      (handedOut .inbound earlier).length = (handedOut .outbound earlier).length + 1

namespace Due

variable {whole : Nat} {next : Direction} {contacts : List Contact}

theorem none : Due 0 .inbound [] where
  inbound := rfl
  outbound := rfl
  always earlier cut := by
    rw [List.prefix_nil.mp cut]
    exact .inl rfl

/-- It is the opposite side's turn after a side was asked. -/
theorem asked (due : Due whole next contacts) (frame : Frame) :
    Due (asks whole next) next.opposite (contacts ++ [.asked next frame]) := by
  have inbound : (handedOut .inbound (contacts ++ [.asked next frame])).length =
      asks (asks whole next) next.opposite := by
    rw [handedOut_append, List.length_append, due.inbound]
    cases next <;> rfl
  have outbound : (handedOut .outbound (contacts ++ [.asked next frame])).length =
      asks whole next := by
    rw [handedOut_append, List.length_append, due.outbound]
    cases next <;> rfl
  refine ⟨inbound, outbound, fun earlier cut => ?_⟩
  rcases List.prefix_concat_iff.mp cut with rfl | cut
  · rw [inbound, outbound]
    cases next
    · exact .inr rfl
    · exact .inl rfl
  · exact due.always earlier cut

/-- Giving a side a frame is nobody's turn. -/
theorem gave (due : Due whole next contacts) (side : Direction) (frame : Frame)
    (answer : Except Fault Unit) : Due whole next (contacts ++ [.gave side frame answer]) := by
  have same : ∀ other, handedOut other (contacts ++ [.gave side frame answer]) =
      handedOut other contacts := fun other => by
    rw [handedOut_append, handedOut_gave, List.append_nil]
  refine ⟨same .inbound ▸ due.inbound, same .outbound ▸ due.outbound, fun earlier cut => ?_⟩
  rcases List.prefix_concat_iff.mp cut with rfl | cut
  · rw [same, same]
    exact due.always contacts (List.prefix_refl contacts)
  · exact due.always earlier cut

end Due

/-! ## Passes -/

/-- How a bridge is found after a number of passes: at the start of the next one, or broken since it
moved a frame of one of the sides, which was the last it had to do with either. -/
inductive Rest (count : Nat) (progress : Progress) (contacts : List Contact) : Prop where
  | running (runs : progress.failed = false) (due : Due count .inbound contacts)
  | broken (whole : Nat) (source : Direction) (frame : Frame) (fault : Fault)
      (early : whole < count) (failed : progress.failed = true) (socket : fault.isSocket = true)
      (last : contacts.getLast? = some (.gave source.opposite frame (.error fault)))
      (due : Due (asks whole source) source.opposite contacts)

/-- Moving a frame of the side whose turn it is. -/
theorem forward_recorded {progress : Progress} {contacts : List Contact} {whole : Nat}
    {source : Direction} (settled : Settled progress contacts) (runs : progress.failed = false)
    (due : Due whole source contacts) (state : σ) :
    ∃ moved after record,
      forward sides.recorded source progress (state, contacts) = (moved, after, record) ∧
      Settled moved record ∧ Due (asks whole source) source.opposite record ∧
      (moved.failed = true → ∃ frame fault, fault.isSocket = true ∧
        record.getLast? = some (.gave source.opposite frame (.error fault))) := by
  rcases forward_recorded_cases sides source progress state contacts with
    ⟨frame, after, empty, goes⟩ | ⟨frame, answer, after, audio, goes⟩
  · refine ⟨_, _, _, goes, settled.asked runs source empty, due.asked frame, fun failed => ?_⟩
    rw [runs] at failed
    cases failed
  · refine ⟨_, _, _, goes, settled.moved runs source audio answer,
      (due.asked frame).gave source.opposite frame answer, fun failed => ?_⟩
    cases answer with
    | ok _ =>
      rw [Progress.after, runs] at failed
      cases failed
    | error fault =>
      rw [Progress.after, runs, Bool.false_or] at failed
      exact ⟨frame, fault, failed, List.getLast?_concat⟩

/-- One more pass. -/
theorem pass_recorded {progress : Progress} {contacts : List Contact} {count : Nat}
    (settled : Settled progress contacts) (rest : Rest count progress contacts) (state : σ) :
    ∃ moved after record, pass sides.recorded progress (state, contacts) = (moved, after, record) ∧
      Settled moved record ∧ Rest (count + 1) moved record := by
  cases rest with
  | broken whole source frame fault early failed socket last due =>
    refine ⟨progress, state, contacts, by rw [pass, if_pos failed], settled, ?_⟩
    exact .broken whole source frame fault (Nat.lt_succ_of_lt early) failed socket last due
  | running runs due =>
    obtain ⟨moved, after, record, goes, settled, due, breaks⟩ :=
      forward_recorded sides settled runs due state
    rw [pass, runs, if_neg Bool.false_ne_true, goes]
    dsimp only
    cases failed : moved.failed with
    | true =>
      obtain ⟨frame, fault, socket, last⟩ := breaks failed
      exact ⟨moved, after, record, rfl, settled,
        .broken count .inbound frame fault count.lt_succ_self failed socket last due⟩
    | false =>
      obtain ⟨moved, after, record, goes, settled, due, breaks⟩ :=
        forward_recorded sides settled failed due after
      refine ⟨moved, after, record, goes, settled, ?_⟩
      cases failed : moved.failed with
      | true =>
        obtain ⟨frame, fault, socket, last⟩ := breaks failed
        exact .broken count .outbound frame fault count.lt_succ_self failed socket last due
      | false => exact .running failed due

theorem passes_recorded {progress : Progress} {contacts : List Contact} {done : Nat}
    (settled : Settled progress contacts) (rest : Rest done progress contacts) (count : Nat)
    (state : σ) :
    ∃ moved after record,
      passes sides.recorded count progress (state, contacts) = (moved, after, record) ∧
      Settled moved record ∧ Rest (done + count) moved record := by
  induction count generalizing progress contacts done state with
  | zero => exact ⟨progress, state, contacts, rfl, settled, rest⟩
  | succ count ih =>
    obtain ⟨moved, after, record, goes, settled, rest⟩ := pass_recorded sides settled rest state
    rw [passes, goes, show done + (count + 1) = done + 1 + count by omega]
    exact ih settled rest after

theorem Settled.fresh : Settled Progress.fresh [] where
  delivered _ := rfl
  counted := rfl
  failed_iff := by simp [Progress.fresh]
  last := by simp

/-- **A bridge gives each side exactly what the other one hands out**, empty frames apart, in the
same order and once each; it counts what was accepted; and it breaks exactly when a socket fails
under a frame, which is then the last that either side hears of it. The sides are asked in turn, the
inbound one first, as often as there were passes before it broke. A frame that is refused for
another reason is all that is lost by it: between sides that accept it everything goes the same
way. -/
theorem passes_forward_everything (count : Nat) (state : σ) :
    ∃ progress after contacts forgiven,
      passes sides.recorded count Progress.fresh (state, []) = (progress, after, contacts) ∧
      passes sides count Progress.fresh state = (progress, after) ∧
      Settled progress contacts ∧ Rest count progress contacts ∧
      passes sides.forgiving count Progress.fresh state = (forgiven, after) ∧
      forgiven.failed = progress.failed := by
  obtain ⟨progress, after, contacts, goes, settled, rest⟩ :=
    passes_recorded sides Settled.fresh (.running rfl Due.none) count state
  obtain ⟨same, reached⟩ :=
    (seenAs_recorded sides).passes (Eq.refl Progress.fresh) count (state, [])
  obtain ⟨alike, kept⟩ :=
    (seenAs_forgiving sides).passes (Eq.refl Progress.fresh.failed) count state
  rw [goes] at same reached
  have unrecorded : passes sides count Progress.fresh state = (progress, after) :=
    Prod.ext same.symm reached.symm
  rw [id, id, unrecorded] at kept
  rw [id, unrecorded] at alike
  refine ⟨progress, after, contacts, _, goes, unrecorded, settled, ?_, Prod.ext rfl kept, alike⟩
  rwa [Nat.zero_add] at rest

end FaxRelay.Media
