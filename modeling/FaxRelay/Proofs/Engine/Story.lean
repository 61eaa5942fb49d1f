import FaxRelay.Resources

/-!
# The story of an engine

What the journal tells of one engine is its story (`story`). It begins when the
engine is made. Attached to a leg right away, or refused, the engine is used as
long as the leg lasts, and then it is retired; nothing comes behind that
(`Story`).

A journal is orderly when every event in it fits what the journal told before
(`Orderly`). Engines are made once, attached when they have just been made, and
used and retired while they are in use; and a bridge uses an engine only while
the one on the other side of the call is in use as well. In an orderly journal
the story of every engine is as it should be (`Orderly.story`).

The two engines of a call are made one after the other, and attached to an
inbound and to an outbound leg of the same call (`Mates`).
-/

set_option autoImplicit false

namespace FaxRelay

open FaxRelay.Media

namespace Event

/-- The engine that an event is about. -/
def engine? : Event → Option Nat
  | .made engine => some engine
  | .attached engine _ _ => some engine
  | .heard engine _ => some engine
  | .produced engine _ => some engine
  | .took engine _ _ => some engine
  | .retired engine => some engine
  | .sent _ _ => none
  | .signaled _ _ => none
  | .releaseRefused _ => none

/-- The engine that an event uses for audio. -/
def used? : Event → Option Nat
  | .heard engine _ => some engine
  | .produced engine _ => some engine
  | .took engine _ _ => some engine
  | _ => none

/-- The engine that an event uses on a side of a bridge. -/
def moved? : Event → Option Nat
  | .produced engine _ => some engine
  | .took engine _ _ => some engine
  | _ => none

end Event

/-! ## Phases -/

/-- How far an engine has come. -/
inductive Phase where
  | unmade
  | made
  | refused
  | inUse
  | retired
  deriving DecidableEq, Repr

/-- The phase of an engine after an event about it. -/
def Phase.after : Phase → Event → Phase
  | _, .made _ => .made
  | _, .attached _ _ true => .inUse
  | _, .attached _ _ false => .refused
  | _, .retired _ => .retired
  | phase, _ => phase

/-- The phase that an engine has reached according to a journal, the latest event first. -/
def phase (engine : Nat) : List Event → Phase
  | [] => .unmade
  | event :: earlier =>
    if event.engine? = some engine then (phase engine earlier).after event
    else phase engine earlier

/-- What a journal tells of an engine, the first event first. -/
def story (engine : Nat) (journal : List Event) : List Event :=
  (journal.filter fun event => event.engine? = some engine).reverse

section Journal

variable {engine : Nat} {event : Event} {earlier : List Event}

theorem phase_cons_of_eq (about : event.engine? = some engine) :
    phase engine (event :: earlier) = (phase engine earlier).after event := if_pos about

theorem phase_cons_of_ne (about : event.engine? ≠ some engine) :
    phase engine (event :: earlier) = phase engine earlier := if_neg about

/-- Using an engine leaves every phase as it was. -/
theorem phase_cons_of_used {other : Nat} (used : event.used? = some other) :
    phase engine (event :: earlier) = phase engine earlier := by
  rw [phase]
  split
  · cases event <;> first | rfl | cases used
  · rfl

theorem story_cons_of_eq (about : event.engine? = some engine) :
    story engine (event :: earlier) = story engine earlier ++ [event] := by
  rw [story, List.filter_cons_of_pos (by simp [about]), List.reverse_cons]
  rfl

theorem story_cons_of_ne (about : event.engine? ≠ some engine) :
    story engine (event :: earlier) = story engine earlier := by
  rw [story, List.filter_cons_of_neg (by simp [about])]
  rfl

theorem mem_story_iff {journal : List Event} :
    event ∈ story engine journal ↔ event ∈ journal ∧ event.engine? = some engine := by
  rw [story, List.mem_reverse, List.mem_filter, decide_eq_true_iff]

/-- Events that are about no engine leave every phase as it was. -/
theorem phase_append_of_aside {events : List Event} (aside : ∀ event ∈ events, event.engine? = none)
    (engine : Nat) (earlier : List Event) :
    phase engine (events ++ earlier) = phase engine earlier := by
  induction events with
  | nil => rfl
  | cons event events ih =>
    have about : event.engine? ≠ some engine := by
      rw [aside event List.mem_cons_self]
      exact nofun
    rw [List.cons_append, phase_cons_of_ne about]
    exact ih fun other member => aside other (List.mem_cons_of_mem _ member)

end Journal

/-! ## The two engines of a call -/

/-- Two engines that were made one after the other and attached to the inbound and the outbound leg
of the same call. -/
structure Mates (journal : List Event) (inbound outbound : Nat) : Prop where
  next : outbound = inbound + 1
  attached : ∃ leg other : Leg, Event.attached inbound leg true ∈ journal ∧
    Event.attached outbound other true ∈ journal ∧ leg.direction = .inbound ∧
    other.direction = .outbound ∧ other.callId = leg.callId

theorem Mates.mono {earlier later : List Event} {inbound outbound : Nat}
    (mates : Mates earlier inbound outbound) (within : earlier ⊆ later) :
    Mates later inbound outbound := by
  obtain ⟨next, leg, other, first, second, rest⟩ := mates
  exact ⟨next, leg, other, within first, within second, rest⟩

/-- An engine is on either side of a call whose two engines are both in use. -/
def InCall (journal : List Event) (engine : Nat) : Prop :=
  phase engine journal = .inUse ∧ ∃ mate,
    (Mates journal engine mate ∨ Mates journal mate engine) ∧ phase mate journal = .inUse

/-! ## Orderly journals -/

/-- Whether an event fits what the journal told before. -/
def Event.InOrder (earlier : List Event) : Event → Prop
  | .made engine => phase engine earlier = .unmade
  | .attached engine _ _ => phase engine earlier = .made
  | .heard engine _ => phase engine earlier = .inUse
  | .produced engine _ => InCall earlier engine
  | .took engine _ _ => InCall earlier engine
  | .retired engine => phase engine earlier = .inUse
  | _ => True

/-- Every event of a journal fits what the journal told before it. -/
inductive Orderly : List Event → Prop where
  | nil : Orderly []
  | cons {event : Event} {earlier : List Event} (inOrder : event.InOrder earlier)
      (orderly : Orderly earlier) : Orderly (event :: earlier)

/-- The story of an engine in a certain phase. Whatever is used lies between being attached to a
leg and being retired. -/
inductive Story (engine : Nat) : Phase → List Event → Prop where
  | unmade : Story engine .unmade []
  | made : Story engine .made [.made engine]
  | refused (leg : Leg) : Story engine .refused [.made engine, .attached engine leg false]
  | inUse (leg : Leg) {uses : List Event} (used : ∀ event ∈ uses, event.used? = some engine) :
      Story engine .inUse ([.made engine, .attached engine leg true] ++ uses)
  | retired (leg : Leg) {uses : List Event} (used : ∀ event ∈ uses, event.used? = some engine) :
      Story engine .retired
        ([.made engine, .attached engine leg true] ++ uses ++ [.retired engine])

namespace Story

variable {engine : Nat} {past : List Event}

theorem make (told : Story engine .unmade past) :
    Story engine .made (past ++ [.made engine]) := by
  cases told
  exact .made

theorem attach (told : Story engine .made past) (leg : Leg) (accepted : Bool) :
    Story engine (Phase.made.after (.attached engine leg accepted))
      (past ++ [.attached engine leg accepted]) := by
  cases told
  cases accepted with
  | true => exact .inUse leg (fun _ member => by cases member)
  | false => exact .refused leg

theorem retire (told : Story engine .inUse past) :
    Story engine .retired (past ++ [.retired engine]) := by
  cases told with
  | inUse leg used => exact .retired leg used

/-- An engine that is in use may be used once more. -/
theorem use (told : Story engine .inUse past) {event : Event} (uses : event.used? = some engine) :
    Story engine .inUse (past ++ [event]) := by
  cases told with
  | inUse leg used =>
    rw [List.append_assoc]
    refine .inUse leg fun other member => ?_
    rcases List.mem_append.mp member with member | member
    · exact used other member
    · cases List.mem_singleton.mp member
      exact uses

/-- An engine was attached to at most one leg. -/
theorem attached_unique {phase : Phase} (told : Story engine phase past) {leg other : Leg}
    {accepted accepted' : Bool} (first : Event.attached engine leg accepted ∈ past)
    (second : Event.attached engine other accepted' ∈ past) :
    leg = other ∧ accepted = accepted' := by
  have only : ∀ {uses : List Event}, (∀ event ∈ uses, event.used? = some engine) →
      ∀ {leg accepted}, Event.attached engine leg accepted ∉ uses := by
    intro uses used leg accepted member
    cases used _ member
  cases told with
  | unmade => cases first
  | made => simp at first
  | refused => simp_all
  | inUse leg used => simp_all [only used]
  | retired leg used => simp_all [only used]

end Story

namespace Orderly

variable {journal earlier later : List Event}

theorem of_append (orderly : Orderly (later ++ earlier)) : Orderly earlier := by
  induction later with
  | nil => exact orderly
  | cons event later ih =>
    cases orderly with
    | cons _ orderly => exact ih orderly

/-- Every event of an orderly journal fits what was told before it. -/
theorem inOrder {event : Event} (orderly : Orderly (later ++ event :: earlier)) :
    event.InOrder earlier := by
  cases orderly.of_append with
  | cons inOrder _ => exact inOrder

/-- Events that are about no engine may be added. -/
theorem aside {events : List Event} (orderly : Orderly earlier)
    (aside : ∀ event ∈ events, event.engine? = none) : Orderly (events ++ earlier) := by
  induction events with
  | nil => exact orderly
  | cons event events ih =>
    refine .cons ?_ (ih fun other member => aside other (List.mem_cons_of_mem _ member))
    have nobody := aside event List.mem_cons_self
    cases event with
    | sent => trivial
    | signaled => trivial
    | releaseRefused => trivial
    | made => cases nobody
    | attached => cases nobody
    | heard => cases nobody
    | produced => cases nobody
    | took => cases nobody
    | retired => cases nobody

/-- **In an orderly journal the story of every engine is as it should be.** -/
theorem story (orderly : Orderly journal) (engine : Nat) :
    Story engine (phase engine journal) (FaxRelay.story engine journal) := by
  induction orderly with
  | nil => exact .unmade
  | @cons event earlier inOrder orderly ih =>
    by_cases about : event.engine? = some engine
    case neg =>
      rw [phase_cons_of_ne about, story_cons_of_ne about]
      exact ih
    rw [phase_cons_of_eq about, story_cons_of_eq about]
    cases event with
    | made other =>
      cases about
      rw [show phase engine earlier = .unmade from inOrder] at ih
      exact ih.make
    | attached other leg accepted =>
      cases about
      rw [show phase engine earlier = .made from inOrder] at ih ⊢
      exact ih.attach leg accepted
    | heard other payload =>
      cases about
      rw [show phase engine earlier = .inUse from inOrder] at ih ⊢
      exact ih.use rfl
    | produced other frame =>
      cases about
      rw [show phase engine earlier = .inUse from inOrder.1] at ih ⊢
      exact ih.use rfl
    | took other frame fault =>
      cases about
      rw [show phase engine earlier = .inUse from inOrder.1] at ih ⊢
      exact ih.use rfl
    | retired other =>
      cases about
      rw [show phase engine earlier = .inUse from inOrder] at ih
      exact ih.retire
    | sent => cases about
    | signaled => cases about
    | releaseRefused => cases about

theorem attached_unique (orderly : Orderly journal) {engine : Nat} {leg other : Leg}
    (first : Event.attached engine leg true ∈ journal)
    (second : Event.attached engine other true ∈ journal) : leg = other :=
  ((orderly.story engine).attached_unique (mem_story_iff.mpr ⟨first, rfl⟩)
    (mem_story_iff.mpr ⟨second, rfl⟩)).1

/-- The inbound engine of a call has only one mate. -/
theorem mate_of_inbound (orderly : Orderly journal) {inbound outbound mate : Nat}
    (mates : Mates journal inbound outbound)
    (also : Mates journal inbound mate ∨ Mates journal mate inbound) : mate = outbound := by
  rcases also with also | also
  · rw [also.next, mates.next]
  · obtain ⟨leg, _, attached, _, direction, _⟩ := mates.attached
    obtain ⟨_, other, _, attached', _, direction', _⟩ := also.attached
    cases orderly.attached_unique attached attached'
    cases direction.symm.trans direction'

/-- The outbound engine of a call has only one mate. -/
theorem mate_of_outbound (orderly : Orderly journal) {inbound outbound mate : Nat}
    (mates : Mates journal inbound outbound)
    (also : Mates journal outbound mate ∨ Mates journal mate outbound) : mate = inbound := by
  rcases also with also | also
  · obtain ⟨_, other, _, attached, _, direction, _⟩ := mates.attached
    obtain ⟨leg, _, attached', _, direction', _⟩ := also.attached
    cases orderly.attached_unique attached attached'
    cases direction'.symm.trans direction
  · have next := mates.next
    have next' := also.next
    omega

/-- An engine has only one mate. -/
theorem mate_unique (orderly : Orderly journal) {engine mate other : Nat}
    (mates : Mates journal engine mate ∨ Mates journal mate engine)
    (also : Mates journal mate other ∨ Mates journal other mate) : other = engine := by
  rcases mates with mates | mates
  · exact orderly.mate_of_outbound mates also
  · exact orderly.mate_of_inbound mates also

/-- In an orderly journal a bridge uses an engine only while both engines of the call are in use. -/
theorem moved {event : Event} {engine : Nat} (orderly : Orderly (later ++ event :: earlier))
    (moves : event.moved? = some engine) :
    (∃ inbound outbound, Mates earlier inbound outbound ∧
      (engine = inbound ∨ engine = outbound)) ∧
    ∀ inbound outbound, Mates (later ++ event :: earlier) inbound outbound →
      engine = inbound ∨ engine = outbound →
      phase inbound earlier = .inUse ∧ phase outbound earlier = .inUse := by
  have inOrder := orderly.inOrder
  have inCall : InCall earlier engine := by
    cases event with
    | produced => cases moves; exact inOrder
    | took => cases moves; exact inOrder
    | made => cases moves
    | attached => cases moves
    | heard => cases moves
    | retired => cases moves
    | sent => cases moves
    | signaled => cases moves
    | releaseRefused => cases moves
  obtain ⟨inUse, mate, either, inUse'⟩ := inCall
  have within : earlier ⊆ later ++ event :: earlier := fun _ told =>
    List.mem_append_right _ (.tail _ told)
  have still := either.imp (Mates.mono · within) (Mates.mono · within)
  refine ⟨?_, ?_⟩
  · rcases either with mates | mates
    · exact ⟨engine, mate, mates, .inl rfl⟩
    · exact ⟨mate, engine, mates, .inr rfl⟩
  · rintro inbound outbound mates (rfl | rfl)
    · cases orderly.mate_of_inbound mates still
      exact ⟨inUse, inUse'⟩
    · cases orderly.mate_of_outbound mates still
      exact ⟨inUse', inUse⟩

end Orderly

end FaxRelay
