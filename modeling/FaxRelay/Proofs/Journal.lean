import FaxRelay.Resources

/-!
# The history of the engines

The journal tells which engines were attached to a leg, which were retired, and
which releases a pool refused. Engines are numbered in the order in which they
are made, and each is attached right after it was made, so the attachments of a
journal are in order.

A stretch of the journal is settled up to some engines when everything that was
attached in it was retired in it, once each, except these engines, which are
still held (`Settled`). Settled stretches that follow each other make up a
settled stretch.
-/

set_option autoImplicit false

namespace FaxRelay

namespace Event

/-- The engine that an event attaches to a leg. -/
def attached? : Event → Option Nat
  | .attached engine _ true => some engine
  | _ => none

/-- The engine that an event retires. -/
def retired? : Event → Option Nat
  | .retired engine => some engine
  | _ => none

/-- Whether an event is the refusal of a release. -/
def isRefusal : Event → Bool
  | .releaseRefused _ => true
  | _ => false

/-- An event that neither attaches nor retires an engine and refuses no release. -/
structure IsTraffic (event : Event) : Prop where
  attaches_none : event.attached? = none
  retires_none : event.retired? = none
  no_refusal : event.isRefusal = false

end Event

/-- The engines attached in a stretch of the journal, the latest first. -/
def attachments (events : List Event) : List Nat := events.filterMap Event.attached?

/-- The engines retired in a stretch of the journal, the latest first. -/
def retirements (events : List Event) : List Nat := events.filterMap Event.retired?

theorem attachments_append (later earlier : List Event) :
    attachments (later ++ earlier) = attachments later ++ attachments earlier :=
  List.filterMap_append

theorem retirements_append (later earlier : List Event) :
    retirements (later ++ earlier) = retirements later ++ retirements earlier :=
  List.filterMap_append

theorem attachments_of_traffic {events : List Event}
    (traffic : ∀ event ∈ events, event.IsTraffic) : attachments events = [] :=
  List.filterMap_eq_nil_iff.mpr fun event member => (traffic event member).attaches_none

theorem retirements_of_traffic {events : List Event}
    (traffic : ∀ event ∈ events, event.IsTraffic) : retirements events = [] :=
  List.filterMap_eq_nil_iff.mpr fun event member => (traffic event member).retires_none

/-- Of two increasing lists, one that has only elements of the other can be read off it. -/
theorem sublist_of_ordered {list whole : List Nat} (ordered : list.Pairwise (· < ·))
    (wholeOrdered : whole.Pairwise (· < ·)) (within : ∀ value ∈ list, value ∈ whole) :
    list.Sublist whole := by
  induction whole generalizing list with
  | nil =>
    cases list with
    | nil => exact .slnil
    | cons value rest => cases within value (List.mem_cons_self ..)
  | cons head whole ih =>
    cases list with
    | nil => exact List.nil_sublist _
    | cons value rest =>
      obtain ⟨above, restOrdered⟩ := List.pairwise_cons.mp ordered
      obtain ⟨headBelow, tailOrdered⟩ := List.pairwise_cons.mp wholeOrdered
      rcases List.mem_cons.mp (within value (List.mem_cons_self ..)) with rfl | later
      · refine (ih restOrdered tailOrdered fun other member => ?_).cons_cons value
        rcases List.mem_cons.mp (within other (List.mem_cons_of_mem _ member)) with rfl | found
        · exact absurd (above _ member) (Nat.lt_irrefl _)
        · exact found
      · have bound := headBelow value later
        refine (ih ordered tailOrdered fun other member => ?_).cons head
        rcases List.mem_cons.mp (within other member) with rfl | found
        · rcases List.mem_cons.mp member with rfl | member
          · exact absurd bound (Nat.lt_irrefl _)
          · exact absurd (Nat.lt_trans bound (above _ member)) (Nat.lt_irrefl _)
        · exact found

/-! ## Settled stretches -/

/-- A stretch of the journal between two counts of engines: only engines made in it are attached
in it, each once and in order; of these exactly those in `held` were not retired; and no pool
refused a release. -/
structure Settled (held : List Nat) (first last : Nat) (events : List Event) : Prop where
  grows : first ≤ last
  balanced : (attachments events).Perm (held ++ retirements events)
  recent : ∀ engine ∈ attachments events, first ≤ engine ∧ engine < last
  ordered : (attachments events).Pairwise (· > ·)
  accepted : ∀ event ∈ events, event.isRefusal = false

namespace Settled

variable {held older newer : List Nat} {first middle last : Nat}
variable {events later earlier : List Event}

theorem of_traffic (grows : first ≤ last) (traffic : ∀ event ∈ events, event.IsTraffic) :
    Settled [] first last events := by
  have attached := attachments_of_traffic traffic
  refine ⟨grows, ?_, ?_, ?_, fun event member => (traffic event member).no_refusal⟩
  · rw [attached, retirements_of_traffic traffic]
    exact List.Perm.refl _
  · intro engine member
    rw [attached] at member
    cases member
  · rw [attached]
    exact List.Pairwise.nil

theorem nil (grows : first ≤ last) : Settled [] first last [] :=
  of_traffic grows fun _ member => by cases member

/-- A settled stretch may be joined to the one that it follows. -/
theorem append (before : Settled older first middle earlier)
    (after : Settled newer middle last later) :
    Settled (newer ++ older) first last (later ++ earlier) where
  grows := Nat.le_trans before.grows after.grows
  balanced := by
    rw [attachments_append, retirements_append]
    refine (after.balanced.append before.balanced).trans ?_
    rw [List.append_assoc, List.append_assoc]
    refine List.Perm.append_left newer ?_
    rw [← List.append_assoc, ← List.append_assoc]
    exact List.perm_append_comm.append_right _
  recent engine member := by
    rw [attachments_append, List.mem_append] at member
    rcases member with member | member
    · obtain ⟨lower, upper⟩ := after.recent engine member
      exact ⟨Nat.le_trans before.grows lower, upper⟩
    · obtain ⟨lower, upper⟩ := before.recent engine member
      exact ⟨lower, Nat.lt_of_lt_of_le upper after.grows⟩
  ordered := by
    rw [attachments_append, List.pairwise_append]
    refine ⟨after.ordered, before.ordered, fun recent member old oldMember => ?_⟩
    have lower := (after.recent recent member).1
    have upper := (before.recent old oldMember).2
    omega
  accepted event member := by
    rcases List.mem_append.mp member with member | member
    · exact after.accepted event member
    · exact before.accepted event member

/-- The engine that is made next and attached to a leg is held. -/
theorem attach (count : Nat) (leg : Media.Leg) :
    Settled [count] count (count + 1) [.attached count leg true, .made count] where
  grows := Nat.le_succ count
  balanced := List.Perm.refl _
  recent engine member := by
    cases List.mem_singleton.mp member
    exact ⟨Nat.le_refl _, Nat.lt_succ_self _⟩
  ordered := List.pairwise_singleton _ _
  accepted event member := by
    simp only [List.mem_cons, List.not_mem_nil, or_false] at member
    rcases member with rfl | rfl <;> rfl

/-- Which engines are held is no matter of their order. -/
theorem perm (settled : Settled older first last events) (same : older.Perm newer) :
    Settled newer first last events :=
  ⟨settled.grows, settled.balanced.trans (same.append_right _), settled.recent, settled.ordered,
    settled.accepted⟩

/-- Retiring an engine that is held settles it. -/
theorem retire {engine : Nat} (settled : Settled (engine :: held) first last events) :
    Settled held first last (.retired engine :: events) where
  grows := settled.grows
  balanced := settled.balanced.trans List.perm_middle.symm
  recent := settled.recent
  ordered := settled.ordered
  accepted event member := by
    rcases List.mem_cons.mp member with rfl | member
    · rfl
    · exact settled.accepted event member

/-- An engine that is held was attached in the stretch. -/
theorem attached_of_held {engine : Nat} (settled : Settled held first last events)
    (member : engine ∈ held) : engine ∈ attachments events :=
  settled.balanced.mem_iff.mpr (List.mem_append_left _ member)

/-- In a settled stretch each engine is attached at most once. -/
theorem nodup (settled : Settled held first last events) : (attachments events).Nodup :=
  settled.ordered.imp fun greater equal => by omega

/-- What was attached is either held or retired, and not both. -/
theorem held_iff (settled : Settled held first last events) (engine : Nat) :
    engine ∈ held ↔ engine ∈ attachments events ∧ engine ∉ retirements events := by
  have apart := List.nodup_append.mp (settled.balanced.nodup_iff.mp settled.nodup)
  rw [settled.balanced.mem_iff, List.mem_append]
  constructor
  · intro member
    exact ⟨.inl member, fun retired => apart.2.2 engine member engine retired rfl⟩
  · rintro ⟨member | retired, spared⟩
    · exact member
    · exact absurd retired spared

theorem retirements_count (settled : Settled [] first last events) (engine : Nat) :
    (retirements events).count engine = (attachments events).count engine :=
  (settled.balanced.count_eq engine).symm

/-- The engines that are held, in the order in which they were made, are among those that were
attached, in the order in which they were attached. -/
theorem held_sublist (settled : Settled held first last events)
    (ordered : held.Pairwise (· < ·)) : held.Sublist (attachments events).reverse := by
  have chronological : (attachments events).reverse.Pairwise (· < ·) :=
    List.pairwise_reverse.mpr settled.ordered
  have attached : ∀ engine ∈ held, engine ∈ (attachments events).reverse :=
    fun engine member => List.mem_reverse.mpr (settled.attached_of_held member)
  exact sublist_of_ordered ordered chronological attached

end Settled

end FaxRelay
