import FaxRelay.Proofs.Pool.Accounts

/-!
# Recycling

How soon a supply issues a value again. A search goes over a range in a circle,
and what was issued goes to the end of it, so a value that has just been given
back is the last one that the search comes to. Until it is issued again, the
search has come past every other value of the range. It issues what is free and
passes over what somebody has, so each of them was live at some moment
(`reissued_after_all_others`).

Nothing follows for the number of requests in between. While all other values are
held, one value may be issued and given back time and again.

The invariant speaks of the order in which the search goes over the values. Once
a value was issued, whatever stands behind it in this order has been live since
then (`Passed`). Issuing another value moves everything up to that one to the
end, and this is either live or issued just now.
-/

set_option autoImplicit false

namespace FaxRelay.Pool

/-! ## What a search has come past -/

section Passed

variable {α : Type}

/-- A search that goes over values in a certain order has come past a value: whatever stands behind
it, and the value itself, has been met. -/
def Passed (order : List α) (start : α) (met : α → Prop) : Prop :=
  ∃ ahead behind, order = ahead ++ start :: behind ∧ ∀ value ∈ start :: behind, met value

variable {order ahead behind : List α} {start value : α} {met seen : α → Prop}

theorem Passed.mono (passed : Passed order start met) (more : ∀ value, met value → seen value) :
    Passed order start seen := by
  obtain ⟨ahead, behind, split, all⟩ := passed
  exact ⟨ahead, behind, split, fun value member => more value (all value member)⟩

/-- A value that stands at the end of the order has been passed. -/
theorem passed_concat (front : List α) (isMet : met start) :
    Passed (front ++ [start]) start met := by
  refine ⟨front, [], rfl, ?_⟩
  intro value member
  rw [List.mem_singleton.mp member]
  exact isMet

/-- When the search goes on to behind a value, everything up to this value moves to the end. What
has been passed stays passed, if what was moved has been met. -/
theorem Passed.turn (passed : Passed (ahead ++ value :: behind) start met)
    (moved : ∀ other ∈ ahead ++ [value], met other) :
    Passed (behind ++ (ahead ++ [value])) start met := by
  obtain ⟨front, back, split, all⟩ := passed
  -- The value stands in front of the start, or is the start, or stands behind it.
  rcases List.append_eq_append_iff.mp split with ⟨between, rfl, rest⟩ | ⟨between, rfl, rest⟩
  · cases between with
    | nil =>
      obtain ⟨rfl, rfl⟩ := List.cons.inj rest
      rw [← List.append_assoc]
      exact passed_concat _ (moved value (by simp))
    | cons first between =>
      obtain ⟨rfl, rfl⟩ := List.cons.inj rest
      refine ⟨between, back ++ (ahead ++ [value]), by simp, ?_⟩
      intro other member
      rw [← List.cons_append] at member
      rcases List.mem_append.mp member with member | member
      · exact all other member
      · exact moved other member
  · cases between with
    | nil =>
      obtain ⟨rfl, rfl⟩ := List.cons.inj rest
      rw [← List.append_assoc]
      exact passed_concat _ (moved start (by simp))
    | cons first between =>
      obtain ⟨rfl, rfl⟩ := List.cons.inj rest
      refine ⟨behind ++ front, between ++ [value], by simp, ?_⟩
      intro other member
      refine moved other ?_
      rw [List.append_assoc]
      exact List.mem_append_right front member

/-- When the search comes to the start again, it has come past everything. -/
theorem Passed.all (passed : Passed (ahead ++ start :: behind) start met)
    (nodup : (ahead ++ start :: behind).Nodup) (front : ∀ other ∈ ahead, met other) :
    ∀ other ∈ ahead ++ start :: behind, met other := by
  obtain ⟨front', back, split, all⟩ := passed
  have absent : start ∉ ahead ++ behind := (List.nodup_cons.mp (List.nodup_middle.mp nodup)).1
  rw [List.mem_append, not_or] at absent
  obtain ⟨rfl, _, rfl⟩ := (List.append_cons_inj_of_notMem absent.1 absent.2).mp split
  intro other member
  rcases List.mem_append.mp member with member | member
  · exact front other member
  · exact all other member

end Passed

/-! ## Supplies that search in a circle -/

namespace Service

variable {σ κ α : Type}

/-- A service that goes over the values of each kind in a circle: it issues the first one that is
not allocated and goes on behind it. Nothing else changes the order. -/
structure Rotates (service : Service σ κ α) (Sound : σ → Prop) (isAllocated : σ → α → Bool)
    (order : σ → κ → List α) (Belongs : κ → α → Prop) : Prop where
  nodup : ∀ {supply : σ}, Sound supply → ∀ kind, (order supply kind).Nodup
  complete : ∀ {supply : σ}, Sound supply → ∀ kind value,
    Belongs kind value → value ∈ order supply kind
  issued : ∀ {before after : σ} {kind : κ} {value : α}, Sound before →
    service.allocate before kind = .ok (value, after) →
      ∃ ahead behind, order before kind = ahead ++ value :: behind ∧
        (∀ other ∈ ahead, isAllocated before other = true) ∧
        order after kind = behind ++ (ahead ++ [value]) ∧
        ∀ other, other ≠ kind → order after other = order before other
  returned : ∀ {before after : σ} {value : α}, service.release before value = .ok after →
    ∀ kind, order after kind = order before kind

variable [DecidableEq α]

/-- Between two moments at which a supply issues the same value, every value of the kind is live at
some moment: issued by then, and not given back. -/
def Recycles (service : Service σ κ α) (supply : σ) (Belongs : κ → α → Prop) : Prop :=
  ∀ (early between : List (Request κ α)) (kind : κ) (value : α) (after again : σ),
    service.allocate (service.account supply early).supply kind = .ok (value, after) →
    service.allocate (service.account supply (early ++ .allocate kind :: between)).supply kind =
      .ok (value, again) →
    ∀ other, Belongs kind other → ∃ moment, moment <+: between ∧
      other ∈ (service.account supply (early ++ .allocate kind :: moment)).live

namespace Rotates

variable {service : Service σ κ α} {Sound : σ → Prop} {isAllocated : σ → α → Bool}
variable {order : σ → κ → List α} {Belongs : κ → α → Prop}
variable (rotates : service.Rotates Sound isAllocated order Belongs)
variable (accurate : service.Accurate Sound isAllocated)
variable {account : Account σ α} (inStep : account.InStep Sound isAllocated)
include rotates inStep

/-- One request: what has been passed stays passed, with what is live before and after the request
counted as met. -/
theorem passed_serve {kind : κ} {start : α} {met : α → Prop}
    (passed : Passed (order account.supply kind) start met) (request : Request κ α) :
    Passed (order (service.serve account request).supply kind) start fun value =>
      met value ∨ value ∈ account.live ∨ value ∈ (service.serve account request).live := by
  have more : Passed (order account.supply kind) start fun value =>
      met value ∨ value ∈ account.live ∨ value ∈ (service.serve account request).live :=
    passed.mono fun value isMet => .inl isMet
  cases request with
  | allocate other =>
    rw [serve] at more ⊢
    cases answer : service.allocate account.supply other with
    | error fault =>
      rw [answer] at more
      exact more
    | ok result =>
      obtain ⟨value, supply⟩ := result
      rw [answer] at more
      obtain ⟨ahead, behind, split, taken, turned, aside⟩ := rotates.issued inStep.sound answer
      dsimp only at more ⊢
      by_cases same : kind = other
      · subst same
        rw [split] at more
        rw [turned]
        refine more.turn ?_
        intro moved member
        rcases List.mem_append.mp member with member | member
        · exact .inr (.inl ((inStep.allocated_iff moved).mp (taken moved member)))
        · rw [List.mem_singleton.mp member]
          exact .inr (.inr (Finset.mem_insert_self _ _))
      · rw [aside kind same]
        exact more
  | release value =>
    rw [serve] at more ⊢
    cases answer : service.release account.supply value with
    | error fault =>
      rw [answer] at more
      exact more
    | ok supply =>
      rw [answer] at more
      dsimp only at more ⊢
      rw [rotates.returned answer kind]
      exact more

include accurate

/-- A sequence of requests, after which the start is issued again: every value has been met, or was
live at some moment. -/
theorem met_or_live {kind : κ} {start : α} {met : α → Prop}
    (passed : Passed (order account.supply kind) start met) (between : List (Request κ α))
    {again : σ}
    (issued : service.allocate (between.foldl service.serve account).supply kind =
      .ok (start, again)) :
    ∀ other, Belongs kind other → met other ∨
      ∃ moment, moment <+: between ∧ other ∈ (moment.foldl service.serve account).live := by
  induction between generalizing account met with
  | nil =>
    intro other belongs
    obtain ⟨ahead, behind, split, taken, _⟩ := rotates.issued inStep.sound issued
    have member := rotates.complete inStep.sound kind other belongs
    have nodup := rotates.nodup inStep.sound kind
    have wider : Passed (order account.supply kind) start fun value =>
        met value ∨ value ∈ account.live := passed.mono fun value isMet => .inl isMet
    rw [split] at member nodup wider
    have front : ∀ value ∈ ahead, met value ∨ value ∈ account.live :=
      fun value member => .inr ((inStep.allocated_iff value).mp (taken value member))
    rcases wider.all nodup front other member with isMet | live
    · exact .inl isMet
    · exact .inr ⟨[], List.prefix_rfl, live⟩
  | cons request rest ih =>
    intro other belongs
    have passed' := rotates.passed_serve inStep passed request
    rcases ih (accurate.serve inStep request) passed' issued other belongs with
      (isMet | live | live) | ⟨moment, early, live⟩
    · exact .inl isMet
    · exact .inr ⟨[], List.nil_prefix, live⟩
    · exact .inr ⟨[request], ⟨rest, rfl⟩, live⟩
    · exact .inr ⟨request :: moment, List.cons_prefix_cons.mpr ⟨rfl, early⟩, live⟩

omit inStep

/-- **A service that searches in a circle recycles,** from a supply of which nothing is issued. -/
theorem recycles {supply : σ} (sound : Sound supply)
    (fresh : ∀ value, isAllocated supply value = false) : service.Recycles supply Belongs := by
  intro early between kind value after again issued reissued other belongs
  have inStep := accurate.account sound fresh early
  have later : ∀ requests, service.account supply (early ++ .allocate kind :: requests) =
      requests.foldl service.serve (service.serve (service.account supply early)
        (.allocate kind)) := by
    intro requests
    rw [account, List.foldl_append, List.foldl_cons]
    rfl
  have served : service.serve (service.account supply early) (.allocate kind) =
      ⟨after, insert value (service.account supply early).live⟩ := by
    rw [serve, issued]
  -- Right after it was issued, the value stands at the end, and nothing behind it.
  have passed : Passed (order (service.serve (service.account supply early)
      (.allocate kind)).supply kind) value fun other => other = value := by
    obtain ⟨ahead, behind, _, _, turned, _⟩ := rotates.issued inStep.sound issued
    rw [served, turned, ← List.append_assoc]
    exact passed_concat _ rfl
  rw [later] at reissued
  rcases rotates.met_or_live accurate (accurate.serve inStep _) passed between reissued other
      belongs with rfl | ⟨moment, isEarly, live⟩
  · refine ⟨[], List.nil_prefix, ?_⟩
    rw [later, List.foldl_nil, served]
    exact Finset.mem_insert_self _ _
  · refine ⟨moment, isEarly, ?_⟩
    rw [later]
    exact live

end Rotates

end Service

/-! ## Ports and numbers -/

namespace MediaPorts

/-- The ports in the order in which a search goes over them. -/
def order (ports : MediaPorts) : List UInt16 := ports.pool.order.map ports.portAt

/-- Media ports are searched in a circle. -/
theorem rotates (base count : UInt16) :
    service.Rotates
      (fun ports => ports.Sound ∧ ports.base = base ∧ ports.count = count.toNat) isAllocated
      (fun ports _ => ports.order) (fun _ => Within base count) where
  nodup := by
    rintro ports ⟨sound, _⟩ _
    refine List.Nodup.map_on (fun first member second member' same => ?_) ports.pool.nodup_order
    have place := (contains_portAt sound.fits (Rotating.mem_order.mp member)).2
    rw [same, (contains_portAt sound.fits (Rotating.mem_order.mp member')).2] at place
    exact place.symm
  complete := by
    rintro ports ⟨sound, rfl, same⟩ _ port within
    have inside : ports.contains port = true := by
      rw [contains_iff, same]
      exact within
    rw [contains, Bool.and_eq_true, decide_eq_true_iff, decide_eq_true_iff] at inside
    exact List.mem_map.mpr ⟨ports.index port, Rotating.mem_order.mpr inside.2,
      portAt_index ports port⟩
  issued := by
    rintro before after _ port ⟨sound, _⟩ issued
    obtain ⟨index, pool, found, rfl, rfl⟩ := allocate_eq_ok issued
    obtain ⟨ahead, behind, split, taken, turned⟩ :=
      Rotating.order_of_allocate? sound.pool_sound found
    refine ⟨ahead.map before.portAt, behind.map before.portAt, ?_, ?_, ?_, ?_⟩
    · rw [order, split, List.map_append, List.map_cons]
    · intro other member
      obtain ⟨earlier, inFront, rfl⟩ := List.mem_map.mp member
      have isTaken := taken earlier inFront
      rw [isAllocated_portAt sound (sound.pool_sound.taken_lt earlier isTaken)]
      exact isTaken
    · show pool.order.map before.portAt = _
      rw [turned, List.map_append, List.map_append, List.map_singleton]
    · intro other differs
      exact absurd rfl differs
  returned := by
    intro before after port released _
    obtain ⟨pool, given, rfl⟩ := release_eq_ok released
    obtain ⟨_, rfl⟩ := Rotating.release?_eq_some given
    rfl

end MediaPorts

namespace SessionIds

/-- The numbers of a direction in the order in which a search goes over them. -/
def order (ids : SessionIds) (direction : Direction) : List SessionId :=
  (ids.pool direction).order.map (ids.number direction)

/-- The numbers of each direction are searched in a circle. -/
theorem rotates (size : UInt32) :
    service.Rotates (fun ids => ids.Sound ∧ ids.size = size) isAllocated order
      (Belongs size) where
  nodup := by
    rintro ids ⟨sound, _⟩ direction
    refine List.Nodup.map_on (fun first member second member' same => ?_)
      (ids.pool direction).nodup_order
    rw [Rotating.mem_order, sound.pool_size] at member member'
    exact number_inj sound.fits member member' same
  complete := by
    rintro ids ⟨sound, rfl⟩ direction id belongs
    refine List.mem_map.mpr ⟨ids.index direction id, ?_, number_index ids direction id⟩
    rw [Rotating.mem_order, sound.pool_size]
    exact belongs.index_lt.2
  issued := by
    rintro before after direction id ⟨sound, _⟩ issued
    obtain ⟨index, pool, found, rfl, rfl⟩ := allocate_eq_ok issued
    have poolSound := sound.pool_sound direction
    obtain ⟨ahead, behind, split, taken, turned⟩ := Rotating.order_of_allocate? poolSound found
    refine ⟨ahead.map (before.number direction), behind.map (before.number direction),
      ?_, ?_, ?_, ?_⟩
    · rw [order, split, List.map_append, List.map_cons]
    · intro other member
      obtain ⟨earlier, inFront, rfl⟩ := List.mem_map.mp member
      have isTaken := taken earlier inFront
      have bound := poolSound.taken_lt earlier isTaken
      rw [sound.pool_size] at bound
      rw [isAllocated_number sound bound]
      exact isTaken
    · have numbers : (before.setPool direction pool).order direction =
          pool.order.map (before.number direction) := by
        cases direction <;> rfl
      rw [numbers, turned, List.map_append, List.map_append, List.map_singleton]
    · intro other differs
      cases direction with
      | inbound =>
        cases other with
        | inbound => exact absurd rfl differs
        | outbound => rfl
      | outbound =>
        cases other with
        | inbound => rfl
        | outbound => exact absurd rfl differs
  returned := by
    intro before after id released other
    obtain ⟨direction, pool, _, given, rfl⟩ := release_eq_ok released
    obtain ⟨_, rfl⟩ := Rotating.release?_eq_some given
    cases direction <;> cases other <;> rfl

end SessionIds

/-- **A value is issued again only after all others have been in use:** between two moments at which
a supply of ports issues the same port, every port of the range is live at some moment, and likewise
for the numbers of each direction, after whatever requests. -/
theorem reissued_after_all_others (base count : UInt16) (size : UInt32)
    (portsFit : base.toNat + count.toNat ≤ UInt16.size)
    (numbersFit : size.toNat * 2 < UInt32.size) :
    MediaPorts.service.Recycles (MediaPorts.ofRange base count)
        (fun _ => MediaPorts.Within base count) ∧
      SessionIds.service.Recycles (SessionIds.ofSize size) (SessionIds.Belongs size) := by
  constructor
  · exact (MediaPorts.rotates base count).recycles (MediaPorts.accurate base count)
      ⟨MediaPorts.sound_ofRange portsFit, rfl, rfl⟩ (MediaPorts.isAllocated_ofRange base count)
  · exact (SessionIds.rotates size).recycles (SessionIds.accurate size)
      ⟨SessionIds.sound_ofSize numbersFit, rfl⟩ (SessionIds.isAllocated_ofSize size)

/-- The first of three ports is given back at once. It is issued again after the last one of them
has been in use, and so is the first of two inbound numbers, with a request for an outbound one in
between. -/
theorem reissued_after_all_others_three_ports :
    (∃ moment, moment <+: [.release 65533, .allocate (), .allocate (), .release 65534] ∧
      65535 ∈ (MediaPorts.service.account (MediaPorts.ofRange 65533 3)
        (.allocate () :: moment)).live) ∧
    ∃ moment, moment <+: [.allocate .outbound, .release ⟨0⟩, .allocate .inbound] ∧
      ⟨1⟩ ∈ (SessionIds.service.account (SessionIds.ofSize 2)
        (.allocate .inbound :: moment)).live := by
  obtain ⟨ports, numbers⟩ := reissued_after_all_others 65533 3 2 (by decide) (by decide)
  have port : ∃ after again, MediaPorts.service.allocate (MediaPorts.service.account
        (MediaPorts.ofRange 65533 3) []).supply () = .ok (65533, after) ∧
      MediaPorts.service.allocate (MediaPorts.service.account (MediaPorts.ofRange 65533 3)
        [.allocate (), .release 65533, .allocate (), .allocate (), .release 65534]).supply () =
          .ok (65533, again) := ⟨_, _, rfl, rfl⟩
  have number : ∃ after again, SessionIds.service.allocate (SessionIds.service.account
        (SessionIds.ofSize 2) []).supply .inbound = .ok (⟨0⟩, after) ∧
      SessionIds.service.allocate (SessionIds.service.account (SessionIds.ofSize 2)
        [.allocate .inbound, .allocate .outbound, .release ⟨0⟩, .allocate .inbound]).supply
          .inbound = .ok (⟨0⟩, again) := ⟨_, _, rfl, rfl⟩
  obtain ⟨_, _, issued, reissued⟩ := port
  obtain ⟨_, _, issued', reissued'⟩ := number
  exact ⟨ports [] _ () 65533 _ _ issued reissued 65535 ⟨by decide, by decide⟩,
    numbers [] _ .inbound ⟨0⟩ _ _ issued' reissued' ⟨1⟩ (by decide)⟩

end FaxRelay.Pool
