import FaxRelay.Pool.MediaPorts
import FaxRelay.Proofs.Pool.Rotating

/-!
# The set of allocated media ports

A supply of ports is sound when its range fits a word and its pool is sound. As
with session numbers, it is then described by the set of allocated ports, to
which issuing adds one port that was free and from which giving back removes one.
-/

set_option autoImplicit false

namespace FaxRelay.Pool.MediaPorts

/-! ## Sound supplies -/

/-- The port at a distance from the first one. -/
def portAt (ports : MediaPorts) (index : Nat) : UInt16 := ports.base + UInt16.ofNat index

/-- A supply of ports whose range fits a word, with a sound pool. -/
structure Sound (ports : MediaPorts) : Prop where
  fits : ports.base.toNat + ports.count ≤ UInt16.size
  pool_sound : ports.pool.Sound

/-- Two states of a supply between which at most the cursor has moved. -/
structure SameTaken (before after : MediaPorts) : Prop where
  base_eq : after.base = before.base
  pool : before.pool.SameTaken after.pool

theorem SameTaken.refl (ports : MediaPorts) : ports.SameTaken ports :=
  ⟨rfl, Rotating.SameTaken.refl _⟩

theorem SameTaken.trans {first second third : MediaPorts} (earlier : first.SameTaken second)
    (later : second.SameTaken third) : first.SameTaken third :=
  ⟨later.base_eq.trans earlier.base_eq, earlier.pool.trans later.pool⟩

/-- The supply `after` has `port` taken besides what `before` has: giving it back restores what was
allocated, wherever the cursor is by then. -/
def Lent (before : MediaPorts) (port : UInt16) (after : MediaPorts) : Prop :=
  ∀ ⦃now : MediaPorts⦄, after.SameTaken now →
    ∃ returned, now.release port = .ok returned ∧ before.SameTaken returned

theorem Lent.of_sameTaken {earlier before after later : MediaPorts} {port : UInt16}
    (lent : before.Lent port after) (start : earlier.SameTaken before)
    (finish : after.SameTaken later) : earlier.Lent port later := by
  intro now same
  obtain ⟨returned, released, restored⟩ := lent (finish.trans same)
  exact ⟨returned, released, start.trans restored⟩

theorem sound_ofRange {base count : UInt16} (fits : base.toNat + count.toNat ≤ UInt16.size) :
    (ofRange base count).Sound :=
  ⟨fits, Rotating.sound_ofSize _⟩

theorem isAllocated_ofRange (base count port : UInt16) :
    (ofRange base count).isAllocated port = false := by
  have untaken : (ofRange base count).pool.isTaken ((ofRange base count).index port) = false :=
    Rotating.isTaken_ofSize _ _
  rw [isAllocated, untaken, Bool.and_false]

theorem index_eq_of_base_eq {ports other : MediaPorts} (same : other.base = ports.base)
    (port : UInt16) : other.index port = ports.index port := by
  rw [index, index, same]

theorem portAt_index (ports : MediaPorts) (port : UInt16) :
    ports.portAt (ports.index port) = port := by
  rw [portAt, index, UInt16.ofNat_toNat, UInt16.add_comm, UInt16.sub_add_cancel]

/-- A distance within the range is found again from its port. -/
theorem contains_portAt {ports : MediaPorts} (fits : ports.base.toNat + ports.count ≤ UInt16.size)
    {index : Nat} (bound : index < ports.count) :
    ports.contains (ports.portAt index) = true ∧ ports.index (ports.portAt index) = index := by
  have size_lt : UInt16.size = 65536 := rfl
  have small : (UInt16.ofNat index).toNat = index := UInt16.toNat_ofNat_of_lt' (by omega)
  have value : (ports.portAt index).toNat = ports.base.toNat + index := by
    rw [portAt, UInt16.toNat_add, small]
    exact Nat.mod_eq_of_lt (by omega)
  have least : ports.base ≤ ports.portAt index := by
    rw [UInt16.le_iff_toNat_le, value]
    omega
  have place : ports.index (ports.portAt index) = index := by
    rw [MediaPorts.index, UInt16.toNat_sub_of_le _ _ least, value]
    omega
  refine ⟨?_, place⟩
  rw [contains, place, Bool.and_eq_true]
  exact ⟨decide_eq_true least, decide_eq_true bound⟩

theorem SameTaken.isAllocated {before after : MediaPorts} (same : before.SameTaken after)
    (port : UInt16) : after.isAllocated port = before.isAllocated port := by
  rw [MediaPorts.isAllocated, MediaPorts.isAllocated, contains, contains, count, count,
    index_eq_of_base_eq same.base_eq, same.base_eq, same.pool.size_eq, same.pool.isTaken]

theorem isAllocated_withPool {ports : MediaPorts} {pool : Rotating}
    (size_eq : pool.size = ports.pool.size) (port : UInt16) :
    (MediaPorts.mk ports.base pool).isAllocated port =
      (ports.contains port && pool.isTaken (ports.index port)) := by
  rw [isAllocated, contains, contains, count, count, size_eq]
  rfl

theorem allocate_eq_ok {ports after : MediaPorts} {port : UInt16}
    (issued : ports.allocate = .ok (port, after)) :
    ∃ index pool, ports.pool.allocate? = some (index, pool) ∧ port = ports.portAt index ∧
      after = ⟨ports.base, pool⟩ := by
  rw [allocate] at issued
  split at issued
  · cases issued
  · next index pool found =>
    cases issued
    exact ⟨index, pool, found, rfl, rfl⟩

theorem release_eq_ok {ports after : MediaPorts} {port : UInt16}
    (released : ports.release port = .ok after) :
    ∃ pool, ports.pool.release? (ports.index port) = some pool ∧ after = ⟨ports.base, pool⟩ := by
  rw [release] at released
  split at released
  · split at released
    · cases released
    · next pool returned =>
      cases released
      exact ⟨pool, returned, rfl⟩
  · cases released

theorem release_of_isAllocated {ports : MediaPorts} {port : UInt16}
    (allocated : ports.isAllocated port = true) : ∃ after, ports.release port = .ok after := by
  rw [isAllocated, Bool.and_eq_true] at allocated
  rw [release, if_pos allocated.1, Rotating.release?_of_isTaken allocated.2]
  exact ⟨_, rfl⟩

section Allocation

variable {ports after : MediaPorts} {port : UInt16}
variable (sound : ports.Sound) (issued : ports.allocate = .ok (port, after))
include sound issued

theorem Sound.allocate : after.Sound := by
  obtain ⟨index, pool, found, rfl, rfl⟩ := allocate_eq_ok issued
  refine ⟨?_, sound.pool_sound.allocate? found⟩
  obtain ⟨_, _, rfl⟩ := Rotating.allocate?_eq_some sound.pool_sound found
  exact sound.fits

/-- A port is issued only while nobody holds it. -/
theorem isAllocated_of_allocate : ports.isAllocated port = false := by
  obtain ⟨index, pool, found, rfl, rfl⟩ := allocate_eq_ok issued
  obtain ⟨bound, free, _⟩ := Rotating.allocate?_eq_some sound.pool_sound found
  rw [isAllocated, (contains_portAt sound.fits bound).2, free, Bool.and_false]

/-- After a port was issued, it is allocated besides what was allocated before. -/
theorem isAllocated_allocate (other : UInt16) :
    after.isAllocated other = (decide (other = port) || ports.isAllocated other) := by
  obtain ⟨index, pool, found, rfl, rfl⟩ := allocate_eq_ok issued
  obtain ⟨bound, _, poolAfter⟩ := Rotating.allocate?_eq_some sound.pool_sound found
  obtain ⟨inside, place⟩ := contains_portAt sound.fits bound
  have samePlace : decide (ports.index other = index) = decide (other = ports.portAt index) :=
    decide_eq_decide.mpr
      ⟨fun equal => by rw [← equal, portAt_index], fun equal => by rw [equal, place]⟩
  have size_eq : pool.size = ports.pool.size := by rw [poolAfter]
  rw [isAllocated_withPool size_eq, isAllocated,
    Rotating.isTaken_allocate? sound.pool_sound found, samePlace]
  by_cases same : other = ports.portAt index
  · rw [decide_eq_true same, same, inside]
    rfl
  · rw [decide_eq_false same, Bool.false_or, Bool.false_or]

/-- A port that was issued is lent. -/
theorem lent_allocate : ports.Lent port after := by
  intro now same
  have allocated : now.isAllocated port = true := by
    rw [same.isAllocated, isAllocated_allocate sound issued, decide_eq_true rfl, Bool.true_or]
  obtain ⟨returned, released⟩ := release_of_isAllocated allocated
  refine ⟨returned, released, ?_⟩
  obtain ⟨pool, given, rfl⟩ := release_eq_ok released
  obtain ⟨index, taken, found, rfl, rfl⟩ := allocate_eq_ok issued
  obtain ⟨bound, _⟩ := Rotating.allocate?_eq_some sound.pool_sound found
  rw [index_eq_of_base_eq same.base_eq] at given
  change now.pool.release? (ports.index (ports.portAt index)) = some pool at given
  rw [(contains_portAt sound.fits bound).2] at given
  obtain ⟨restored, again, restores⟩ :=
    Rotating.release?_allocate? sound.pool_sound found same.pool
  cases given.symm.trans again
  exact ⟨same.base_eq, restores⟩

end Allocation

section Release

variable {ports after : MediaPorts} {port : UInt16} (released : ports.release port = .ok after)
include released

theorem Sound.release (sound : ports.Sound) : after.Sound := by
  obtain ⟨pool, returned, rfl⟩ := release_eq_ok released
  refine ⟨?_, sound.pool_sound.release? returned⟩
  obtain ⟨_, rfl⟩ := Rotating.release?_eq_some returned
  exact sound.fits

/-- After a port was given back, everything else is allocated that was allocated before. -/
theorem isAllocated_release (other : UInt16) :
    after.isAllocated other = (!decide (other = port) && ports.isAllocated other) := by
  obtain ⟨pool, returned, rfl⟩ := release_eq_ok released
  obtain ⟨_, poolAfter⟩ := Rotating.release?_eq_some returned
  have samePlace : decide (ports.index other = ports.index port) = decide (other = port) :=
    decide_eq_decide.mpr
      ⟨fun equal => by rw [← portAt_index ports other, equal, portAt_index],
        fun equal => by rw [equal]⟩
  have size_eq : pool.size = ports.pool.size := by rw [poolAfter]
  rw [isAllocated_withPool size_eq, isAllocated, Rotating.isTaken_release? returned, samePlace]
  cases ports.contains other <;> simp

theorem isAllocated_of_release : ports.isAllocated port = true := by
  have contained : ports.contains port = true := by
    rw [release] at released
    split at released
    · next contained => exact contained
    · cases released
  obtain ⟨pool, returned, rfl⟩ := release_eq_ok released
  rw [isAllocated, contained, (Rotating.release?_eq_some returned).1]
  rfl

end Release

/-- A port that is lent was free before, and now it is allocated besides what was allocated
before. -/
theorem Lent.isAllocated {before after : MediaPorts} {port : UInt16}
    (lent : before.Lent port after) :
    before.isAllocated port = false ∧
      ∀ other, after.isAllocated other = (decide (other = port) || before.isAllocated other) := by
  obtain ⟨returned, released, same⟩ := lent (SameTaken.refl after)
  have restored : ∀ other, before.isAllocated other =
      (!decide (other = port) && after.isAllocated other) := by
    intro other
    rw [← same.isAllocated, isAllocated_release released]
  refine ⟨by rw [restored, decide_eq_true rfl]; rfl, fun other => ?_⟩
  by_cases equal : other = port
  · subst equal
    rw [isAllocated_of_release released, decide_eq_true rfl, Bool.true_or]
  · rw [restored, decide_eq_false equal]
    rfl

end FaxRelay.Pool.MediaPorts
