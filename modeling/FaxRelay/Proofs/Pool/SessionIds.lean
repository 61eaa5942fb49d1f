import FaxRelay.Pool.SessionIds
import FaxRelay.Proofs.Pool.Rotating

/-!
# The set of allocated session numbers

A supply of session numbers is sound when both its ranges fit a word and both
its pools are sound. It is then described by the set of allocated numbers: a
number is issued only while it is not in the set, issuing adds it and nothing
else, and giving it back removes it and nothing else.
-/

set_option autoImplicit false

namespace FaxRelay.Pool.SessionIds

/-! ## Sound supplies -/

/-- The number at a place in the range of a direction. -/
def number (ids : SessionIds) (direction : Direction) (index : Nat) : SessionId :=
  ⟨ids.base direction + UInt32.ofNat index⟩

/-- A supply of numbers whose two ranges fit a word, with sound pools of the right size. -/
structure Sound (ids : SessionIds) : Prop where
  fits : ids.size.toNat * 2 < UInt32.size
  pool_size : ∀ direction, (ids.pool direction).size = ids.size.toNat
  pool_sound : ∀ direction, (ids.pool direction).Sound

/-- Two states of a supply between which at most the cursors have moved. -/
structure SameTaken (before after : SessionIds) : Prop where
  size_eq : after.size = before.size
  pools : ∀ direction, (before.pool direction).SameTaken (after.pool direction)

theorem SameTaken.refl (ids : SessionIds) : ids.SameTaken ids :=
  ⟨rfl, fun _ => Rotating.SameTaken.refl _⟩

theorem SameTaken.trans {first second third : SessionIds} (earlier : first.SameTaken second)
    (later : second.SameTaken third) : first.SameTaken third :=
  ⟨later.size_eq.trans earlier.size_eq,
    fun direction => (earlier.pools direction).trans (later.pools direction)⟩

/-- The supply `after` has `id` taken besides what `before` has: giving it back restores what was
allocated, wherever the cursors are by then. -/
def Lent (before : SessionIds) (id : SessionId) (after : SessionIds) : Prop :=
  ∀ ⦃now : SessionIds⦄, after.SameTaken now →
    ∃ returned, now.release id = .ok returned ∧ before.SameTaken returned

theorem Lent.of_sameTaken {earlier before after later : SessionIds} {id : SessionId}
    (lent : before.Lent id after) (start : earlier.SameTaken before)
    (finish : after.SameTaken later) : earlier.Lent id later := by
  intro now same
  obtain ⟨returned, released, restored⟩ := lent (finish.trans same)
  exact ⟨returned, released, start.trans restored⟩

@[simp] theorem size_setPool (ids : SessionIds) (direction : Direction) (pool : Rotating) :
    (ids.setPool direction pool).size = ids.size := by
  cases direction <;> rfl

theorem pool_setPool (ids : SessionIds) (direction other : Direction) (pool : Rotating) :
    (ids.setPool direction pool).pool other =
      if other = direction then pool else ids.pool other := by
  cases direction <;> cases other <;> rfl

theorem base_eq_of_size_eq {ids other : SessionIds} (same : other.size = ids.size)
    (direction : Direction) : other.base direction = ids.base direction := by
  cases direction
  · rfl
  · exact same

theorem direction?_eq_of_size_eq {ids other : SessionIds} (same : other.size = ids.size)
    (id : SessionId) : other.direction? id = ids.direction? id := by
  rw [direction?, direction?, same]

theorem index_eq_of_size_eq {ids other : SessionIds} (same : other.size = ids.size)
    (direction : Direction) (id : SessionId) :
    other.index direction id = ids.index direction id := by
  rw [index, index, base_eq_of_size_eq same]

theorem sound_ofSize {size : UInt32} (fits : size.toNat * 2 < UInt32.size) :
    (ofSize size).Sound where
  fits := fits
  pool_size direction := by cases direction <;> rfl
  pool_sound direction := by cases direction <;> exact Rotating.sound_ofSize _

/-- The two ranges do not overlap: a place in one of them is found again from its number. -/
theorem direction?_number {ids : SessionIds} (fits : ids.size.toNat * 2 < UInt32.size)
    (direction : Direction) {index : Nat} (bound : index < ids.size.toNat) :
    ids.direction? (ids.number direction index) = some direction ∧
      ids.index direction (ids.number direction index) = index := by
  have size_lt : UInt32.size = 4294967296 := rfl
  have double : (ids.size * 2).toNat = ids.size.toNat * 2 := by
    rw [UInt32.toNat_mul]
    exact Nat.mod_eq_of_lt fits
  have small : (UInt32.ofNat index).toNat = index := UInt32.toNat_ofNat_of_lt' (by omega)
  cases direction with
  | inbound =>
    have value : (ids.number .inbound index).value.toNat = index := by
      simp [number, base, small]
    constructor
    · rw [direction?, if_pos]
      rw [UInt32.lt_iff_toNat_lt, value]
      exact bound
    · rw [SessionIds.index, base, UInt32.sub_zero, value]
  | outbound =>
    have value : (ids.number .outbound index).value.toNat = ids.size.toNat + index := by
      rw [number, base, UInt32.toNat_add, small]
      exact Nat.mod_eq_of_lt (by omega)
    constructor
    · rw [direction?, if_neg, if_pos]
      · rw [UInt32.lt_iff_toNat_lt, value, double]
        omega
      · rw [UInt32.lt_iff_toNat_lt, value]
        omega
    · rw [SessionIds.index, base, UInt32.toNat_sub_of_le _ _ (by
        rw [UInt32.le_iff_toNat_le, value]
        omega), value]
      omega

/-- Every number is the one at its own place. -/
theorem number_index (ids : SessionIds) (direction : Direction) (id : SessionId) :
    ids.number direction (ids.index direction id) = id := by
  rw [number, index, UInt32.ofNat_toNat, UInt32.add_comm, UInt32.sub_add_cancel]

theorem isAllocated_of_direction? {ids : SessionIds} {direction : Direction} {id : SessionId}
    (found : ids.direction? id = some direction) :
    ids.isAllocated id = (ids.pool direction).isTaken (ids.index direction id) := by
  rw [isAllocated, found]

theorem isAllocated_ofSize (size : UInt32) (id : SessionId) :
    (ofSize size).isAllocated id = false := by
  cases place : (ofSize size).direction? id with
  | none => rw [isAllocated, place]
  | some direction =>
    rw [isAllocated_of_direction? place]
    cases direction <;> exact Rotating.isTaken_ofSize _ _

theorem SameTaken.isAllocated {before after : SessionIds} (same : before.SameTaken after)
    (id : SessionId) : after.isAllocated id = before.isAllocated id := by
  rw [SessionIds.isAllocated, SessionIds.isAllocated, direction?_eq_of_size_eq same.size_eq]
  cases before.direction? id with
  | none => rfl
  | some direction =>
    show (after.pool direction).isTaken _ = (before.pool direction).isTaken _
    rw [index_eq_of_size_eq same.size_eq, (same.pools direction).isTaken]

/-! ## Issuing and taking back numbers -/

theorem allocate_eq_ok {ids after : SessionIds} {direction : Direction} {id : SessionId}
    (issued : ids.allocate direction = .ok (id, after)) :
    ∃ index pool, (ids.pool direction).allocate? = some (index, pool) ∧
      id = ids.number direction index ∧ after = ids.setPool direction pool := by
  rw [allocate] at issued
  split at issued
  · cases issued
  · next index pool found =>
    cases issued
    exact ⟨index, pool, found, rfl, rfl⟩

theorem release_eq_ok {ids after : SessionIds} {id : SessionId}
    (released : ids.release id = .ok after) :
    ∃ direction pool, ids.direction? id = some direction ∧
      (ids.pool direction).release? (ids.index direction id) = some pool ∧
        after = ids.setPool direction pool := by
  rw [release] at released
  split at released
  · cases released
  · next direction found =>
    split at released
    · cases released
    · next pool returned =>
      cases released
      exact ⟨direction, pool, found, returned, rfl⟩

theorem Sound.setPool {ids : SessionIds} (sound : ids.Sound) {direction : Direction}
    {pool : Rotating} (size_eq : pool.size = (ids.pool direction).size) (pool_sound : pool.Sound) :
    (ids.setPool direction pool).Sound where
  fits := by
    rw [size_setPool]
    exact sound.fits
  pool_size other := by
    rw [size_setPool, pool_setPool]
    split
    · exact size_eq.trans (sound.pool_size direction)
    · exact sound.pool_size other
  pool_sound other := by
    rw [pool_setPool]
    split
    · exact pool_sound
    · exact sound.pool_sound other

section Allocation

variable {ids after : SessionIds} {direction : Direction} {id : SessionId}
variable (sound : ids.Sound) (issued : ids.allocate direction = .ok (id, after))
include sound issued

theorem Sound.allocate : after.Sound := by
  obtain ⟨index, pool, found, rfl, rfl⟩ := allocate_eq_ok issued
  refine sound.setPool ?_ ((sound.pool_sound direction).allocate? found)
  obtain ⟨_, _, rfl⟩ := Rotating.allocate?_eq_some (sound.pool_sound direction) found
  rfl

/-- A number is issued only while nobody holds it. -/
theorem isAllocated_of_allocate : ids.isAllocated id = false := by
  obtain ⟨index, pool, found, rfl, rfl⟩ := allocate_eq_ok issued
  obtain ⟨bound, free, _⟩ := Rotating.allocate?_eq_some (sound.pool_sound direction) found
  rw [sound.pool_size] at bound
  obtain ⟨place, same⟩ := direction?_number sound.fits direction bound
  rw [isAllocated_of_direction? place, same]
  exact free

/-- After a number was issued, it is allocated besides what was allocated before. -/
theorem isAllocated_allocate (other : SessionId) :
    after.isAllocated other = (decide (other = id) || ids.isAllocated other) := by
  obtain ⟨index, pool, found, rfl, rfl⟩ := allocate_eq_ok issued
  obtain ⟨bound, _⟩ := Rotating.allocate?_eq_some (sound.pool_sound direction) found
  rw [sound.pool_size] at bound
  obtain ⟨place, same⟩ := direction?_number sound.fits direction bound
  have sizes := size_setPool ids direction pool
  rw [isAllocated, isAllocated, direction?_eq_of_size_eq sizes]
  cases range : ids.direction? other with
  | none =>
    have differs : other ≠ ids.number direction index := by
      rintro rfl
      rw [place] at range
      cases range
    simp [differs]
  | some side =>
    show ((ids.setPool direction pool).pool side).isTaken _ =
      (decide (other = ids.number direction index) ||
        (ids.pool side).isTaken (ids.index side other))
    rw [pool_setPool, index_eq_of_size_eq sizes]
    by_cases sameSide : side = direction
    · subst sameSide
      have iff : ids.index side other = index ↔ other = ids.number side index :=
        ⟨fun equal => by rw [← equal, number_index], fun equal => by rw [equal, same]⟩
      rw [if_pos rfl, Rotating.isTaken_allocate? (sound.pool_sound side) found,
        decide_eq_decide.mpr iff]
    · have differs : other ≠ ids.number direction index := by
        rintro rfl
        rw [place] at range
        exact sameSide (Option.some.inj range).symm
      simp [sameSide, differs]

/-- A number that was issued is lent. -/
theorem lent_allocate : ids.Lent id after := by
  intro now same
  obtain ⟨index, pool, found, rfl, rfl⟩ := allocate_eq_ok issued
  obtain ⟨bound, _⟩ := Rotating.allocate?_eq_some (sound.pool_sound direction) found
  rw [sound.pool_size] at bound
  obtain ⟨place, place_eq⟩ := direction?_number sound.fits direction bound
  have size_eq : now.size = ids.size := same.size_eq.trans (size_setPool ids direction pool)
  have pools : pool.SameTaken (now.pool direction) := by
    have pools := same.pools direction
    rwa [pool_setPool, if_pos rfl] at pools
  obtain ⟨returned, released, restored⟩ :=
    Rotating.release?_allocate? (sound.pool_sound direction) found pools
  refine ⟨now.setPool direction returned, ?_, (size_setPool ..).trans size_eq, fun side => ?_⟩
  · simp only [release, direction?_eq_of_size_eq size_eq, place, index_eq_of_size_eq size_eq,
      place_eq, released]
  · have others := same.pools side
    rw [pool_setPool] at others ⊢
    by_cases sameSide : side = direction
    · subst sameSide
      rwa [if_pos rfl]
    · rwa [if_neg sameSide] at others ⊢

end Allocation

/-- A number that is allocated can be given back. -/
theorem release_of_isAllocated {ids : SessionIds} {id : SessionId}
    (allocated : ids.isAllocated id = true) : ∃ after, ids.release id = .ok after := by
  rw [isAllocated] at allocated
  cases range : ids.direction? id with
  | none =>
    rw [range] at allocated
    cases allocated
  | some direction =>
    rw [range] at allocated
    have taken : (ids.pool direction).isTaken (ids.index direction id) = true := allocated
    rw [release, range]
    simp only [Rotating.release?_of_isTaken taken]
    exact ⟨_, rfl⟩

section Release

variable {ids after : SessionIds} {id : SessionId} (released : ids.release id = .ok after)
include released

theorem Sound.release (sound : ids.Sound) : after.Sound := by
  obtain ⟨direction, pool, _, returned, rfl⟩ := release_eq_ok released
  refine sound.setPool ?_ ((sound.pool_sound direction).release? returned)
  obtain ⟨_, rfl⟩ := Rotating.release?_eq_some returned
  rfl

/-- After a number was given back, everything else is allocated that was allocated before. -/
theorem isAllocated_release (other : SessionId) :
    after.isAllocated other = (!decide (other = id) && ids.isAllocated other) := by
  obtain ⟨direction, pool, place, returned, rfl⟩ := release_eq_ok released
  have sizes := size_setPool ids direction pool
  rw [isAllocated, isAllocated, direction?_eq_of_size_eq sizes]
  cases range : ids.direction? other with
  | none => simp
  | some side =>
    show ((ids.setPool direction pool).pool side).isTaken _ =
      (!decide (other = id) && (ids.pool side).isTaken (ids.index side other))
    rw [pool_setPool, index_eq_of_size_eq sizes]
    by_cases sameSide : side = direction
    · subst sameSide
      have iff : ids.index side other = ids.index side id ↔ other = id :=
        ⟨fun equal => by rw [← number_index ids side other, equal, number_index],
          fun equal => by rw [equal]⟩
      rw [if_pos rfl, Rotating.isTaken_release? returned, decide_eq_decide.mpr iff]
    · have differs : other ≠ id := by
        rintro rfl
        rw [place] at range
        exact sameSide (Option.some.inj range).symm
      simp [sameSide, differs]

theorem isAllocated_of_release : ids.isAllocated id = true := by
  obtain ⟨direction, pool, place, returned, rfl⟩ := release_eq_ok released
  rw [isAllocated_of_direction? place]
  exact (Rotating.release?_eq_some returned).1

end Release

/-- A number that is lent was free before, and now it is allocated besides what was allocated
before. -/
theorem Lent.isAllocated {before after : SessionIds} {id : SessionId}
    (lent : before.Lent id after) :
    before.isAllocated id = false ∧
      ∀ other, after.isAllocated other = (decide (other = id) || before.isAllocated other) := by
  obtain ⟨returned, released, same⟩ := lent (SameTaken.refl after)
  have restored : ∀ other, before.isAllocated other =
      (!decide (other = id) && after.isAllocated other) := by
    intro other
    rw [← same.isAllocated, isAllocated_release released]
  refine ⟨by rw [restored, decide_eq_true rfl]; rfl, fun other => ?_⟩
  by_cases equal : other = id
  · subst equal
    rw [isAllocated_of_release released, decide_eq_true rfl, Bool.true_or]
  · rw [restored, decide_eq_false equal]
    rfl

end FaxRelay.Pool.SessionIds
