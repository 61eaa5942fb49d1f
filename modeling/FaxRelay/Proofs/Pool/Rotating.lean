import FaxRelay.Pool.Rotating

/-!
# What a rotating pool issues and takes back

A pool is sound when everything taken, and the cursor, lie within its size. What
a sound pool issues was free before. Giving it back restores the set of taken
numbers, and only the cursor has moved (`SameTaken`).
-/

set_option autoImplicit false

namespace FaxRelay.Pool.Rotating

/-! ## The set of taken numbers -/

theorem compare_beq_eq (left right : Nat) :
    (compare left right == .eq) = decide (left = right) := by
  rw [Bool.eq_iff_iff, beq_iff_eq, decide_eq_true_iff, Nat.compare_eq_eq]

theorem contains_insert (taken : Std.ExtTreeSet Nat) (index other : Nat) :
    (taken.insert index).contains other = (decide (other = index) || taken.contains other) := by
  rw [Std.ExtTreeSet.contains_insert, compare_beq_eq, decide_eq_decide.mpr eq_comm]

theorem contains_erase (taken : Std.ExtTreeSet Nat) (index other : Nat) :
    (taken.erase index).contains other = (!decide (other = index) && taken.contains other) := by
  rw [Std.ExtTreeSet.contains_erase, bne, compare_beq_eq, decide_eq_decide.mpr eq_comm]

theorem erase_insert {taken : Std.ExtTreeSet Nat} {index : Nat}
    (free : taken.contains index = false) : (taken.insert index).erase index = taken := by
  apply Std.ExtTreeSet.ext_contains
  intro other
  rw [contains_erase, contains_insert]
  by_cases same : other = index
  · subst same
    simpa using free.symm
  · simp [same]

theorem size_insert {taken : Std.ExtTreeSet Nat} {index : Nat}
    (free : taken.contains index = false) : (taken.insert index).size = taken.size + 1 := by
  rw [Std.ExtTreeSet.size_insert, if_neg (Bool.eq_false_iff.mp free)]

theorem size_erase {taken : Std.ExtTreeSet Nat} {index : Nat}
    (held : taken.contains index = true) : (taken.erase index).size = taken.size - 1 := by
  rw [Std.ExtTreeSet.size_erase, if_pos held]

/-! ## Sound pools -/

/-- A pool whose taken numbers and whose cursor lie within its size, and whose count is right. -/
structure Sound (pool : Rotating) : Prop where
  taken_lt : ∀ index, pool.isTaken index = true → index < pool.size
  cursor_le : pool.cursor ≤ pool.size
  inUse_eq : pool.inUse = pool.taken.size

/-- Two states of a pool between which at most the cursor has moved. -/
structure SameTaken (before after : Rotating) : Prop where
  size_eq : after.size = before.size
  taken_eq : after.taken = before.taken
  inUse_eq : after.inUse = before.inUse

theorem SameTaken.refl (pool : Rotating) : pool.SameTaken pool := ⟨rfl, rfl, rfl⟩

theorem SameTaken.trans {first second third : Rotating} (earlier : first.SameTaken second)
    (later : second.SameTaken third) : first.SameTaken third :=
  ⟨later.size_eq.trans earlier.size_eq, later.taken_eq.trans earlier.taken_eq,
    later.inUse_eq.trans earlier.inUse_eq⟩

theorem SameTaken.isTaken {before after : Rotating} (same : before.SameTaken after)
    (index : Nat) : after.isTaken index = before.isTaken index := by
  rw [Rotating.isTaken, Rotating.isTaken, same.taken_eq]

theorem isTaken_ofSize (size index : Nat) : (ofSize size).isTaken index = false := by
  rw [isTaken, ofSize, Std.ExtTreeSet.contains_empty]

theorem sound_ofSize (size : Nat) : (ofSize size).Sound where
  taken_lt index taken := by
    rw [isTaken_ofSize] at taken
    cases taken
  cursor_le := Nat.zero_le size
  inUse_eq := Std.ExtTreeSet.size_empty.symm

theorem firstFree?_eq_some {taken : Std.ExtTreeSet Nat} {start count index : Nat}
    (found : firstFree? taken start count = some index) :
    start ≤ index ∧ index < start + count ∧ taken.contains index = false := by
  induction count generalizing start with
  | zero => cases found
  | succ count ih =>
    rw [firstFree?] at found
    split at found
    · obtain ⟨lower, upper, free⟩ := ih found
      exact ⟨by omega, by omega, free⟩
    · next free =>
      cases found
      exact ⟨Nat.le_refl _, by omega, Bool.eq_false_iff.mpr free⟩

/-- What a sound pool issues is below its size and was free, and now it is taken. -/
theorem allocate?_eq_some {pool after : Rotating} {index : Nat} (sound : pool.Sound)
    (found : pool.allocate? = some (index, after)) :
    index < pool.size ∧ pool.isTaken index = false ∧
      after = ⟨pool.size, pool.taken.insert index, (index + 1) % pool.size, pool.inUse + 1⟩ := by
  obtain ⟨next, free, same⟩ := Option.map_eq_some_iff.mp found
  obtain ⟨rfl, rfl⟩ := Prod.mk.inj same
  have bound := sound.cursor_le
  rw [next?] at free
  split at free
  · cases free
  · rcases Option.or_eq_some_iff.mp free with later | ⟨_, earlier⟩
    · obtain ⟨_, upper, untaken⟩ := firstFree?_eq_some later
      exact ⟨by omega, untaken, rfl⟩
    · obtain ⟨_, upper, untaken⟩ := firstFree?_eq_some earlier
      exact ⟨by omega, untaken, rfl⟩

theorem isTaken_allocate? {pool after : Rotating} {index : Nat} (sound : pool.Sound)
    (found : pool.allocate? = some (index, after)) (other : Nat) :
    after.isTaken other = (decide (other = index) || pool.isTaken other) := by
  obtain ⟨_, _, rfl⟩ := allocate?_eq_some sound found
  exact contains_insert pool.taken index other

theorem Sound.allocate? {pool after : Rotating} {index : Nat} (sound : pool.Sound)
    (found : pool.allocate? = some (index, after)) : after.Sound := by
  have taken := isTaken_allocate? sound found
  obtain ⟨bound, free, rfl⟩ := allocate?_eq_some sound found
  refine ⟨fun other isTaken => ?_, Nat.le_of_lt (Nat.mod_lt _ (by omega)), ?_⟩
  · rw [taken, Bool.or_eq_true, decide_eq_true_iff] at isTaken
    rcases isTaken with rfl | isTaken
    · exact bound
    · exact sound.taken_lt other isTaken
  · show pool.inUse + 1 = (pool.taken.insert index).size
    rw [size_insert free, sound.inUse_eq]

theorem release?_of_isTaken {pool : Rotating} {index : Nat} (taken : pool.isTaken index = true) :
    pool.release? index =
      some ⟨pool.size, pool.taken.erase index, pool.cursor, pool.inUse - 1⟩ :=
  if_pos taken

theorem release?_eq_some {pool after : Rotating} {index : Nat}
    (released : pool.release? index = some after) :
    pool.isTaken index = true ∧
      after = ⟨pool.size, pool.taken.erase index, pool.cursor, pool.inUse - 1⟩ := by
  rw [release?] at released
  split at released
  · next taken => exact ⟨taken, (Option.some.inj released).symm⟩
  · cases released

theorem isTaken_release? {pool after : Rotating} {index : Nat}
    (released : pool.release? index = some after) (other : Nat) :
    after.isTaken other = (!decide (other = index) && pool.isTaken other) := by
  obtain ⟨_, rfl⟩ := release?_eq_some released
  exact contains_erase pool.taken index other

theorem Sound.release? {pool after : Rotating} {index : Nat} (sound : pool.Sound)
    (released : pool.release? index = some after) : after.Sound := by
  have taken := isTaken_release? released
  obtain ⟨held, rfl⟩ := release?_eq_some released
  refine ⟨fun other isTaken => ?_, sound.cursor_le, ?_⟩
  · rw [taken, Bool.and_eq_true] at isTaken
    exact sound.taken_lt other isTaken.2
  · show pool.inUse - 1 = (pool.taken.erase index).size
    rw [size_erase held, sound.inUse_eq]

/-- Giving back what was issued restores what was taken, also when the cursor has moved on in
between. -/
theorem release?_allocate? {pool after now : Rotating} {index : Nat} (sound : pool.Sound)
    (found : pool.allocate? = some (index, after)) (same : after.SameTaken now) :
    ∃ returned, now.release? index = some returned ∧ pool.SameTaken returned := by
  have taken : now.isTaken index = true := by
    rw [same.isTaken, isTaken_allocate? sound found, decide_eq_true rfl, Bool.true_or]
  obtain ⟨_, free, rfl⟩ := allocate?_eq_some sound found
  refine ⟨_, release?_of_isTaken taken, same.size_eq, ?_, ?_⟩
  · show now.taken.erase index = pool.taken
    rw [same.taken_eq]
    exact erase_insert free
  · show now.inUse - 1 = pool.inUse
    rw [same.inUse_eq]
    exact Nat.add_sub_cancel ..

end FaxRelay.Pool.Rotating
