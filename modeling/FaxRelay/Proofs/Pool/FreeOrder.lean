import FaxRelay.Proofs.Pool.MediaPorts
import FaxRelay.Proofs.Pool.SessionIds
import Mathlib.Data.List.Rotate

/-!
# What a pool issues next

The free numbers of a pool in the order in which it will issue them: its range,
turned to the cursor, without what is taken (`Rotating.free`). A sound pool
issues the first number of this list, and what is left is the list of the pool
after that; it issues none only when the list is empty. As many numbers are free
as the list has.

The cursor has thereby been explained away: whatever follows speaks of the list
of free ports, and of the list of free numbers of each direction.
-/

set_option autoImplicit false

namespace FaxRelay.Pool

namespace Rotating

/-- The numbers of a pool in the order in which a search goes over them. -/
def order (pool : Rotating) : List Nat := (List.range pool.size).rotate pool.cursor

/-- The free numbers of a pool, the one that is issued next first. -/
def free (pool : Rotating) : List Nat := pool.order.filter fun index => !pool.isTaken index

theorem firstFree?_eq_find? (taken : Std.ExtTreeSet Nat) (start count : Nat) :
    firstFree? taken start count =
      (List.range' start count).find? fun index => !taken.contains index := by
  induction count generalizing start with
  | zero => rfl
  | succ count ih =>
    rw [firstFree?, List.range'_succ, List.find?_cons, ih]
    cases taken.contains start <;> rfl

theorem order_eq {pool : Rotating} (sound : pool.Sound) :
    pool.order =
      List.range' pool.cursor (pool.size - pool.cursor) ++ List.range' 0 pool.cursor := by
  have within : pool.cursor ≤ (List.range pool.size).length := by
    rw [List.length_range]
    exact sound.cursor_le
  rw [order, List.rotate_eq_drop_append_take within, List.range_eq_range', List.drop_range',
    List.take_range'_of_length_ge sound.cursor_le]
  simp

theorem nodup_order (pool : Rotating) : pool.order.Nodup :=
  List.nodup_rotate.mpr List.nodup_range

theorem mem_order {pool : Rotating} {index : Nat} : index ∈ pool.order ↔ index < pool.size := by
  rw [order, List.mem_rotate, List.mem_range]

theorem length_order (pool : Rotating) : pool.order.length = pool.size := by
  rw [order, List.length_rotate, List.length_range]

/-- Of a fresh pool everything is free, from zero on. -/
theorem free_ofSize (size : Nat) : (ofSize size).free = List.range size := by
  have unturned : (ofSize size).order = List.range size := List.rotate_zero _
  rw [free, unturned]
  exact List.filter_eq_self.mpr fun index _ => by rw [isTaken_ofSize]; rfl

/-- As many numbers are taken as the range has that are taken. -/
theorem inUse_eq {pool : Rotating} (sound : pool.Sound) :
    pool.inUse = (pool.order.filter pool.isTaken).length := by
  rw [sound.inUse_eq, ← Std.ExtTreeSet.length_toList]
  refine List.Perm.length_eq ((List.perm_ext_iff_of_nodup ?_ ?_).mpr fun index => ?_)
  · refine pool.taken.distinct_toList.imp fun differs same => differs ?_
    rw [same, Nat.compare_eq_eq]
  · exact pool.nodup_order.filter _
  · rw [Std.ExtTreeSet.mem_toList, List.mem_filter, mem_order, ← Std.ExtTreeSet.contains_iff_mem]
    exact ⟨fun taken => ⟨sound.taken_lt index taken, taken⟩, And.right⟩

/-- What is taken and what is free make up the range. -/
theorem inUse_add_length_free {pool : Rotating} (sound : pool.Sound) :
    pool.inUse + pool.free.length = pool.size := by
  rw [inUse_eq sound, free, ← pool.length_order]
  exact (List.length_eq_length_filter_add pool.isTaken).symm

theorem available_eq {pool : Rotating} (sound : pool.Sound) :
    pool.available = pool.free.length := by
  have sizes := inUse_add_length_free sound
  rw [available]
  omega

/-- A sound pool issues the first of its free numbers. -/
theorem next?_eq {pool : Rotating} (sound : pool.Sound) : pool.next? = pool.free.head? := by
  rw [next?]
  split
  · next full =>
    have sizes := inUse_add_length_free sound
    have nothing : pool.free = [] := List.eq_nil_of_length_eq_zero (by omega)
    rw [nothing]
    rfl
  · rw [free, List.head?_filter, order_eq sound, List.find?_append, firstFree?_eq_find?,
      firstFree?_eq_find?]
    rfl

/-- The range, turned to behind one of its numbers: what stands behind it comes first, and it comes
last itself. -/
theorem rotate_range_succ {size cursor index : Nat} {before after : List Nat}
    (split : (List.range size).rotate cursor = before ++ index :: after) :
    (List.range size).rotate ((index + 1) % size) = after ++ (before ++ [index]) := by
  have length : before.length < (List.range size).length := by
    rw [← List.length_rotate (List.range size) cursor, split]
    simp
  have place : index = (before.length + cursor) % size := by
    have found := List.getElem?_rotate (n := cursor) length
    rw [split, List.getElem?_append_right (Nat.le_refl _), Nat.sub_self, List.length_range,
      List.getElem?_range (Nat.mod_lt _ (by rw [List.length_range] at length; omega))] at found
    exact Option.some.inj found
  have turned : (before ++ index :: after).rotate (before ++ [index]).length =
      after ++ (before ++ [index]) := by
    rw [List.append_cons, List.rotate_append_length_eq]
  rw [← turned, ← split, List.rotate_rotate, ← List.rotate_mod _ (cursor + _), place,
    List.length_range, List.length_append, List.length_singleton, Nat.mod_add_mod]
  congr 2
  omega

/-- What a sound pool issues is the first free number in the order of the search. Everything in
front of it is taken, and the order after that begins behind it. -/
theorem order_of_allocate? {pool after : Rotating} {index : Nat} (sound : pool.Sound)
    (found : pool.allocate? = some (index, after)) :
    ∃ before behind, pool.order = before ++ index :: behind ∧
      (∀ earlier ∈ before, pool.isTaken earlier = true) ∧
      after.order = behind ++ (before ++ [index]) := by
  have isNext : pool.next? = some index := by
    obtain ⟨next, isNext, same⟩ := Option.map_eq_some_iff.mp found
    rw [isNext, (Prod.mk.inj same).1]
  rw [next?_eq sound] at isNext
  obtain ⟨_, _, rfl⟩ := allocate?_eq_some sound found
  obtain ⟨rest, shape⟩ : ∃ rest, pool.free = index :: rest := by
    cases shape : pool.free with
    | nil => rw [shape] at isNext; cases isNext
    | cons first rest => rw [shape] at isNext; cases isNext; exact ⟨rest, rfl⟩
  obtain ⟨before, behind, split, untaken, _, _⟩ := List.filter_eq_cons_iff.mp shape
  refine ⟨before, behind, split, fun earlier member => ?_, rotate_range_succ split⟩
  simpa using untaken earlier member

/-- **A sound pool issues its free numbers in order:** the first one comes out, and the others are
those of the pool after that. -/
theorem free_of_allocate? {pool after : Rotating} {index : Nat} (sound : pool.Sound)
    (found : pool.allocate? = some (index, after)) : pool.free = index :: after.free := by
  obtain ⟨before, behind, split, taken, turned⟩ := order_of_allocate? sound found
  obtain ⟨_, untaken, _⟩ := allocate?_eq_some sound found
  have allocated := isTaken_allocate? sound found
  have apart : index ∉ behind := by
    have nodup := pool.nodup_order
    rw [split] at nodup
    exact (List.nodup_cons.mp nodup.of_append_right).1
  have earlier : before.filter (fun other => !pool.isTaken other) = [] := by
    refine List.filter_eq_nil_iff.mpr fun other member => ?_
    simp [taken other member]
  have earlierNow : (before ++ [index]).filter (fun other => !after.isTaken other) = [] := by
    refine List.filter_eq_nil_iff.mpr fun other member => ?_
    rcases List.mem_append.mp member with member | member
    · simp [allocated, taken other member]
    · simp [allocated, List.mem_singleton.mp member]
  have later : behind.filter (fun other => !after.isTaken other) =
      behind.filter fun other => !pool.isTaken other := by
    refine List.filter_congr fun other member => ?_
    rw [allocated, decide_eq_false fun same : other = index => apart (same ▸ member),
      Bool.false_or]
  calc pool.free
      = (before ++ index :: behind).filter (fun other => !pool.isTaken other) := by
        rw [free, split]
    _ = index :: behind.filter (fun other => !pool.isTaken other) := by
        rw [List.filter_append, earlier, List.nil_append,
          List.filter_cons_of_pos (by simp [untaken])]
    _ = index :: after.free := by
        rw [free, turned, List.filter_append, earlierNow, List.append_nil, later]

/-- A sound pool issues nothing only when nothing is free. -/
theorem allocate?_eq_none_iff {pool : Rotating} (sound : pool.Sound) :
    pool.allocate? = none ↔ pool.free = [] := by
  rw [allocate?, Option.map_eq_none_iff, next?_eq sound, List.head?_eq_none_iff]

theorem nodup_free (pool : Rotating) : pool.free.Nodup := pool.nodup_order.filter _

theorem mem_free {pool : Rotating} {index : Nat} :
    index ∈ pool.free ↔ index < pool.size ∧ pool.isTaken index = false := by
  rw [free, List.mem_filter, mem_order, Bool.not_eq_true']

end Rotating

/-! ## Ports and numbers -/

namespace MediaPorts

/-- The free ports, the one that is issued next first. -/
def free (ports : MediaPorts) : List UInt16 := ports.pool.free.map ports.portAt

theorem available_eq {ports : MediaPorts} (sound : ports.Sound) :
    ports.available = ports.free.length := by
  rw [available, free, List.length_map, Rotating.available_eq sound.pool_sound]

/-- Of a fresh supply every port is free, from the first one on. -/
theorem free_ofRange (base count : UInt16) :
    (ofRange base count).free =
      (List.range count.toNat).map fun index => base + UInt16.ofNat index := by
  rw [free, ofRange, Rotating.free_ofSize]
  rfl

/-- Either no port is free, or the first free one is issued and the others are left. -/
theorem Sound.allocate_cases {ports : MediaPorts} (sound : ports.Sound) :
    (ports.free = [] ∧ ∃ fault, ports.allocate = .error fault) ∨
      ∃ port after, ports.allocate = .ok (port, after) ∧ ports.free = port :: after.free := by
  rw [free, MediaPorts.allocate]
  cases found : ports.pool.allocate? with
  | none =>
    rw [(Rotating.allocate?_eq_none_iff sound.pool_sound).mp found]
    exact .inl ⟨rfl, _, rfl⟩
  | some issued =>
    obtain ⟨index, pool⟩ := issued
    refine .inr ⟨_, _, rfl, ?_⟩
    rw [Rotating.free_of_allocate? sound.pool_sound found]
    rfl

/-- No free port is listed twice. -/
theorem nodup_free {ports : MediaPorts} (sound : ports.Sound) : ports.free.Nodup := by
  refine List.Nodup.map_on (fun first member second member' same => ?_) ports.pool.nodup_free
  have place := (contains_portAt sound.fits (Rotating.mem_free.mp member).1).2
  rw [same, (contains_portAt sound.fits (Rotating.mem_free.mp member').1).2] at place
  exact place.symm

end MediaPorts

namespace SessionIds

/-- The free numbers of a direction, the one that is issued next first. -/
def free (ids : SessionIds) (direction : Direction) : List SessionId :=
  (ids.pool direction).free.map (ids.number direction)

theorem available_eq {ids : SessionIds} (sound : ids.Sound) (direction : Direction) :
    ids.available direction = (ids.free direction).length := by
  rw [available, free, List.length_map, Rotating.available_eq (sound.pool_sound direction)]

/-- Of a fresh supply every number is free. -/
theorem length_free_ofSize (size : UInt32) (direction : Direction) :
    ((ofSize size).free direction).length = size.toNat := by
  have fresh : (ofSize size).pool direction = Rotating.ofSize size.toNat := by
    cases direction <;> rfl
  rw [free, List.length_map, fresh, Rotating.free_ofSize, List.length_range]

/-- Either no number of a direction is free, or the first free one is issued and the others are
left, together with those of the opposite direction. -/
theorem Sound.allocate_cases {ids : SessionIds} (sound : ids.Sound) (direction : Direction) :
    (ids.free direction = [] ∧ ∃ fault, ids.allocate direction = .error fault) ∨
      ∃ id after, ids.allocate direction = .ok (id, after) ∧
        ids.free direction = id :: after.free direction ∧
        after.free direction.opposite = ids.free direction.opposite := by
  rw [free, SessionIds.allocate]
  cases found : (ids.pool direction).allocate? with
  | none =>
    rw [(Rotating.allocate?_eq_none_iff (sound.pool_sound direction)).mp found]
    exact .inl ⟨rfl, _, rfl⟩
  | some issued =>
    obtain ⟨index, pool⟩ := issued
    refine .inr ⟨_, _, rfl, ?_, ?_⟩
    · rw [Rotating.free_of_allocate? (sound.pool_sound direction) found]
      cases direction <;> rfl
    · cases direction <;> rfl

/-- A number that is free is in the range of its direction and nobody holds it. -/
theorem of_mem_free {ids : SessionIds} (sound : ids.Sound) {direction : Direction}
    {id : SessionId} (member : id ∈ ids.free direction) :
    ids.direction? id = some direction ∧ ids.isAllocated id = false := by
  obtain ⟨index, free, rfl⟩ := List.mem_map.mp member
  obtain ⟨bound, untaken⟩ := Rotating.mem_free.mp free
  rw [sound.pool_size] at bound
  obtain ⟨place, same⟩ := direction?_number sound.fits direction bound
  refine ⟨place, ?_⟩
  rw [isAllocated_of_direction? place, same]
  exact untaken

end SessionIds

end FaxRelay.Pool
