import FaxRelay.Proofs.Pool.FreeOrder
import FaxRelay.Proofs.Start
import Mathlib.Data.Finset.Card

/-!
# Accounts of what was issued

Whoever draws on a supply sees nothing but its answers. They are enough to keep
an account of the values that were issued and not yet taken back
(`Service.account`): what is issued is entered, what is taken back is struck out,
and a refusal changes nothing.

Both supplies answer exactly as this account says, after every sequence of
requests, whatever it asks back. The numbers of sessions form two sets, one for
each direction (`SessionIds.accounts_for_numbers`), the media ports one
(`MediaPorts.accounts_for_ports`). The sets of taken numbers, the cursors and the
counts behind the answers do not show.

The arithmetic of the supplies is that of machine words. It comes out as it does
on natural numbers (`SessionIds.Exact`, `MediaPorts.Exact`), also for a range of
ports that ends with the last one.
-/

set_option autoImplicit false

namespace FaxRelay.Pool

/-! ## Keeping an account -/

/-- What is asked of a supply: the next free value of a kind, or to take a value back. -/
inductive Request (κ α : Type) where
  | allocate (kind : κ)
  | release (value : α)

/-- How a supply answers: what it issues of a kind, and whether it takes a value back. -/
structure Service (σ κ α : Type) where
  allocate : σ → κ → Except Fault (α × σ)
  release : σ → α → Except Fault σ

/-- A supply, and the values that were issued and not taken back, as its answers tell. -/
structure Account (σ α : Type) where
  supply : σ
  live : Finset α

/-- The supply of an account is sound, and holds as allocated exactly what is live. -/
structure Account.InStep {σ α : Type} (Sound : σ → Prop) (isAllocated : σ → α → Bool)
    (account : Account σ α) : Prop where
  sound : Sound account.supply
  allocated_iff : ∀ value, isAllocated account.supply value = true ↔ value ∈ account.live

namespace Service

variable {σ κ α : Type} [DecidableEq α]

/-- One request: what is issued is entered, what is taken back is struck out, and a refusal changes
nothing. -/
def serve (service : Service σ κ α) (account : Account σ α) : Request κ α → Account σ α
  | .allocate kind =>
    match service.allocate account.supply kind with
    | .ok (value, supply) => ⟨supply, insert value account.live⟩
    | .error _ => account
  | .release value =>
    match service.release account.supply value with
    | .ok supply => ⟨supply, account.live.erase value⟩
    | .error _ => account

/-- The account of a supply of which nothing is issued, after a sequence of requests. -/
def account (service : Service σ κ α) (supply : σ) (requests : List (Request κ α)) :
    Account σ α :=
  requests.foldl service.serve ⟨supply, ∅⟩

/-- Issuing a value adds it to what a supply holds as allocated, taking it back removes it, and both
keep the supply sound. -/
structure Accurate (service : Service σ κ α) (Sound : σ → Prop) (isAllocated : σ → α → Bool) :
    Prop where
  issued : ∀ {before after : σ} {kind : κ} {value : α}, Sound before →
    service.allocate before kind = .ok (value, after) →
      Sound after ∧ ∀ other,
        isAllocated after other = (decide (other = value) || isAllocated before other)
  returned : ∀ {before after : σ} {value : α}, Sound before →
    service.release before value = .ok after →
      Sound after ∧ ∀ other,
        isAllocated after other = (!decide (other = value) && isAllocated before other)

namespace Accurate

variable {service : Service σ κ α} {Sound : σ → Prop} {isAllocated : σ → α → Bool}
variable (accurate : service.Accurate Sound isAllocated)
include accurate

/-- One request keeps an account in step. -/
theorem serve {account : Account σ α} (inStep : account.InStep Sound isAllocated)
    (request : Request κ α) : (service.serve account request).InStep Sound isAllocated := by
  cases request with
  | allocate kind =>
    rw [Service.serve]
    cases answer : service.allocate account.supply kind with
    | error fault => exact inStep
    | ok issued =>
      obtain ⟨sound, allocated⟩ := accurate.issued inStep.sound answer
      refine ⟨sound, fun value => ?_⟩
      rw [allocated, Bool.or_eq_true, decide_eq_true_iff, inStep.allocated_iff, Finset.mem_insert]
  | release value =>
    rw [Service.serve]
    cases answer : service.release account.supply value with
    | error fault => exact inStep
    | ok after =>
      obtain ⟨sound, allocated⟩ := accurate.returned inStep.sound answer
      refine ⟨sound, fun other => ?_⟩
      rw [allocated, Bool.and_eq_true, Bool.not_eq_true', decide_eq_false_iff_not,
        inStep.allocated_iff, Finset.mem_erase]

theorem serveAll {account : Account σ α} (inStep : account.InStep Sound isAllocated)
    (requests : List (Request κ α)) :
    (requests.foldl service.serve account).InStep Sound isAllocated := by
  induction requests generalizing account with
  | nil => exact inStep
  | cons request rest ih => exact ih (accurate.serve inStep request)

/-- **The account of a fresh supply stays in step** through every sequence of requests. -/
theorem account {supply : σ} (sound : Sound supply)
    (fresh : ∀ value, isAllocated supply value = false) (requests : List (Request κ α)) :
    (service.account supply requests).InStep Sound isAllocated := by
  refine accurate.serveAll ⟨sound, fun value => ?_⟩ requests
  rw [fresh]
  simp

end Accurate

end Service

/-! ## The numbers below a size -/

namespace Rotating

/-- The numbers of a pool that are taken. -/
def held (pool : Rotating) : Finset Nat :=
  (Finset.range pool.size).filter fun index => pool.isTaken index = true

/-- What a pool computes stays within its range: a search starts and ends there, no more is counted
than there is, and the count is not lowered below zero. -/
structure Exact (pool : Rotating) : Prop where
  cursor_le : pool.cursor ≤ pool.size
  inUse_le : pool.inUse ≤ pool.size
  inUse_pos : ∀ index, pool.isTaken index = true → 0 < pool.inUse
  issued_lt : ∀ index after, pool.allocate? = some (index, after) →
    index < pool.size ∧ pool.inUse < pool.size

theorem release?_of_not_isTaken {pool : Rotating} {index : Nat}
    (free : ¬ pool.isTaken index = true) : pool.release? index = none := if_neg free

variable {pool : Rotating} (sound : pool.Sound)
include sound

theorem mem_held {index : Nat} : index ∈ pool.held ↔ pool.isTaken index = true := by
  rw [held, Finset.mem_filter, Finset.mem_range]
  exact ⟨And.right, fun taken => ⟨sound.taken_lt index taken, taken⟩⟩

/-- The count of a sound pool is the number of its taken numbers. -/
theorem card_held : pool.held.card = pool.inUse := by
  have same : pool.held = (pool.order.filter pool.isTaken).toFinset := by
    ext index
    rw [mem_held sound, List.mem_toFinset, List.mem_filter, mem_order]
    exact ⟨fun taken => ⟨sound.taken_lt index taken, taken⟩, And.right⟩
  rw [same, List.toFinset_card_of_nodup (pool.nodup_order.filter _), inUse_eq sound]

/-- A sound pool is exhausted exactly when every number below its size is taken. -/
theorem allocate?_eq_none_iff_taken :
    pool.allocate? = none ↔ ∀ index < pool.size, pool.isTaken index = true := by
  rw [allocate?_eq_none_iff sound, List.eq_nil_iff_forall_not_mem]
  simp only [mem_free, not_and, Bool.not_eq_false]

theorem Sound.exact : pool.Exact where
  cursor_le := sound.cursor_le
  inUse_le := by
    have sizes := inUse_add_length_free sound
    omega
  inUse_pos index taken := by
    rw [← card_held sound]
    exact Finset.card_pos.mpr ⟨index, (mem_held sound).mpr taken⟩
  issued_lt index after found := by
    have sizes := inUse_add_length_free sound
    have free := congrArg List.length (free_of_allocate? sound found)
    rw [List.length_cons] at free
    exact ⟨(allocate?_eq_some sound found).1, by omega⟩

end Rotating

/-! ## Session numbers -/

namespace SessionIds

/-- Session numbers on request. -/
def service : Service SessionIds Direction SessionId := ⟨allocate, release⟩

/-- The range of a direction: inbound numbers from zero on, outbound numbers behind them. -/
def Belongs (size : UInt32) : Direction → SessionId → Prop
  | .inbound, id => id.value.toNat < size.toNat
  | .outbound, id => size.toNat ≤ id.value.toNat ∧ id.value.toNat < size.toNat * 2

instance (size : UInt32) (direction : Direction) : DecidablePred (Belongs size direction) :=
  match direction with
  | .inbound => fun id => inferInstanceAs (Decidable (id.value.toNat < size.toNat))
  | .outbound => fun id =>
    inferInstanceAs (Decidable (size.toNat ≤ id.value.toNat ∧ id.value.toNat < size.toNat * 2))

/-- What is computed on words comes out as on natural numbers: the end of the ranges, a number from
its place, and a place from its number. -/
structure Exact (ids : SessionIds) : Prop where
  double : (ids.size * 2).toNat = ids.size.toNat * 2
  sum : ∀ direction index after, (ids.pool direction).allocate? = some (index, after) →
    (ids.base direction + UInt32.ofNat index).toNat = (ids.base direction).toNat + index
  difference : ∀ direction id, ids.direction? id = some direction →
    (ids.base direction).toNat + ids.index direction id = id.value.toNat
  pools : ∀ direction, (ids.pool direction).Exact

/-- **What a supply of session numbers answers while certain numbers are live.** -/
structure Keeps (size : UInt32) (live : Finset SessionId) (ids : SessionIds) : Prop where
  /-- A number is issued from the range of its direction, and never while it is live. -/
  issues : ∀ direction id after, ids.allocate direction = .ok (id, after) →
    Belongs size direction id ∧ id ∉ live ∧
      after.pool direction.opposite = ids.pool direction.opposite
  /-- No number is issued exactly when all numbers of the direction are live. -/
  refuses : ∀ direction fault, ids.allocate direction = .error fault ↔
    fault = .exhausted .sessionId ∧ ∀ id, Belongs size direction id → id ∈ live
  /-- Exactly the live numbers are taken back. -/
  accepts : ∀ id, (∃ after, ids.release id = .ok after) ↔ id ∈ live
  /-- Any other number is out of range, or it is in range and nobody has it. -/
  rejects : ∀ id fault, ids.release id = .error fault ↔
    (fault = .outOfRange .sessionId id.value ∧ size.toNat * 2 ≤ id.value.toNat) ∨
      (fault = .notOwned .sessionId id.value ∧ id.value.toNat < size.toNat * 2 ∧ id ∉ live)
  /-- Taking a number back leaves the other direction as it is. -/
  returns : ∀ direction id after, ids.release id = .ok after → Belongs size direction id →
    after.pool direction.opposite = ids.pool direction.opposite
  isAllocated_iff : ∀ id, ids.isAllocated id = true ↔ id ∈ live
  inUse_eq : ids.inUse = live.card
  available_eq : ∀ direction,
    ids.available direction + (live.filter (Belongs size direction)).card = size.toNat
  exact : ids.Exact

/-- A place within the range of its direction, from the number. -/
theorem Belongs.index_lt {ids : SessionIds} {direction : Direction} {id : SessionId}
    (belongs : Belongs ids.size direction id) :
    (ids.base direction).toNat + ids.index direction id = id.value.toNat ∧
      ids.index direction id < ids.size.toNat := by
  have least : ids.base direction ≤ id.value := by
    cases direction with
    | inbound => exact UInt32.zero_le
    | outbound => exact UInt32.le_iff_toNat_le.mpr belongs.1
  have place : ids.index direction id = id.value.toNat - (ids.base direction).toNat :=
    UInt32.toNat_sub_of_le _ _ least
  rw [UInt32.le_iff_toNat_le] at least
  cases direction with
  | inbound =>
    have below : id.value.toNat < ids.size.toNat := belongs
    have zero : (ids.base .inbound).toNat = 0 := rfl
    omega
  | outbound =>
    have within : id.value.toNat < ids.size.toNat * 2 := belongs.2
    have base : (ids.base .outbound).toNat = ids.size.toNat := rfl
    omega

/-- Different places in a range have different numbers. -/
theorem number_inj {ids : SessionIds} (fits : ids.size.toNat * 2 < UInt32.size)
    {direction : Direction} {index other : Nat} (bound : index < ids.size.toNat)
    (bound' : other < ids.size.toNat)
    (same : ids.number direction index = ids.number direction other) : index = other := by
  rw [← (direction?_number fits direction bound).2, same,
    (direction?_number fits direction bound').2]

/-- Numbers are refused only because the pool of the direction has none. -/
theorem allocate_eq_error_iff {ids : SessionIds} {direction : Direction} {fault : Fault} :
    ids.allocate direction = .error fault ↔
      fault = .exhausted .sessionId ∧ (ids.pool direction).allocate? = none := by
  rw [allocate]
  cases (ids.pool direction).allocate? with
  | none =>
    show Except.error _ = Except.error fault ↔ _
    rw [Except.error.injEq, eq_comm]
    exact ⟨fun same => ⟨same, rfl⟩, And.left⟩
  | some issued => exact iff_of_false (fun same => by cases same) (by simp)

/-- A number is not taken back because it has no direction, or because it is not allocated. -/
theorem release_eq_error_iff {ids : SessionIds} {id : SessionId} {fault : Fault} :
    ids.release id = .error fault ↔
      (fault = .outOfRange .sessionId id.value ∧ ids.direction? id = none) ∨
        (fault = .notOwned .sessionId id.value ∧ ¬ ids.direction? id = none ∧
          ¬ ids.isAllocated id = true) := by
  rw [release, isAllocated]
  cases ids.direction? id with
  | none =>
    show Except.error _ = Except.error fault ↔ _
    rw [Except.error.injEq, eq_comm]
    simp
  | some direction =>
    dsimp only
    by_cases taken : (ids.pool direction).isTaken (ids.index direction id) = true
    · simp [Rotating.release?_of_isTaken taken, taken]
    · simp only [Rotating.release?_of_not_isTaken taken]
      rw [Except.error.injEq, eq_comm]
      simp [taken]

section Sound

variable {ids : SessionIds} (sound : ids.Sound)
include sound

theorem double_size : (ids.size * 2).toNat = ids.size.toNat * 2 := by
  rw [UInt32.toNat_mul]
  exact Nat.mod_eq_of_lt sound.fits

/-- A number has the direction to whose range it belongs. -/
theorem direction?_eq_some_iff {direction : Direction} {id : SessionId} :
    ids.direction? id = some direction ↔ Belongs ids.size direction id := by
  have double := double_size sound
  rw [direction?]
  simp only [UInt32.lt_iff_toNat_lt, double]
  cases direction with
  | inbound =>
    show _ ↔ id.value.toNat < ids.size.toNat
    split
    · next below => exact iff_of_true rfl below
    · next beyond => split <;> exact iff_of_false (by simp) beyond
  | outbound =>
    show _ ↔ ids.size.toNat ≤ id.value.toNat ∧ id.value.toNat < ids.size.toNat * 2
    split
    · next below => exact iff_of_false (by simp) (by omega)
    · next behind =>
      split
      · next within => exact iff_of_true rfl ⟨by omega, within⟩
      · next beyond => exact iff_of_false (by simp) (by omega)

/-- A number behind both ranges has no direction. -/
theorem direction?_eq_none_iff {id : SessionId} :
    ids.direction? id = none ↔ ids.size.toNat * 2 ≤ id.value.toNat := by
  have double := double_size sound
  rw [direction?]
  simp only [UInt32.lt_iff_toNat_lt, double]
  split
  · next below => exact iff_of_false (by simp) (by omega)
  · split
    · next within => exact iff_of_false (by simp) (by omega)
    · next beyond => exact iff_of_true rfl (by omega)

theorem Sound.exact : ids.Exact where
  double := double_size sound
  sum direction index after found := by
    obtain ⟨bound, _⟩ := Rotating.allocate?_eq_some (sound.pool_sound direction) found
    rw [sound.pool_size] at bound
    obtain ⟨place, same⟩ := direction?_number sound.fits direction bound
    have value := ((direction?_eq_some_iff sound).mp place).index_lt.1
    rw [same] at value
    exact value.symm
  difference direction id place := ((direction?_eq_some_iff sound).mp place).index_lt.1
  pools direction := (sound.pool_sound direction).exact

/-- The taken places of a direction are below its size. -/
theorem lt_of_mem_held {direction : Direction} {index : Nat}
    (held : index ∈ (ids.pool direction).held) : index < ids.size.toNat := by
  rw [← sound.pool_size direction]
  exact Finset.mem_range.mp (Finset.mem_of_mem_filter index held)

/-- A number is allocated when its place is taken. -/
theorem isAllocated_number {direction : Direction} {index : Nat}
    (bound : index < ids.size.toNat) :
    ids.isAllocated (ids.number direction index) = (ids.pool direction).isTaken index := by
  obtain ⟨place, same⟩ := direction?_number sound.fits direction bound
  rw [isAllocated_of_direction? place, same]

theorem belongs_number {direction : Direction} {index : Nat} (bound : index < ids.size.toNat) :
    Belongs ids.size direction (ids.number direction index) :=
  (direction?_eq_some_iff sound).mp (direction?_number sound.fits direction bound).1

theorem lt_of_isAllocated {id : SessionId} (isAllocated : ids.isAllocated id = true) :
    id.value.toNat < ids.size.toNat * 2 := by
  refine Nat.not_le.mp fun beyond => ?_
  rw [SessionIds.isAllocated, (direction?_eq_none_iff sound).mpr beyond] at isAllocated
  cases isAllocated

/-- No number of a direction is left exactly when every number of its range is allocated. -/
theorem allocate?_eq_none_iff_allocated (direction : Direction) :
    (ids.pool direction).allocate? = none ↔
      ∀ id, Belongs ids.size direction id → ids.isAllocated id = true := by
  rw [Rotating.allocate?_eq_none_iff_taken (sound.pool_sound direction), sound.pool_size]
  constructor
  · intro taken id belongs
    have bound := belongs.index_lt.2
    rw [← number_index ids direction id, isAllocated_number sound bound]
    exact taken _ bound
  · intro isAllocated index bound
    rw [← isAllocated_number sound bound]
    exact isAllocated _ (belongs_number sound bound)

section Live

variable {live : Finset SessionId}
variable (allocated : ∀ id, ids.isAllocated id = true ↔ id ∈ live)
include allocated

/-- As many numbers of a direction are counted as are live. -/
theorem card_filter_belongs (direction : Direction) :
    (live.filter (Belongs ids.size direction)).card = (ids.pool direction).inUse := by
  have poolSound := sound.pool_sound direction
  have image : live.filter (Belongs ids.size direction) =
      (ids.pool direction).held.image (ids.number direction) := by
    ext id
    rw [Finset.mem_filter, ← allocated, Finset.mem_image]
    constructor
    · rintro ⟨isAllocated, belongs⟩
      have bound := belongs.index_lt.2
      rw [← number_index ids direction id, isAllocated_number sound bound] at isAllocated
      exact ⟨_, (Rotating.mem_held poolSound).mpr isAllocated, number_index ids direction id⟩
    · rintro ⟨index, held, rfl⟩
      have bound := lt_of_mem_held sound held
      rw [isAllocated_number sound bound]
      exact ⟨(Rotating.mem_held poolSound).mp held, belongs_number sound bound⟩
  rw [image, Finset.card_image_of_injOn, Rotating.card_held poolSound]
  intro index held other heldToo same
  exact number_inj sound.fits (lt_of_mem_held sound held) (lt_of_mem_held sound heldToo) same

/-- Both directions together count what is live. -/
theorem inUse_eq_card : ids.inUse = live.card := by
  have outbound : live.filter (fun id => ¬ Belongs ids.size .inbound id) =
      live.filter (Belongs ids.size .outbound) := by
    refine Finset.filter_congr fun id member => ?_
    have below := lt_of_isAllocated sound ((allocated id).mpr member)
    exact ⟨fun behind => ⟨Nat.not_lt.mp behind, below⟩, fun behind => Nat.not_lt.mpr behind.1⟩
  rw [← Finset.card_filter_add_card_filter_not (s := live) (Belongs ids.size .inbound), outbound,
    card_filter_belongs sound allocated, card_filter_belongs sound allocated]
  rfl

/-- A sound supply keeps to what it holds as allocated. -/
theorem Sound.keeps : ids.Keeps ids.size live where
  issues direction id after issued := by
    have free := isAllocated_of_allocate sound issued
    obtain ⟨index, pool, found, rfl, rfl⟩ := allocate_eq_ok issued
    obtain ⟨bound, _⟩ := Rotating.allocate?_eq_some (sound.pool_sound direction) found
    rw [sound.pool_size] at bound
    refine ⟨belongs_number sound bound, fun member => ?_, ?_⟩
    · rw [(allocated _).mpr member] at free
      cases free
    · cases direction <;> rfl
  refuses direction fault := by
    have exhausted := allocate?_eq_none_iff_allocated sound direction
    simp only [allocated] at exhausted
    rw [allocate_eq_error_iff, exhausted]
  accepts id := by
    rw [← allocated]
    exact ⟨fun ⟨_, released⟩ => isAllocated_of_release released, release_of_isAllocated⟩
  rejects id fault := by
    rw [release_eq_error_iff, direction?_eq_none_iff sound, allocated, Nat.not_le]
  returns direction id after released belongs := by
    obtain ⟨side, pool, place, _, rfl⟩ := release_eq_ok released
    rw [(direction?_eq_some_iff sound).mpr belongs] at place
    cases place
    cases direction <;> rfl
  isAllocated_iff := allocated
  inUse_eq := inUse_eq_card sound allocated
  available_eq direction := by
    have within := (sound.pool_sound direction).exact.inUse_le
    rw [card_filter_belongs sound allocated, available, Rotating.available, ← sound.pool_size]
    exact Nat.sub_add_cancel within
  exact := sound.exact

end Live

end Sound

/-- Session numbers are issued and taken back accurately, and the size of the ranges stays. -/
theorem accurate (size : UInt32) :
    service.Accurate (fun ids => ids.Sound ∧ ids.size = size) isAllocated where
  issued := by
    intro before after direction id ⟨sound, same⟩ issued
    refine ⟨⟨sound.allocate issued, ?_⟩, isAllocated_allocate sound issued⟩
    obtain ⟨_, _, _, _, rfl⟩ := allocate_eq_ok issued
    rw [size_setPool, same]
  returned := by
    intro before after id ⟨sound, same⟩ released
    refine ⟨⟨sound.release released, ?_⟩, isAllocated_release released⟩
    obtain ⟨_, _, _, _, rfl⟩ := release_eq_ok released
    rw [size_setPool, same]

/-- **A supply of session numbers answers as its account says,** after every sequence of requests:
the numbers that are live decide what is issued, what is taken back and what is refused. -/
theorem accounts_for_numbers (size : UInt32) (fits : size.toNat * 2 < UInt32.size)
    (requests : List (Request Direction SessionId)) :
    (service.account (ofSize size) requests).supply.Keeps size
      (service.account (ofSize size) requests).live := by
  obtain ⟨⟨sound, same⟩, allocated⟩ :=
    (accurate size).account ⟨sound_ofSize fits, rfl⟩ (isAllocated_ofSize size) requests
  have keeps := sound.keeps allocated
  rwa [same] at keeps

/-- Both numbers of a supply with one for each direction are issued; what is given back twice, and
what lies beyond, is refused; and the outbound number stays live. -/
theorem accounts_for_numbers_pair :
    (1 : UInt32).toNat * 2 < UInt32.size ∧
      (service.account (ofSize 1) [.allocate .inbound, .allocate .outbound, .allocate .inbound,
        .release ⟨0⟩, .release ⟨0⟩, .release ⟨2⟩]).live = {⟨1⟩} ∧
      (service.account (ofSize 1) [.allocate .inbound, .allocate .outbound, .allocate .inbound,
        .release ⟨0⟩, .release ⟨0⟩, .release ⟨2⟩]).supply.Keeps 1 {⟨1⟩} := by
  have fits : (1 : UInt32).toNat * 2 < UInt32.size := by decide
  have live : (service.account (ofSize 1) [.allocate .inbound, .allocate .outbound,
      .allocate .inbound, .release ⟨0⟩, .release ⟨0⟩, .release ⟨2⟩]).live = {⟨1⟩} := by
    decide +kernel
  have keeps := accounts_for_numbers 1 fits [.allocate .inbound, .allocate .outbound,
    .allocate .inbound, .release ⟨0⟩, .release ⟨0⟩, .release ⟨2⟩]
  rw [live] at keeps
  exact ⟨fits, live, keeps⟩

end SessionIds

/-! ## Media ports -/

namespace MediaPorts

/-- Media ports on request; they are all of one kind. -/
def service : Service MediaPorts Unit UInt16 := ⟨fun ports _ => ports.allocate, release⟩

/-- The range of the ports: `count` of them from `base` on. -/
def Within (base count port : UInt16) : Prop :=
  base.toNat ≤ port.toNat ∧ port.toNat < base.toNat + count.toNat

/-- What is computed on words comes out as on natural numbers: a port from its distance, and a
distance from its port. -/
structure Exact (ports : MediaPorts) : Prop where
  sum : ∀ index after, ports.pool.allocate? = some (index, after) →
    (ports.base + UInt16.ofNat index).toNat = ports.base.toNat + index
  difference : ∀ port, ports.base ≤ port → ports.base.toNat + ports.index port = port.toNat
  pool : ports.pool.Exact

/-- **What a supply of media ports answers while certain ports are live.** -/
structure Keeps (base count : UInt16) (live : Finset UInt16) (ports : MediaPorts) : Prop where
  /-- A port is issued from the range, and never while it is live. -/
  issues : ∀ port after, ports.allocate = .ok (port, after) →
    Within base count port ∧ port ∉ live
  /-- No port is issued exactly when all ports are live. -/
  refuses : ∀ fault, ports.allocate = .error fault ↔
    fault = .exhausted .mediaPort ∧ ∀ port, Within base count port → port ∈ live
  /-- Exactly the live ports are taken back. -/
  accepts : ∀ port, (∃ after, ports.release port = .ok after) ↔ port ∈ live
  /-- Any other port is out of range, or it is in range and nobody has it. -/
  rejects : ∀ port fault, ports.release port = .error fault ↔
    (fault = .outOfRange .mediaPort port.toUInt32 ∧ ¬ Within base count port) ∨
      (fault = .notOwned .mediaPort port.toUInt32 ∧ Within base count port ∧ port ∉ live)
  contains_iff : ∀ port, ports.contains port = true ↔ Within base count port
  isAllocated_iff : ∀ port, ports.isAllocated port = true ↔ port ∈ live
  inUse_eq : ports.inUse = live.card
  available_eq : ports.available + live.card = count.toNat
  exact : ports.Exact

/-- Ports are refused only because the pool has none. -/
theorem allocate_eq_error_iff {ports : MediaPorts} {fault : Fault} :
    ports.allocate = .error fault ↔
      fault = .exhausted .mediaPort ∧ ports.pool.allocate? = none := by
  rw [allocate]
  cases ports.pool.allocate? with
  | none =>
    show Except.error _ = Except.error fault ↔ _
    rw [Except.error.injEq, eq_comm]
    exact ⟨fun same => ⟨same, rfl⟩, And.left⟩
  | some issued => exact iff_of_false (fun same => by cases same) (by simp)

/-- A port is not taken back because it lies outside, or because it is not allocated. -/
theorem release_eq_error_iff {ports : MediaPorts} {port : UInt16} {fault : Fault} :
    ports.release port = .error fault ↔
      (fault = .outOfRange .mediaPort port.toUInt32 ∧ ¬ ports.contains port = true) ∨
        (fault = .notOwned .mediaPort port.toUInt32 ∧ ports.contains port = true ∧
          ¬ ports.isAllocated port = true) := by
  rw [release, isAllocated]
  by_cases inside : ports.contains port = true
  · rw [if_pos inside]
    by_cases taken : ports.pool.isTaken (ports.index port) = true
    · simp [Rotating.release?_of_isTaken taken, taken, inside]
    · simp only [Rotating.release?_of_not_isTaken taken]
      rw [Except.error.injEq, eq_comm]
      simp [taken, inside]
  · rw [if_neg inside, Except.error.injEq, eq_comm]
    simp [inside]

/-- From the first port on, a distance is found without going below zero. -/
theorem base_add_index {ports : MediaPorts} {port : UInt16} (least : ports.base ≤ port) :
    ports.base.toNat + ports.index port = port.toNat := by
  have place : ports.index port = port.toNat - ports.base.toNat :=
    UInt16.toNat_sub_of_le _ _ least
  rw [UInt16.le_iff_toNat_le] at least
  omega

/-- A port lies in the range when its distance is less than the count. -/
theorem contains_iff (ports : MediaPorts) (port : UInt16) :
    ports.contains port = true ↔
      ports.base.toNat ≤ port.toNat ∧ port.toNat < ports.base.toNat + ports.count := by
  rw [contains, Bool.and_eq_true, decide_eq_true_iff, decide_eq_true_iff,
    ← UInt16.le_iff_toNat_le]
  refine and_congr_right fun least => ?_
  have place := base_add_index least
  omega

section Sound

variable {ports : MediaPorts} (sound : ports.Sound)
include sound

theorem Sound.exact : ports.Exact where
  sum index after found := by
    obtain ⟨bound, _⟩ := Rotating.allocate?_eq_some sound.pool_sound found
    obtain ⟨inside, same⟩ := contains_portAt sound.fits bound
    have least := ((contains_iff ports _).mp inside).1
    have value := base_add_index (UInt16.le_iff_toNat_le.mpr least)
    rw [same] at value
    exact value.symm
  difference _ least := base_add_index least
  pool := sound.pool_sound.exact

/-- A port is allocated when its distance is taken. -/
theorem isAllocated_portAt {index : Nat} (bound : index < ports.count) :
    ports.isAllocated (ports.portAt index) = ports.pool.isTaken index := by
  obtain ⟨inside, same⟩ := contains_portAt sound.fits bound
  rw [isAllocated, inside, same, Bool.true_and]

/-- No port is left exactly when every port of the range is allocated. -/
theorem allocate?_eq_none_iff_allocated :
    ports.pool.allocate? = none ↔
      ∀ port, ports.contains port = true → ports.isAllocated port = true := by
  rw [Rotating.allocate?_eq_none_iff_taken sound.pool_sound]
  constructor
  · intro taken port inside
    rw [contains, Bool.and_eq_true, decide_eq_true_iff, decide_eq_true_iff] at inside
    rw [← portAt_index ports port, isAllocated_portAt sound inside.2]
    exact taken _ inside.2
  · intro isAllocated index bound
    rw [← isAllocated_portAt sound bound]
    exact isAllocated _ (contains_portAt sound.fits bound).1

section Live

variable {live : Finset UInt16}
variable (allocated : ∀ port, ports.isAllocated port = true ↔ port ∈ live)
include allocated

/-- As many ports are counted as are live. -/
theorem inUse_eq_card : ports.inUse = live.card := by
  have below : ∀ {index}, index ∈ ports.pool.held → index < ports.count :=
    fun held => Finset.mem_range.mp (Finset.mem_of_mem_filter _ held)
  have image : live = ports.pool.held.image ports.portAt := by
    ext port
    rw [← allocated, Finset.mem_image]
    constructor
    · intro isAllocated
      rw [MediaPorts.isAllocated, Bool.and_eq_true] at isAllocated
      exact ⟨_, (Rotating.mem_held sound.pool_sound).mpr isAllocated.2, portAt_index ports port⟩
    · rintro ⟨index, held, rfl⟩
      rw [isAllocated_portAt sound (below held)]
      exact (Rotating.mem_held sound.pool_sound).mp held
  rw [image, Finset.card_image_of_injOn, Rotating.card_held sound.pool_sound]
  · rfl
  intro index held other heldToo same
  rw [← (contains_portAt sound.fits (below held)).2, same,
    (contains_portAt sound.fits (below heldToo)).2]

/-- A sound supply keeps to what it holds as allocated. -/
theorem Sound.keeps {base count : UInt16} (base_eq : ports.base = base)
    (count_eq : ports.count = count.toNat) : ports.Keeps base count live := by
  have inside : ∀ port, ports.contains port = true ↔ Within base count port := by
    intro port
    rw [MediaPorts.contains_iff, base_eq, count_eq]
    rfl
  have size : ports.available + ports.inUse = count.toNat := by
    rw [← count_eq]
    exact Nat.sub_add_cancel sound.exact.pool.inUse_le
  exact {
    issues := fun port after issued => by
      have free := isAllocated_of_allocate sound issued
      obtain ⟨index, pool, found, rfl, rfl⟩ := allocate_eq_ok issued
      obtain ⟨bound, _⟩ := Rotating.allocate?_eq_some sound.pool_sound found
      refine ⟨(inside _).mp (contains_portAt sound.fits bound).1, fun member => ?_⟩
      rw [(allocated _).mpr member] at free
      cases free
    refuses := fun fault => by
      rw [allocate_eq_error_iff, allocate?_eq_none_iff_allocated sound]
      simp only [inside, allocated]
    accepts := fun port => by
      rw [← allocated]
      exact ⟨fun ⟨_, released⟩ => isAllocated_of_release released, release_of_isAllocated⟩
    rejects := fun port fault => by
      rw [release_eq_error_iff, inside, allocated]
    contains_iff := inside
    isAllocated_iff := allocated
    inUse_eq := inUse_eq_card sound allocated
    available_eq := by rw [← inUse_eq_card sound allocated, size]
    exact := sound.exact }

end Live

end Sound

/-- Media ports are issued and taken back accurately, and the range stays. -/
theorem accurate (base count : UInt16) :
    service.Accurate
      (fun ports => ports.Sound ∧ ports.base = base ∧ ports.count = count.toNat) isAllocated where
  issued := by
    intro before after _ port ⟨sound, base_eq, count_eq⟩ issued
    refine ⟨⟨sound.allocate issued, ?_⟩, isAllocated_allocate sound issued⟩
    obtain ⟨index, pool, found, _, rfl⟩ := allocate_eq_ok issued
    obtain ⟨_, _, rfl⟩ := Rotating.allocate?_eq_some sound.pool_sound found
    exact ⟨base_eq, count_eq⟩
  returned := by
    intro before after port ⟨sound, base_eq, count_eq⟩ released
    refine ⟨⟨sound.release released, ?_⟩, isAllocated_release released⟩
    obtain ⟨pool, returned, rfl⟩ := release_eq_ok released
    obtain ⟨_, rfl⟩ := Rotating.release?_eq_some returned
    exact ⟨base_eq, count_eq⟩

/-- **A supply of media ports answers as its account says,** for every range of ports that valid
settings name and after every sequence of requests: the ports that are live decide what is issued,
what is taken back and what is refused. -/
theorem accounts_for_ports (settings : Settings) (valid : settings.validate = .ok ())
    (requests : List (Request Unit UInt16)) :
    (service.account (ofRange settings.portBase settings.portCount) requests).supply.Keeps
      settings.portBase settings.portCount
      (service.account (ofRange settings.portBase settings.portCount) requests).live := by
  obtain ⟨_, _, _, _, fits, _⟩ := Settings.bounds_of_validate valid
  obtain ⟨⟨sound, base_eq, count_eq⟩, allocated⟩ :=
    (accurate settings.portBase settings.portCount).account ⟨sound_ofRange fits, rfl, rfl⟩
      (isAllocated_ofRange settings.portBase settings.portCount) requests
  exact sound.keeps allocated base_eq count_eq

/-- The last two ports are issued; the one in front of them is out of range, and the last one can be
given back once. -/
theorem accounts_for_ports_last :
    Settings.validate { portBase := 65534, portCount := 2 } = .ok () ∧
      (service.account (ofRange 65534 2) [.allocate (), .allocate (), .allocate (),
        .release 65535, .release 65535, .release 65533]).live = {65534} ∧
      (service.account (ofRange 65534 2) [.allocate (), .allocate (), .allocate (),
        .release 65535, .release 65535, .release 65533]).supply.Keeps 65534 2 {65534} := by
  have valid : Settings.validate { portBase := 65534, portCount := 2 } = .ok () := by decide
  have live : (service.account (ofRange 65534 2) [.allocate (), .allocate (), .allocate (),
      .release 65535, .release 65535, .release 65533]).live = {65534} := by decide +kernel
  have keeps := accounts_for_ports { portBase := 65534, portCount := 2 } valid
    [.allocate (), .allocate (), .allocate (), .release 65535, .release 65535, .release 65533]
  change (service.account (ofRange 65534 2) _).supply.Keeps 65534 2 _ at keeps
  rw [live] at keeps
  exact ⟨valid, live, keeps⟩

end MediaPorts

end FaxRelay.Pool
