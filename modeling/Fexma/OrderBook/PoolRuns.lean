import Fexma.OrderBook.OrderPool

/-! The order pool over whole runs of its own calls, whatever the slots held before the first
one. Freelist and FIFO share one link field, so what has to survive every call is that the
freelist passes through no slot in use. -/
namespace Fexma.OrderPool

open LinkedQueue

/-- The constructor over uninitialised memory: the slots hold anything. -/
def construct (memory : OrderIndex → Order) (capacity : OrderCapacity) : Option OrderPool :=
  if capacity > maxCapacity then none
  else some (initializeFreelist
    { orders := memory, capacity, freeHead := invalidOrderIndex, freeCount := 0 })

/-- Over blank memory the constructor makes the pool that the book is built on. -/
theorem construct_blank (capacity : OrderCapacity) : construct (fun _ => {}) capacity = create capacity := rfl

inductive PoolCall where
  | emplace (id : OrderId) (ownerId : OwnerId) (price : PriceTick) (remaining : Quantity) (side : Side)
  | release (slot : OrderIndex)
  | clear
  deriving DecidableEq, Repr

def perform (pool : OrderPool) : PoolCall → OrderPool
  | .emplace id ownerId price remaining side => (pool.emplace id ownerId price remaining side).2
  | .release slot => pool.release slot
  | .clear => pool.clear

def run (pool : OrderPool) (calls : List PoolCall) : OrderPool := calls.foldl perform pool

/-- The slots in use. -/
def activeSlots (pool : OrderPool) : List OrderIndex :=
  (allSlots pool.capacity).filter fun slot => pool.contains slot

variable {pool : OrderPool} {free : List OrderIndex} {slot : OrderIndex}

theorem FreeList.mem_iff (list : FreeList pool free) :
    slot ∈ free ↔ slot < pool.capacity ∧ pool.contains slot = false := by
  constructor
  · intro member
    have bound := list.bound slot member
    have unused := (list.idle slot bound).mpr member
    exact ⟨bound, by simp [contains, unused]⟩
  · rintro ⟨bound, unused⟩
    refine (list.idle slot bound).mp ?_
    simpa [contains, bound] using unused

theorem mem_activeSlots : slot ∈ pool.activeSlots ↔ pool.contains slot = true := by
  rw [activeSlots, List.mem_filter, mem_allSlots]
  constructor
  · exact fun both => both.2
  · intro used
    have bound : slot < pool.capacity := by
      simp only [contains, Bool.and_eq_true, decide_eq_true_eq] at used
      exact used.1
    exact ⟨bound, used⟩

/-- The free slots and the active ones are all slots. -/
theorem FreeList.partition (list : FreeList pool free) :
    (free ++ pool.activeSlots).Perm (allSlots pool.capacity) := by
  have active : pool.activeSlots.Nodup := (nodup_allSlots _).filter _
  have apart : free.Disjoint pool.activeSlots := by
    intro slot idle used
    have unused := (list.mem_iff.mp idle).2
    rw [mem_activeSlots.mp used] at unused
    cases unused
  refine (List.perm_ext_iff_of_nodup (list.distinct.append active apart) (nodup_allSlots _)).mpr ?_
  intro slot
  rw [List.mem_append, list.mem_iff, mem_activeSlots, mem_allSlots]
  constructor
  · rintro (⟨bound, -⟩ | used)
    · exact bound
    · exact mem_allSlots.mp (List.mem_filter.mp (mem_activeSlots.mpr used)).1
  · intro bound
    cases used : pool.contains slot with
    | false => exact .inl ⟨bound, rfl⟩
    | true => exact .inr rfl

/-! ### One call -/

/-- Every call leaves a freelist of the free slots. -/
theorem FreeList.perform (list : FreeList pool free) (call : PoolCall) :
    (∃ free', FreeList (pool.perform call) free') ∧ (pool.perform call).capacity = pool.capacity := by
  cases call with
  | emplace id ownerId price remaining side =>
    cases free with
    | nil =>
      have same := emplace_full list id ownerId price remaining side
      rw [OrderPool.perform, same]
      exact ⟨⟨[], list⟩, rfl⟩
    | cons first rest =>
      obtain ⟨-, taken, capacity, -⟩ := emplace_slot list id ownerId price remaining side
      exact ⟨⟨rest, taken⟩, capacity⟩
  | release slot =>
    cases used : pool.contains slot with
    | false =>
      rw [OrderPool.perform, release, used]
      exact ⟨⟨free, list⟩, rfl⟩
    | true =>
      simp only [contains, Bool.and_eq_true, decide_eq_true_eq] at used
      obtain ⟨freed, capacity, -⟩ := release_active list used.1 used.2
      exact ⟨⟨slot :: free, freed⟩, capacity⟩
  | clear => exact ⟨⟨_, freeList_initialize list.small⟩, rfl⟩

/-- So any run of calls leaves one, and the capacity does not change. -/
theorem FreeList.run (list : FreeList pool free) (calls : List PoolCall) :
    (∃ free', FreeList (pool.run calls) free') ∧ (pool.run calls).capacity = pool.capacity := by
  induction calls generalizing pool free with
  | nil => exact ⟨⟨free, list⟩, rfl⟩
  | cons call calls ih =>
    obtain ⟨⟨free', list'⟩, capacity⟩ := list.perform call
    obtain ⟨after, capacity'⟩ := ih list'
    exact ⟨after, capacity'.trans capacity⟩

/-! ### What holds after any run -/

/-- The freelist of a pool is acyclic, ends at the sentinel and lists exactly the free slots,
and the counter of free slots is exact. -/
structure Balanced (pool : OrderPool) : Prop where
  freelist : ∃ free, Chain pool.next invalidOrderIndex pool.freeHead free ∧ free.Nodup ∧
    (∀ slot, slot ∈ free ↔ slot < pool.capacity ∧ pool.contains slot = false) ∧
    pool.freeCount.toNat = free.length
  capacity : pool.freeCount.toNat + pool.activeSlots.length = pool.capacity.toNat

/-- How a call to `emplace` ends: with no slot and an unchanged pool when every slot is in use,
and else with a free slot that holds the arguments, beside slots as they were. -/
structure Emplaces (pool : OrderPool) (order : Order) (result : OrderIndex × OrderPool) : Prop where
  full : result.1 = invalidOrderIndex ↔ ∀ slot < pool.capacity, pool.contains slot = true
  refused : result.1 = invalidOrderIndex → result.2 = pool
  fresh : result.1 ≠ invalidOrderIndex → result.1 < pool.capacity ∧ pool.contains result.1 = false
  stored : result.1 ≠ invalidOrderIndex →
    result.2.orders = Function.update pool.orders result.1 order

/-- A pool with its freelist is balanced: every slot is either free or in use, and the counter
says how many are free. -/
theorem FreeList.balanced (list : FreeList pool free) : Balanced pool where
  freelist := ⟨free, list.chain, list.distinct, fun _ => list.mem_iff, list.count⟩
  capacity := by
    have all := list.partition.length_eq
    rw [List.length_append, length_allSlots] at all
    rw [list.count, all]

theorem FreeList.emplaces (list : FreeList pool free) (id : OrderId) (ownerId : OwnerId)
    (price : PriceTick) (remaining : Quantity) (side : Side) :
    Emplaces pool
      { id, ownerId, price, remaining, side, inUse := true, prev := invalidOrderIndex
        next := invalidOrderIndex }
      (pool.emplace id ownerId price remaining side) := by
  cases free with
  | nil =>
    have same := emplace_full list id ownerId price remaining side
    rw [same]
    refine ⟨iff_of_true rfl fun slot bound => ?_, fun _ => rfl, absurd rfl, absurd rfl⟩
    by_contra unused
    exact List.not_mem_nil (list.mem_iff.mpr ⟨bound, Bool.eq_false_iff.mpr unused⟩)
  | cons first rest =>
    obtain ⟨slot, -, -, stored⟩ := emplace_slot list id ownerId price remaining side
    obtain ⟨bound, unused⟩ := list.mem_iff.mp (List.mem_cons_self : first ∈ first :: rest)
    have valid : first ≠ invalidOrderIndex := ne_invalid_of_lt list.small bound
    rw [← slot] at bound unused valid stored
    refine ⟨iff_of_false valid fun taken => ?_, fun refused => absurd refused valid,
      fun _ => ⟨bound, unused⟩, fun _ => stored⟩
    rw [taken _ bound] at unused
    cases unused

/-- A release of a slot that is not in use changes nothing, and any other one frees its slot and
leaves the rest as they were. -/
theorem release_cases (pool : OrderPool) (slot : OrderIndex) :
    (pool.contains slot = false → pool.release slot = pool) ∧
      (pool.contains slot = true → (pool.release slot).contains slot = false ∧
        ∀ other, other ≠ slot → (pool.release slot).orders other = pool.orders other) := by
  constructor
  · intro unused
    rw [release, unused]
    rfl
  · intro used
    refine ⟨?_, fun other apart => release_orders_ne apart⟩
    rw [release, if_neg (by simp [used])]
    simp [contains, set]

/-- After any run of calls the freelist and its counter are exact, `emplace` hands out free slots
only and until there is none, and a release of a slot that is not in use is ignored. -/
theorem pool_safe {memory : OrderIndex → Order} {capacity : OrderCapacity}
    (constructed : construct memory capacity = some pool) (calls : List PoolCall) :
    Balanced (pool.run calls) ∧ (pool.run calls).capacity = capacity ∧
      (∀ id ownerId price remaining side,
        Emplaces (pool.run calls)
          { id, ownerId, price, remaining, side, inUse := true, prev := invalidOrderIndex
            next := invalidOrderIndex }
          ((pool.run calls).emplace id ownerId price remaining side)) ∧
      ∀ slot,
        ((pool.run calls).contains slot = false → (pool.run calls).release slot = pool.run calls) ∧
        ((pool.run calls).contains slot = true →
          ((pool.run calls).release slot).contains slot = false ∧
            ∀ other, other ≠ slot →
              ((pool.run calls).release slot).orders other = (pool.run calls).orders other) := by
  unfold construct at constructed
  split at constructed
  · cases constructed
  · next small =>
    cases constructed
    have fits : capacity ≤ maxCapacity := UInt32.not_lt.mp small
    have blank : FreeList (initializeFreelist
        { orders := memory, capacity, freeHead := invalidOrderIndex, freeCount := 0 })
        (allSlots capacity) := freeList_initialize fits
    obtain ⟨⟨free, list⟩, same⟩ := blank.run calls
    exact ⟨list.balanced, same, list.emplaces, release_cases _⟩

/-- Two slots, one of them released twice and one index that is none: both slots are free. -/
theorem pool_safe_double_release :
    Balanced (run (initializeFreelist
      { orders := fun _ => { next := 7, inUse := true }, capacity := 2
        freeHead := invalidOrderIndex, freeCount := 0 })
      [.emplace 1 1 100 5 .bid, .release 9, .release 0, .release 0]) :=
  (@pool_safe _ (fun _ => { next := 7, inUse := true }) 2 rfl
    [.emplace 1 1 100 5 .bid, .release 9, .release 0, .release 0]).1

end Fexma.OrderPool
