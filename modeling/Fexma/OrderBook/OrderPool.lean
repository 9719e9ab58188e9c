import Fexma.Library.LinkedQueue
import Fexma.OrderBook.Types
import Mathlib.Data.List.Perm.Subperm

/-! The fixed pool of order slots (`detail/order_pool.hpp`, release build). Free
slots form a last-in first-out list through `next`; active slots are the ones
marked in use. -/
namespace Fexma

open LinkedQueue

/-- One slot. The FIFO links and the freelist share `next`. -/
structure Order where
  id : OrderId := 0
  ownerId : OwnerId := 0
  price : PriceTick := 0
  remaining : Quantity := 0
  prev : OrderIndex := 0
  next : OrderIndex := 0
  side : Side := .bid
  inUse : Bool := false
  deriving DecidableEq, Repr, Inhabited

/-- What a slot shows to callers. -/
def Order.view (order : Order) : OrderView :=
  { id := order.id, ownerId := order.ownerId, side := order.side, price := order.price
    remaining := order.remaining }

/-- The slot array is read and written below `capacity` only. -/
structure OrderPool where
  orders : OrderIndex → Order
  capacity : OrderCapacity
  freeHead : OrderIndex
  freeCount : OrderCapacity

namespace OrderPool

/-- `max_capacity()`: the largest capacity whose indices avoid the sentinel. -/
def maxCapacity : OrderCapacity := 0xFFFFFFFE

/-- Overwrite one slot. -/
def set (pool : OrderPool) (slot : OrderIndex) (order : Order) : OrderPool :=
  { pool with orders := Function.update pool.orders slot order }

def initializeFreelist (pool : OrderPool) : OrderPool where
  capacity := pool.capacity
  freeHead := if pool.capacity = 0 then invalidOrderIndex else 0
  freeCount := pool.capacity
  orders slot :=
    if slot < pool.capacity then
      { pool.orders slot with
        next := if slot + 1 = pool.capacity then invalidOrderIndex else slot + 1
        inUse := false }
    else pool.orders slot

/-- The constructor throws on a capacity beyond `maxCapacity`. -/
def create (capacity : OrderCapacity) : Option OrderPool :=
  if capacity > maxCapacity then none
  else some (initializeFreelist
    { orders := fun _ => {}, capacity, freeHead := invalidOrderIndex, freeCount := 0 })

def clear (pool : OrderPool) : OrderPool := pool.initializeFreelist

def acquire (pool : OrderPool) : OrderIndex × OrderPool :=
  if pool.freeHead = invalidOrderIndex then (invalidOrderIndex, pool)
  else
    let slot := pool.freeHead
    let order := pool.orders slot
    (slot, { pool.set slot { order with inUse := true } with
      freeHead := order.next
      freeCount := pool.freeCount - 1 })

def emplace (pool : OrderPool) (id : OrderId) (ownerId : OwnerId) (price : PriceTick)
    (remaining : Quantity) (side : Side) : OrderIndex × OrderPool :=
  let (slot, pool) := pool.acquire
  if slot = invalidOrderIndex then (invalidOrderIndex, pool)
  else (slot, pool.set slot { pool.orders slot with
    id, ownerId, price, remaining, prev := invalidOrderIndex, next := invalidOrderIndex, side })

def contains (pool : OrderPool) (slot : OrderIndex) : Bool :=
  decide (slot < pool.capacity) && (pool.orders slot).inUse

def release (pool : OrderPool) (slot : OrderIndex) : OrderPool :=
  if !pool.contains slot then pool
  else { pool.set slot { pool.orders slot with inUse := false, next := pool.freeHead } with
    freeHead := slot
    freeCount := pool.freeCount + 1 }

/-- `get_unchecked(slot).prev = value`. -/
def setPrev (pool : OrderPool) (slot value : OrderIndex) : OrderPool :=
  pool.set slot { pool.orders slot with prev := value }

/-- `get_unchecked(slot).next = value`. -/
def setNext (pool : OrderPool) (slot value : OrderIndex) : OrderPool :=
  pool.set slot { pool.orders slot with next := value }

/-- `get_unchecked(slot).remaining = value`. -/
def setRemaining (pool : OrderPool) (slot : OrderIndex) (value : Quantity) : OrderPool :=
  pool.set slot { pool.orders slot with remaining := value }

/-- The backward and forward link maps. -/
def prev (pool : OrderPool) (slot : OrderIndex) : OrderIndex := (pool.orders slot).prev
def next (pool : OrderPool) (slot : OrderIndex) : OrderIndex := (pool.orders slot).next

/-! ### Slot writes -/

@[simp] theorem set_capacity (pool : OrderPool) (slot : OrderIndex) (order : Order) :
    (pool.set slot order).capacity = pool.capacity := rfl

@[simp] theorem set_orders_self (pool : OrderPool) (slot : OrderIndex) (order : Order) :
    (pool.set slot order).orders slot = order := by simp [set]

theorem set_orders_ne {pool : OrderPool} {slot other : OrderIndex} {order : Order}
    (apart : other ≠ slot) : (pool.set slot order).orders other = pool.orders other := by
  simp [set, apart]

section Links
variable (pool : OrderPool) (slot value : OrderIndex)

@[simp] theorem setPrev_prev : (pool.setPrev slot value).prev =
    Function.update pool.prev slot value := by
  funext other
  rcases eq_or_ne other slot with rfl | apart <;> simp [prev, setPrev, set, *]

@[simp] theorem setPrev_next : (pool.setPrev slot value).next = pool.next := by
  funext other
  rcases eq_or_ne other slot with rfl | apart <;> simp [next, setPrev, set, *]

@[simp] theorem setNext_next : (pool.setNext slot value).next =
    Function.update pool.next slot value := by
  funext other
  rcases eq_or_ne other slot with rfl | apart <;> simp [next, setNext, set, *]

@[simp] theorem setNext_prev : (pool.setNext slot value).prev = pool.prev := by
  funext other
  rcases eq_or_ne other slot with rfl | apart <;> simp [prev, setNext, set, *]

end Links

/-- `pool'` differs from `pool` in the links of the listed slots only. -/
structure Relinked (pool pool' : OrderPool) (cells : List OrderIndex) : Prop where
  capacity : pool'.capacity = pool.capacity
  freeHead : pool'.freeHead = pool.freeHead
  freeCount : pool'.freeCount = pool.freeCount
  data : ∀ slot, pool'.orders slot =
    { pool.orders slot with prev := pool'.prev slot, next := pool'.next slot }
  frame : ∀ slot ∉ cells, pool'.orders slot = pool.orders slot

theorem Relinked.refl (pool : OrderPool) (cells : List OrderIndex) : Relinked pool pool cells :=
  ⟨rfl, rfl, rfl, fun _ => rfl, fun _ _ => rfl⟩

theorem Relinked.mono {pool pool' : OrderPool} {cells cells' : List OrderIndex}
    (relinked : Relinked pool pool' cells) (subset : cells ⊆ cells') : Relinked pool pool' cells' :=
  ⟨relinked.capacity, relinked.freeHead, relinked.freeCount, relinked.data,
    fun slot outside => relinked.frame slot fun member => outside (subset member)⟩

theorem Relinked.trans {pool pool' pool'' : OrderPool} {cells : List OrderIndex}
    (first : Relinked pool pool' cells) (second : Relinked pool' pool'' cells) :
    Relinked pool pool'' cells where
  capacity := second.capacity.trans first.capacity
  freeHead := second.freeHead.trans first.freeHead
  freeCount := second.freeCount.trans first.freeCount
  data slot := by rw [second.data slot, first.data slot]
  frame slot outside := (second.frame slot outside).trans (first.frame slot outside)

section Kept
variable {pool pool' : OrderPool} {cells : List OrderIndex}
variable (relinked : Relinked pool pool' cells) (slot : OrderIndex)
include relinked

/-- What a view shows of a slot is untouched by relinking. -/
theorem Relinked.view : (pool'.orders slot).view = (pool.orders slot).view := by
  rw [relinked.data slot]
  rfl

theorem Relinked.id : (pool'.orders slot).id = (pool.orders slot).id :=
  congrArg OrderView.id (relinked.view slot)

theorem Relinked.side : (pool'.orders slot).side = (pool.orders slot).side :=
  congrArg OrderView.side (relinked.view slot)

theorem Relinked.price : (pool'.orders slot).price = (pool.orders slot).price :=
  congrArg OrderView.price (relinked.view slot)

theorem Relinked.remaining : (pool'.orders slot).remaining = (pool.orders slot).remaining :=
  congrArg OrderView.remaining (relinked.view slot)

end Kept

theorem relinked_setPrev {pool : OrderPool} {cells : List OrderIndex} {slot value : OrderIndex}
    (listed : slot ∈ cells) : Relinked pool (pool.setPrev slot value) cells := by
  refine ⟨rfl, rfl, rfl, fun other => ?_, fun other outside => ?_⟩
  · rcases eq_or_ne other slot with rfl | apart <;> simp [setPrev, set, prev, next, *]
  · have apart : other ≠ slot := by rintro rfl; exact outside listed
    simp [setPrev, set, apart]

theorem relinked_setNext {pool : OrderPool} {cells : List OrderIndex} {slot value : OrderIndex}
    (listed : slot ∈ cells) : Relinked pool (pool.setNext slot value) cells := by
  refine ⟨rfl, rfl, rfl, fun other => ?_, fun other outside => ?_⟩
  · rcases eq_or_ne other slot with rfl | apart <;> simp [setNext, set, prev, next, *]
  · have apart : other ≠ slot := by rintro rfl; exact outside listed
    simp [setNext, set, apart]

/-! ### The freelist -/

/-- `free` lists the free slots in freelist order; every other slot below the
capacity is in use. -/
structure FreeList (pool : OrderPool) (free : List OrderIndex) : Prop where
  chain : Chain pool.next invalidOrderIndex pool.freeHead free
  distinct : free.Nodup
  count : pool.freeCount.toNat = free.length
  bound : ∀ slot ∈ free, slot < pool.capacity
  idle : ∀ slot < pool.capacity, (pool.orders slot).inUse = false ↔ slot ∈ free
  small : pool.capacity ≤ maxCapacity

variable {pool pool' : OrderPool} {free : List OrderIndex} {slot : OrderIndex}

theorem ne_invalid_of_lt (small : pool.capacity ≤ maxCapacity) (bound : slot < pool.capacity) :
    slot ≠ invalidOrderIndex := by
  rintro rfl
  simp only [maxCapacity, invalidOrderIndex, UInt32.le_iff_toNat_le, UInt32.lt_iff_toNat_lt]
    at small bound
  simp at small bound
  omega

/-- Writes that leave the free slots and the use marks alone keep the freelist. -/
theorem FreeList.congr (list : FreeList pool free) (capacity : pool'.capacity = pool.capacity)
    (head : pool'.freeHead = pool.freeHead) (count : pool'.freeCount = pool.freeCount)
    (frame : ∀ slot ∈ free, pool'.next slot = pool.next slot)
    (use : ∀ slot, (pool'.orders slot).inUse = (pool.orders slot).inUse) :
    FreeList pool' free where
  chain := by
    rw [head]
    exact (chain_congr frame).mpr list.chain
  distinct := list.distinct
  count := by rw [count, list.count]
  bound := by rw [capacity]; exact list.bound
  idle := by simp only [capacity, use]; exact list.idle
  small := by rw [capacity]; exact list.small

theorem FreeList.not_mem (list : FreeList pool free) (used : (pool.orders slot).inUse = true)
    (bound : slot < pool.capacity) : slot ∉ free := by
  rw [← list.idle slot bound, used]
  simp

private theorem ofNat_toNat (capacity : OrderCapacity) {n : ℕ} (below : n ≤ capacity.toNat) :
    (UInt32.ofNat n).toNat = n :=
  UInt32.toNat_ofNat_of_lt' (by have := capacity.toNat_lt; unfold UInt32.size; omega)

/-- All slots of a pool. -/
def allSlots (capacity : OrderCapacity) : List OrderIndex :=
  (List.range capacity.toNat).map UInt32.ofNat

theorem mem_allSlots {capacity : OrderCapacity} {slot : OrderIndex} :
    slot ∈ allSlots capacity ↔ slot < capacity := by
  constructor
  · intro member
    obtain ⟨n, below, rfl⟩ := List.mem_map.mp member
    rw [List.mem_range] at below
    rw [UInt32.lt_iff_toNat_lt, ofNat_toNat capacity (by omega)]
    exact below
  · intro inside
    exact List.mem_map.mpr ⟨slot.toNat, List.mem_range.mpr (UInt32.lt_iff_toNat_lt.mp inside),
      by simp⟩

theorem nodup_allSlots (capacity : OrderCapacity) : (allSlots capacity).Nodup := by
  refine List.Nodup.map_on (fun a ha b hb same => ?_) List.nodup_range
  rw [List.mem_range] at ha hb
  have := congrArg UInt32.toNat same
  rwa [ofNat_toNat capacity (by omega), ofNat_toNat capacity (by omega)] at this

theorem length_allSlots (capacity : OrderCapacity) :
    (allSlots capacity).length = capacity.toNat := by simp [allSlots]

/-- Relinking cells in use leaves the freelist alone. -/
theorem FreeList.relinked {cells : List OrderIndex} (list : FreeList pool free)
    (relinked : Relinked pool pool' cells) (apart : ∀ slot ∈ free, slot ∉ cells) :
    FreeList pool' free :=
  list.congr relinked.capacity relinked.freeHead relinked.freeCount
    (fun slot member => by rw [next, relinked.frame slot (apart slot member), next])
    (fun slot => by rw [relinked.data slot])

/-- Initialisation frees every slot, in rising order, whatever the memory has held. -/
theorem freeList_initialize (small : pool.capacity ≤ maxCapacity) :
    FreeList pool.initializeFreelist (allSlots pool.capacity) where
  chain := by
    -- the chain from slot `n` lists the slots from `n` on
    have tail (n d : ℕ) (reach : n + d = pool.capacity.toNat) :
        Chain pool.initializeFreelist.next invalidOrderIndex
          (if d = 0 then invalidOrderIndex else UInt32.ofNat n)
          ((List.range' n d).map UInt32.ofNat) := by
      induction d generalizing n with
      | zero => rfl
      | succ d ih =>
        have inside : UInt32.ofNat n < pool.capacity := by
          rw [UInt32.lt_iff_toNat_lt, ofNat_toNat pool.capacity (by omega)]; omega
        have link : pool.initializeFreelist.next (UInt32.ofNat n) =
            if d = 0 then invalidOrderIndex else UInt32.ofNat (n + 1) := by
          have step : UInt32.ofNat n + 1 = UInt32.ofNat (n + 1) := by simp
          have last : UInt32.ofNat (n + 1) = pool.capacity ↔ d = 0 := by
            rw [← UInt32.toNat_inj, ofNat_toNat pool.capacity (by omega)]; omega
          simp only [next, initializeFreelist, inside, ↓reduceIte, step, last]
        refine ⟨by simp, ne_invalid_of_lt small inside, ?_⟩
        rw [link]
        exact ih (n + 1) (by omega)
    have whole := tail 0 pool.capacity.toNat (by omega)
    have empty : pool.capacity.toNat = 0 ↔ pool.capacity = 0 := by
      rw [← UInt32.toNat_inj]; rfl
    have zero : UInt32.ofNat 0 = 0 := rfl
    have head : pool.initializeFreelist.freeHead =
        if pool.capacity = 0 then invalidOrderIndex else 0 := rfl
    rw [allSlots, List.range_eq_range', head]
    simpa only [empty, zero] using whole
  distinct := nodup_allSlots _
  count := by rw [length_allSlots]; rfl
  bound slot member := mem_allSlots.mp member
  idle := by
    intro slot bound
    have inside : slot < pool.capacity := bound
    simp only [initializeFreelist, inside, ↓reduceIte, true_iff]
    exact mem_allSlots.mpr inside
  small := small

/-- An exhausted pool hands out nothing and stays as it is. -/
theorem emplace_full (list : FreeList pool []) (id : OrderId) (ownerId : OwnerId)
    (price : PriceTick) (remaining : Quantity) (side : Side) :
    pool.emplace id ownerId price remaining side = (invalidOrderIndex, pool) := by
  have empty : pool.freeHead = invalidOrderIndex := list.chain
  simp [emplace, acquire, empty]

/-- Otherwise the first free slot is filled and nothing else is written. It leaves the freelist
by that. -/
theorem emplace_slot (list : FreeList pool (slot :: free)) (id : OrderId) (ownerId : OwnerId)
    (price : PriceTick) (remaining : Quantity) (side : Side) :
    (pool.emplace id ownerId price remaining side).1 = slot ∧
      FreeList (pool.emplace id ownerId price remaining side).2 free ∧
      (pool.emplace id ownerId price remaining side).2.capacity = pool.capacity ∧
      (pool.emplace id ownerId price remaining side).2.orders = Function.update pool.orders slot
        { id, ownerId, price, remaining, side, inUse := true,
          prev := invalidOrderIndex, next := invalidOrderIndex } := by
  obtain ⟨head, notNil, rest⟩ := list.chain
  obtain ⟨fresh, distinct⟩ := List.nodup_cons.mp list.distinct
  have positive : 1 ≤ pool.freeCount.toNat := by rw [list.count]; simp
  simp only [emplace, acquire, head, notNil, ↓reduceIte]
  refine ⟨trivial, ?_, rfl, ?_⟩
  · refine ⟨?_, distinct, ?_, fun s member => list.bound s (by simp [member]), ?_, list.small⟩
    · refine (chain_congr fun s member => ?_).mpr rest
      have apart : s ≠ slot := fun same => fresh (same ▸ member)
      simp [next, set, apart]
    · have count := list.count
      simp only [List.length_cons] at count
      have le : (1 : UInt32) ≤ pool.freeCount := UInt32.le_iff_toNat_le.mpr positive
      simp only [set, UInt32.toNat_sub_of_le _ _ le]
      have one : (1 : UInt32).toNat = 1 := rfl
      omega
    · intro s bound
      rcases eq_or_ne s slot with rfl | apart
      · simp [set, fresh]
      · have := list.idle s bound
        simpa [set, apart] using this
  · funext s
    rcases eq_or_ne s slot with rfl | apart
    · simp [set]
    · simp [set, apart]

theorem release_orders_ne {other : OrderIndex} (apart : other ≠ slot) :
    (pool.release slot).orders other = pool.orders other := by
  unfold release
  split
  · rfl
  · simp [set, apart]

/-- A slot in use goes back to the head of the freelist, and no other slot is written. -/
theorem release_active (list : FreeList pool free) (bound : slot < pool.capacity)
    (used : (pool.orders slot).inUse = true) :
    FreeList (pool.release slot) (slot :: free) ∧ (pool.release slot).capacity = pool.capacity ∧
      ∀ other, other ≠ slot → (pool.release slot).orders other = pool.orders other := by
  have fresh := list.not_mem used bound
  have taken : pool.contains slot = true := by simp [contains, bound, used]
  have fits : free.length + 1 ≤ pool.capacity.toNat := by
    have distinct : ((slot :: free).map UInt32.toNat).Nodup :=
      (List.nodup_cons.mpr ⟨fresh, list.distinct⟩).map fun a b => UInt32.toNat_inj.mp
    have inside : (slot :: free).map UInt32.toNat ⊆ List.range pool.capacity.toNat := by
      intro n member
      obtain ⟨s, listed, rfl⟩ := List.mem_map.mp member
      refine List.mem_range.mpr (UInt32.lt_iff_toNat_lt.mp ?_)
      rcases List.mem_cons.mp listed with rfl | listed
      · exact bound
      · exact list.bound s listed
    simpa using (List.subperm_of_subset distinct inside).length_le
  simp only [release, taken, Bool.not_true, Bool.false_eq_true, ↓reduceIte]
  refine ⟨⟨?_, List.nodup_cons.mpr ⟨fresh, list.distinct⟩, ?_, ?_, ?_, list.small⟩, rfl,
    fun other apart => by simp [set, apart]⟩
  · refine ⟨rfl, ne_invalid_of_lt list.small bound, ?_⟩
    have link : ({ pool.set slot { pool.orders slot with inUse := false, next := pool.freeHead } with
        freeHead := slot, freeCount := pool.freeCount + 1 } : OrderPool).next slot =
        pool.freeHead := by simp [next, set]
    rw [link]
    refine (chain_congr fun s member => ?_).mpr list.chain
    have apart : s ≠ slot := fun same => fresh (same ▸ member)
    simp [next, set, apart]
  · have below : pool.capacity.toNat < 2 ^ 32 := pool.capacity.toNat_lt
    have one : (1 : UInt32).toNat = 1 := rfl
    simp only [UInt32.toNat_add, List.length_cons, list.count, one]
    exact Nat.mod_eq_of_lt (by omega)
  · intro s member
    rcases List.mem_cons.mp member with rfl | member
    · exact bound
    · exact list.bound s member
  · intro s inside
    rcases eq_or_ne s slot with rfl | apart
    · simp [set]
    · have := list.idle s inside
      simpa [set, apart] using this

end OrderPool

end Fexma
