import Fexma.OrderBook.Snapshot
import Fexma.OrderBook.Validation

/-! The structural invariant of a book, spelled out over its four data structures, and the
self-check that accepts every book with that structure. -/
namespace Fexma.OrderBook

open LinkedQueue StableOrder WordBitmap

/-! ### The structure -/

/-- The slots linked into a side, level by level. -/
def linkedSlots (segments : ℕ) (queue : ℕ → ℕ → List OrderIndex) : List OrderIndex :=
  (List.range segments).flatMap fun segment => (List.range 64).flatMap (queue segment)

/-- A level is the FIFO of `queue`: links, ends and exact aggregates. -/
structure LevelStructure (pool : OrderPool) (level : PriceLevel) (queue : List OrderIndex) :
    Prop where
  linked : Segment pool.prev pool.next invalidOrderIndex level.head queue level.tail
    invalidOrderIndex
  orderCount : level.orderCount.toNat = queue.length
  totalQuantity : level.totalQuantity.toNat = SideBook.aggregate pool queue

/-- Some level of the segment is not empty. -/
def OccupiedSegment (queue : ℕ → ℕ → List OrderIndex) (segments segment : ℕ) : Prop :=
  segment < segments ∧ ∃ offset < 64, queue segment offset ≠ []

/-- A side: its levels, the two bitmaps over them, the cached best segment and the exact
totals. -/
structure SideStructure {side : Side} (book : OrderBook) (half : SideBook side)
    (queue : ℕ → ℕ → List OrderIndex) : Prop where
  levels : ∀ segment < half.segmentCount, ∀ offset < 64,
    LevelStructure book.pool ((half.segments segment).levels offset) (queue segment offset)
  orders : ∀ segment < half.segmentCount, ∀ offset < 64, ∀ slot ∈ queue segment offset,
    (book.pool.orders slot).side = side ∧
      (book.pool.orders slot).price = half.priceFromLocal segment offset ∧
      book.priceInRange (book.pool.orders slot).price ∧ (book.pool.orders slot).remaining ≠ 0
  prices : ∀ segment < half.segmentCount, ∀ offset < 64,
    (half.priceFromLocal segment offset).toNat = (half.baseSegment + segment) * 64 + offset
  mask : ∀ segment < half.segmentCount, ∀ offset < 64,
    (half.segments segment).activeMask.getLsbD offset = true ↔ queue segment offset ≠ []
  words : half.segmentOccupancyWordCount = (half.segmentCount + 63) / 64
  occupancy : ∀ segment, bitAt half.segmentOccupancy segment = true ↔
    OccupiedSegment queue half.segmentCount segment
  best : (linkedSlots half.segmentCount queue = [] ∧ half.bestSegment = SideBook.invalidSegment) ∨
    (OccupiedSegment queue half.segmentCount half.bestSegment ∧
      ∀ segment, OccupiedSegment queue half.segmentCount segment →
        SideBook.NotWorse side half.bestSegment segment)
  orderCount : half.orderCount.toNat = (linkedSlots half.segmentCount queue).length
  totalQuantity : half.totalQuantity.toNat =
    SideBook.aggregate book.pool (linkedSlots half.segmentCount queue)

/-- The pool is split into an acyclic freelist and the active slots, the index is a bijection
between its entries and the active slots, and every active slot is linked exactly once. -/
structure Structure (book : OrderBook) : Prop where
  freelist : ∃ free, Chain book.pool.next invalidOrderIndex book.pool.freeHead free ∧ free.Nodup ∧
    book.pool.freeCount.toNat = free.length ∧
    ∀ slot, slot ∈ free ↔ slot < book.pool.capacity ∧ ¬ book.pool.contains slot
  capacity : book.pool.capacity = book.config.maxOrders
  indexed : ∀ slot, book.pool.contains slot → ∃ pos < book.index.bucketCount,
    book.index.cells pos = some ((book.pool.orders slot).id, slot) ∧
      book.index.find (book.pool.orders slot).id = slot
  entries : ∀ pos < book.index.bucketCount, ∀ id slot, book.index.cells pos = some (id, slot) →
    book.pool.contains slot ∧ (book.pool.orders slot).id = id
  unique : ∀ pos < book.index.bucketCount, ∀ other < book.index.bucketCount, ∀ id slot slot',
    book.index.cells pos = some (id, slot) → book.index.cells other = some (id, slot') →
      pos = other
  sides : ∃ queue : Side → ℕ → ℕ → List OrderIndex,
    SideStructure book book.bids (queue .bid) ∧ SideStructure book book.asks (queue .ask) ∧
    (linkedSlots book.bids.segmentCount (queue .bid) ++
      linkedSlots book.asks.segmentCount (queue .ask)).Nodup ∧
    (∀ slot, slot ∈ linkedSlots book.bids.segmentCount (queue .bid) ++
      linkedSlots book.asks.segmentCount (queue .ask) ↔ book.pool.contains slot) ∧
    book.index.size = (linkedSlots book.bids.segmentCount (queue .bid) ++
      linkedSlots book.asks.segmentCount (queue .ask)).length

/-! ### The invariant has that structure -/

variable {book : OrderBook} {slots : Side → List OrderIndex} {free queue : List OrderIndex}
variable {side : Side} {segment offset : ℕ} {pool : OrderPool}

/-- The queue at a coordinate of a side. -/
def queueAt (book : OrderBook) (slots : Side → List OrderIndex) (side : Side)
    (segment offset : ℕ) : List OrderIndex :=
  group (SideBook.priority side book.pool)
    (rank side ((book.half side).priceFromLocal segment offset)) (slots side)

theorem linkedSlots_eq (segments : ℕ) (queue : ℕ → ℕ → List OrderIndex) :
    linkedSlots segments queue =
      (List.range (segments * 64)).flatMap fun n => queue (n / 64) (n % 64) := by
  rw [← range_flatMap, linkedSlots, List.flatMap_assoc]
  refine List.flatMap_congr fun segment _ => ?_
  rw [List.flatMap_map]
  refine List.flatMap_congr fun offset inside => ?_
  have bound := List.mem_range.mp inside
  have word : (segment * 64 + offset) / 64 = segment := by omega
  have bit : (segment * 64 + offset) % 64 = offset := by omega
  rw [word, bit]

theorem mem_linkedSlots {segments : ℕ} {queue : ℕ → ℕ → List OrderIndex} {slot : OrderIndex} :
    slot ∈ linkedSlots segments queue ↔
      ∃ segment < segments, ∃ offset < 64, slot ∈ queue segment offset := by
  simp only [linkedSlots, List.mem_flatMap, List.mem_range]

theorem aggregate_perm {other : List OrderIndex} (perm : queue.Perm other) :
    SideBook.aggregate pool queue = SideBook.aggregate pool other :=
  (perm.map _).sum_nat

/-- Quantities of 32 bits at fewer than 2^32 slots add up below 2^64, so the total of a level
does not wrap. -/
theorem aggregate_lt (distinct : queue.Nodup) (valid : invalidOrderIndex ∉ queue) :
    SideBook.aggregate pool queue < 2 ^ 64 := by
  have few := SideBook.length_lt distinct valid
  have each : SideBook.aggregate pool queue ≤ queue.length * (2 ^ 32 - 1) := by
    clear few distinct valid
    induction queue with
    | nil => exact Nat.zero_le _
    | cons slot rest ih =>
      have small := (pool.orders slot).remaining.toNat_lt
      rw [SideBook.aggregate, List.map_cons, List.sum_cons, List.length_cons, Nat.succ_mul]
      rw [SideBook.aggregate] at ih
      omega
  calc SideBook.aggregate pool queue ≤ queue.length * (2 ^ 32 - 1) := each
    _ ≤ 2 ^ 32 * (2 ^ 32 - 1) := Nat.mul_le_mul_right _ few.le
    _ < 2 ^ 64 := by decide

theorem levelStructure {level : PriceLevel} (held : SideBook.LevelHolds pool level queue)
    (distinct : queue.Nodup) (valid : invalidOrderIndex ∉ queue) :
    LevelStructure pool level queue where
  linked := held.linked
  orderCount := by
    rw [held.count, UInt32.toNat_ofNat_of_lt' (SideBook.length_lt distinct valid)]
  totalQuantity := by
    rw [held.quantity, UInt64.toNat_ofNat_of_lt' (aggregate_lt distinct valid)]

theorem mem_queueAt {slot : OrderIndex} : slot ∈ queueAt book slots side segment offset ↔
    slot ∈ slots side ∧
      (book.pool.orders slot).price = (book.half side).priceFromLocal segment offset := by
  rw [queueAt, mem_group, SideBook.priority, (rank_injective side).eq_iff]

section Sides
variable (rep : Rep book slots free)
include rep

/-- A price in range is the price of its own coordinates and of no others. -/
theorem Rep.coordinates {price : PriceTick} (contained : (book.half side).containsPrice price)
    (inside : segment < (book.half side).segmentCount) (bound : offset < 64) :
    ((book.half side).localSegment price = segment ∧ SideBook.priceOffset price = offset) ↔
      price = (book.half side).priceFromLocal segment offset := by
  have shaped := (rep.holds side).shaped
  constructor
  · rintro ⟨rfl, rfl⟩
    exact (SideBook.priceFromLocal_coordinates shaped contained).symm
  · intro same
    have value := @priceAt_toNat _ _ (segment * 64 + offset) shaped (by omega)
    have word : (segment * 64 + offset) / 64 = segment := by omega
    have bit : (segment * 64 + offset) % 64 = offset := by omega
    rw [word, bit, ← same] at value
    rw [SideBook.localSegment_eq, SideBook.priceOffset_eq]
    omega

/-- Walking the levels of a side meets every listed slot once. -/
theorem Rep.linkedSlots_perm (side : Side) :
    (linkedSlots (book.half side).segmentCount (queueAt book slots side)).Perm (slots side) := by
  have sorted := queues_sorted rep side
  rw [linkedSlots_eq]
  exact (List.Perm.of_eq sorted).trans sort_perm

theorem Rep.occupied : (book.half side).Occupied book.pool (slots side) segment ↔
    OccupiedSegment (queueAt book slots side) (book.half side).segmentCount segment := by
  have holds := rep.holds side
  constructor
  · rintro ⟨slot, member, rfl⟩
    have contained := holds.inside slot member
    refine ⟨SideBook.localSegment_lt holds.shaped contained,
      SideBook.priceOffset (book.pool.orders slot).price, SideBook.priceOffset_lt, ?_⟩
    refine List.ne_nil_of_mem (mem_queueAt.mpr ⟨member, ?_⟩)
    exact (SideBook.priceFromLocal_coordinates holds.shaped contained).symm
  · rintro ⟨inside, offset, bound, nonempty⟩
    obtain ⟨slot, listed⟩ := List.exists_mem_of_ne_nil _ nonempty
    obtain ⟨member, price⟩ := mem_queueAt.mp listed
    exact ⟨slot, member,
      ((rep.coordinates (holds.inside slot member) inside bound).mpr price).1⟩

/-- A side of a represented book has its structure, with the queues read off the priority
list. -/
theorem Rep.sideStructure (side : Side) :
    SideStructure book (book.half side) (queueAt book slots side) := by
  have holds := rep.holds side
  have perm := rep.linkedSlots_perm side
  refine
    { levels := fun segment inside offset bound => ?_
      orders := fun segment inside offset bound slot listed => ?_
      prices := fun segment inside offset bound => ?_
      mask := fun segment inside offset bound => ?_
      words := holds.shaped.words
      occupancy := fun segment => (holds.occupancy segment).trans rep.occupied
      best := ?_
      orderCount := ?_
      totalQuantity := ?_ }
  · exact levelStructure (level_holds rep inside bound) (holds.distinct.filter _)
      fun member => holds.valid (mem_group.mp member).1
  · obtain ⟨member, price⟩ := mem_queueAt.mp listed
    refine ⟨rep.sided _ _ member, price, ?_, rep.positive _ _ member⟩
    rw [priceInRange, ← rep.range side]
    exact holds.inside slot member
  · have value := @priceAt_toNat _ _ (segment * 64 + offset) holds.shaped (by omega)
    have word : (segment * 64 + offset) / 64 = segment := by omega
    have bit : (segment * 64 + offset) % 64 = offset := by omega
    rw [word, bit] at value
    omega
  · rw [holds.mask segment offset bound]
    constructor
    · rintro ⟨slot, member, here⟩
      exact List.ne_nil_of_mem (mem_queueAt.mpr
        ⟨member, (rep.coordinates (holds.inside slot member) inside bound).mp here⟩)
    · intro nonempty
      obtain ⟨slot, listed⟩ := List.exists_mem_of_ne_nil _ nonempty
      obtain ⟨member, price⟩ := mem_queueAt.mp listed
      exact ⟨slot, member, (rep.coordinates (holds.inside slot member) inside bound).mpr price⟩
  · rcases holds.best with ⟨none, invalid⟩ | ⟨occupied, extreme⟩
    · refine .inl ⟨?_, invalid⟩
      rw [none] at perm
      exact perm.eq_nil
    · exact .inr ⟨rep.occupied.mp occupied, fun segment other => extreme segment (rep.occupied.mpr other)⟩
  · rw [holds.count, perm.length_eq,
      UInt32.toNat_ofNat_of_lt' (SideBook.length_lt holds.distinct holds.valid)]
  · rw [holds.quantity, aggregate_perm perm,
      UInt64.toNat_ofNat_of_lt' (aggregate_lt holds.distinct holds.valid)]

theorem Rep.contains_iff {slot : OrderIndex} : book.pool.contains slot ↔ slot ∈ active slots := by
  have used := rep.freeList.idle slot
  have split := rep.partition.mem_iff (a := slot)
  rw [OrderPool.mem_allSlots, List.mem_append] at split
  rw [OrderPool.contains, Bool.and_eq_true, decide_eq_true_eq]
  constructor
  · rintro ⟨bound, inUse⟩
    have notFree := rep.freeList.not_mem inUse bound
    exact (split.mpr bound).resolve_left notFree
  · intro member
    exact ⟨rep.bound member, rep.inUse member⟩

/-- A represented book has the structure of a book: freelist, index, queues, masks, totals and
both caches. -/
theorem Rep.structured : book.Structure := by
  have bids := rep.linkedSlots_perm .bid
  have asks := rep.linkedSlots_perm .ask
  have both : (linkedSlots book.bids.segmentCount (queueAt book slots .bid) ++
      linkedSlots book.asks.segmentCount (queueAt book slots .ask)).Perm (active slots) :=
    bids.append asks
  refine
    { freelist := ⟨free, rep.freeList.chain, rep.freeList.distinct, rep.freeList.count, fun slot => ?_⟩
      capacity := rep.capacity
      indexed := fun slot used => ?_
      entries := fun pos inside id slot entry => ?_
      unique := rep.wellFormed.placed.distinct
      sides := ⟨queueAt book slots, rep.sideStructure .bid, rep.sideStructure .ask,
        both.nodup_iff.mpr (List.nodup_append.mp rep.distinct).2.1, fun slot => ?_, ?_⟩ }
  · rw [rep.contains_iff]
    constructor
    · intro idle
      exact ⟨rep.freeList.bound slot idle, fun member => rep.not_free member idle⟩
    · rintro ⟨bound, unused⟩
      have listed := rep.partition.mem_iff.mpr (OrderPool.mem_allSlots.mpr bound)
      exact (List.mem_append.mp listed).resolve_right unused
  · have maps := (rep.maps _ slot).mpr ⟨rep.contains_iff.mp used, rfl⟩
    obtain ⟨pos, inside, entry⟩ := maps
    exact ⟨pos, inside, entry, OrderIdIndex.find_maps rep.wellFormed ⟨pos, inside, entry⟩⟩
  · obtain ⟨member, same⟩ := (rep.maps id slot).mp ⟨pos, inside, entry⟩
    exact ⟨rep.contains_iff.mpr member, same⟩
  · rw [rep.contains_iff]
    exact both.mem_iff
  · rw [both.length_eq]
    exact rep.size

end Sides

end Fexma.OrderBook
