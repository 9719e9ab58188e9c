import Fexma.Library.StableOrder
import Fexma.Library.WordBitmap
import Fexma.OrderBook.OrderPool
import Mathlib.Algebra.BigOperators.Group.List.Basic
import Mathlib.Data.Nat.Bitwise

/-! One side of the book (`side_book.hpp`, `price_segment.hpp`,
`price_level.hpp`): a price-indexed array of FIFO levels in segments of 64, with
bit masks of the active levels, a bitmap of the occupied segments and a cached
best segment. -/
namespace Fexma

open LinkedQueue StableOrder WordBitmap

structure PriceLevel where
  head : OrderIndex := invalidOrderIndex
  tail : OrderIndex := invalidOrderIndex
  totalQuantity : AggregateQuantity := 0
  orderCount : UInt32 := 0
  deriving DecidableEq, Repr, Inhabited

/-- 64 levels and the mask of the non-empty ones. -/
structure PriceSegment where
  levels : ℕ → PriceLevel := fun _ => {}
  activeMask : BitVec 64 := 0

namespace PriceSegment

def empty (segment : PriceSegment) : Bool := segment.activeMask == 0

def bestAskOffset (segment : PriceSegment) : ℕ := lowest segment.activeMask

def bestBidOffset (segment : PriceSegment) : ℕ := highest segment.activeMask

end PriceSegment

/-- The segment array is read and written below `segmentCount` only, the bitmap
below `segmentOccupancyWordCount`. -/
structure SideBook (side : Side) where
  minPriceTick : PriceTick
  maxPriceTick : PriceTick
  baseSegment : ℕ
  segmentCount : ℕ
  segmentOccupancyWordCount : ℕ
  segments : ℕ → PriceSegment
  segmentOccupancy : ℕ → BitVec 64
  bestSegment : ℕ
  orderCount : UInt32
  totalQuantity : AggregateQuantity

namespace SideBook

variable {side : Side}

/-- `static_cast<std::size_t>(-1)`. -/
def invalidSegment : ℕ := 2 ^ 64 - 1

def wordCountFor (bitCount : ℕ) : ℕ := (bitCount + 63) / 64

def segmentCountFor (minPriceTick maxPriceTick : PriceTick) : ℕ :=
  if maxPriceTick < minPriceTick then 0
  else (maxPriceTick >>> 6).toNat - (minPriceTick >>> 6).toNat + 1

def clear (book : SideBook side) : SideBook side :=
  { book with
    bestSegment := invalidSegment
    orderCount := 0
    totalQuantity := 0
    segments := fun _ => {}
    segmentOccupancy := fun _ => 0 }

def create (side : Side) (minPriceTick maxPriceTick : PriceTick) : SideBook side :=
  let segmentCount := segmentCountFor minPriceTick maxPriceTick
  clear
    { minPriceTick, maxPriceTick, segmentCount
      baseSegment := (minPriceTick >>> 6).toNat
      segmentOccupancyWordCount := wordCountFor segmentCount
      segments := fun _ => {}
      segmentOccupancy := fun _ => 0
      bestSegment := invalidSegment
      orderCount := 0
      totalQuantity := 0 }

def containsPrice (book : SideBook side) (price : PriceTick) : Bool :=
  book.minPriceTick ≤ price && price ≤ book.maxPriceTick

def localSegment (book : SideBook side) (price : PriceTick) : ℕ :=
  (price >>> 6).toNat - book.baseSegment

def priceOffset (price : PriceTick) : ℕ := (price &&& 63).toNat

def priceFromLocal (book : SideBook side) (segment offset : ℕ) : PriceTick :=
  UInt32.ofNat ((book.baseSegment + segment) * 64 + offset)

/-- The level of a price. -/
def level (book : SideBook side) (price : PriceTick) : PriceLevel :=
  (book.segments (book.localSegment price)).levels (priceOffset price)

/-- Overwrite one level and the mask of its segment. -/
def writeLevel (book : SideBook side) (segment offset : ℕ) (level : PriceLevel)
    (activeMask : BitVec 64) : SideBook side :=
  { book with
    segments := Function.update book.segments segment
      { levels := Function.update (book.segments segment).levels offset level, activeMask } }

def setSegmentOccupied (book : SideBook side) (segment : ℕ) : SideBook side :=
  { book with
    segmentOccupancy := Function.update book.segmentOccupancy (segment / 64)
      (setBit (book.segmentOccupancy (segment / 64)) (segment % 64)) }

def clearSegmentOccupied (book : SideBook side) (segment : ℕ) : SideBook side :=
  { book with
    segmentOccupancy := Function.update book.segmentOccupancy (segment / 64)
      (clearBit (book.segmentOccupancy (segment / 64)) (segment % 64)) }

def firstOccupiedSegment (book : SideBook side) : ℕ :=
  (firstSet book.segmentOccupancy book.segmentOccupancyWordCount).getD invalidSegment

def lastOccupiedSegment (book : SideBook side) : ℕ :=
  (lastSet book.segmentOccupancy book.segmentOccupancyWordCount).getD invalidSegment

def recomputeBest (book : SideBook side) : SideBook side :=
  { book with
    bestSegment := if side = .ask then book.firstOccupiedSegment else book.lastOccupiedSegment }

def updateBestAfterInsert (book : SideBook side) (segment : ℕ) : SideBook side :=
  if book.bestSegment = invalidSegment then { book with bestSegment := segment }
  else if side = .ask then
    if segment < book.bestSegment then { book with bestSegment := segment } else book
  else if segment > book.bestSegment then { book with bestSegment := segment } else book

/-- The links that `append` writes: behind the tail of its level. -/
def link (pool : OrderPool) (slot tail : OrderIndex) : OrderPool :=
  let pool := (pool.setPrev slot tail).setNext slot invalidOrderIndex
  if tail ≠ invalidOrderIndex then pool.setNext tail slot else pool

/-- The links that `remove` writes. -/
def unlink (pool : OrderPool) (slot : OrderIndex) : OrderPool :=
  let order := pool.orders slot
  let pool := if order.prev ≠ invalidOrderIndex then pool.setNext order.prev order.next else pool
  let pool := if order.next ≠ invalidOrderIndex then pool.setPrev order.next order.prev else pool
  (pool.setPrev slot invalidOrderIndex).setNext slot invalidOrderIndex

def append (book : SideBook side) (pool : OrderPool) (slot : OrderIndex) :
    SideBook side × OrderPool :=
  let order := pool.orders slot
  let segment := book.localSegment order.price
  let offset := priceOffset order.price
  let priceSegment := book.segments segment
  let level := priceSegment.levels offset
  let segmentWasEmpty := priceSegment.empty
  let head := if level.tail ≠ invalidOrderIndex then level.head else slot
  let mask :=
    if level.tail ≠ invalidOrderIndex then priceSegment.activeMask
    else setBit priceSegment.activeMask offset
  let book := if segmentWasEmpty then book.setSegmentOccupied segment else book
  let book := book.writeLevel segment offset
    { head
      tail := slot
      totalQuantity := level.totalQuantity + order.remaining.toUInt64
      orderCount := level.orderCount + 1 } mask
  let book := { book with
    orderCount := book.orderCount + 1
    totalQuantity := book.totalQuantity + order.remaining.toUInt64 }
  (book.updateBestAfterInsert segment, link pool slot level.tail)

def remove (book : SideBook side) (pool : OrderPool) (slot : OrderIndex) :
    SideBook side × OrderPool :=
  let order := pool.orders slot
  let segment := book.localSegment order.price
  let offset := priceOffset order.price
  let priceSegment := book.segments segment
  let level := priceSegment.levels offset
  let level : PriceLevel :=
    { head := if order.prev ≠ invalidOrderIndex then level.head else order.next
      tail := if order.next ≠ invalidOrderIndex then level.tail else order.prev
      totalQuantity := level.totalQuantity - order.remaining.toUInt64
      orderCount := level.orderCount - 1 }
  let book := { book with
    orderCount := book.orderCount - 1
    totalQuantity := book.totalQuantity - order.remaining.toUInt64 }
  let book :=
    if level.orderCount = 0 then
      let mask := clearBit priceSegment.activeMask offset
      let book := book.writeLevel segment offset level mask
      if segment = book.bestSegment ∧ mask = 0 then
        (book.clearSegmentOccupied segment).recomputeBest
      else if mask = 0 then book.clearSegmentOccupied segment
      else book
    else book.writeLevel segment offset level priceSegment.activeMask
  (book, unlink pool slot)

/-- Move a total by the difference of two quantities. -/
def adjustTotal (previous newRemaining : Quantity) (total : AggregateQuantity) : AggregateQuantity :=
  if newRemaining ≥ previous then total + (newRemaining - previous).toUInt64
  else total - (previous - newRemaining).toUInt64

def setRemaining (book : SideBook side) (pool : OrderPool) (slot : OrderIndex)
    (newRemaining : Quantity) : SideBook side × OrderPool :=
  let order := pool.orders slot
  let segment := book.localSegment order.price
  let offset := priceOffset order.price
  let priceSegment := book.segments segment
  let level := priceSegment.levels offset
  let book := book.writeLevel segment offset
    { level with totalQuantity := adjustTotal order.remaining newRemaining level.totalQuantity }
    priceSegment.activeMask
  ({ book with totalQuantity := adjustTotal order.remaining newRemaining book.totalQuantity },
    pool.setRemaining slot newRemaining)

/-- The offset of the best level of a non-empty segment. -/
def bestOffset (side : Side) (segment : PriceSegment) : ℕ :=
  if side = .ask then segment.bestAskOffset else segment.bestBidOffset

def bestOrder (book : SideBook side) : OrderIndex :=
  if book.bestSegment = invalidSegment then invalidOrderIndex
  else
    let segment := book.segments book.bestSegment
    (segment.levels (bestOffset side segment)).head

def bestPrice (book : SideBook side) : PriceTick :=
  if book.bestSegment = invalidSegment then 0
  else book.priceFromLocal book.bestSegment
    (bestOffset side (book.segments book.bestSegment))

/-! ### Prices and coordinates -/

/-- The coordinate system of a side book follows its price range. -/
structure Shaped (book : SideBook side) : Prop where
  base : book.baseSegment = book.minPriceTick.toNat / 64
  count : book.segmentCount = segmentCountFor book.minPriceTick book.maxPriceTick
  words : book.segmentOccupancyWordCount = wordCountFor book.segmentCount

theorem shaped_create (minPriceTick maxPriceTick : PriceTick) :
    Shaped (create side minPriceTick maxPriceTick) where
  base := by simp [create, clear, Nat.shiftRight_eq_div_pow]
  count := rfl
  words := rfl

variable {book : SideBook side} {pool pool' : OrderPool} {slots queue : List OrderIndex}
variable {slot : OrderIndex} {price price' : PriceTick} {segment offset : ℕ}

theorem localSegment_eq : book.localSegment price = price.toNat / 64 - book.baseSegment := by
  simp [localSegment, Nat.shiftRight_eq_div_pow]

theorem priceOffset_eq : priceOffset price = price.toNat % 64 := by
  simpa [priceOffset] using Nat.and_two_pow_sub_one_eq_mod price.toNat 6

theorem priceOffset_lt : priceOffset price < 64 := by
  rw [priceOffset_eq]
  exact Nat.mod_lt _ (by decide)

theorem containsPrice_iff : book.containsPrice price = true ↔
    book.minPriceTick.toNat ≤ price.toNat ∧ price.toNat ≤ book.maxPriceTick.toNat := by
  simp [containsPrice, UInt32.le_iff_toNat_le]

section Coordinates
variable (shaped : Shaped book)
include shaped

/-- Array accesses at a price in range stay inside the segment array. -/
theorem localSegment_lt (inside : book.containsPrice price) :
    book.localSegment price < book.segmentCount := by
  obtain ⟨least, most⟩ := containsPrice_iff.mp inside
  rw [localSegment_eq, shaped.base, shaped.count, segmentCountFor]
  have nonempty : ¬ book.maxPriceTick < book.minPriceTick := by
    rw [UInt32.lt_iff_toNat_lt]; omega
  simp only [nonempty, ↓reduceIte, UInt32.toNat_shiftRight]
  simp only [UInt32.reduceToNat, Nat.reduceMod, Nat.shiftRight_eq_div_pow, Nat.reducePow]
  omega

theorem segmentCount_lt : book.segmentCount < invalidSegment := by
  have := book.maxPriceTick.toNat_lt
  rw [shaped.count, segmentCountFor, invalidSegment]
  split
  · decide
  · simp only [UInt32.toNat_shiftRight, UInt32.reduceToNat, Nat.reduceMod,
      Nat.shiftRight_eq_div_pow, Nat.reducePow]
    omega

/-- Segment and offset together determine a price in range, so no two prices share a level. -/
theorem coordinates_inj (inside : book.containsPrice price) (inside' : book.containsPrice price')
    (segments : book.localSegment price = book.localSegment price')
    (offsets : priceOffset price = priceOffset price') : price = price' := by
  obtain ⟨least, -⟩ := containsPrice_iff.mp inside
  obtain ⟨least', -⟩ := containsPrice_iff.mp inside'
  rw [localSegment_eq, localSegment_eq, shaped.base] at segments
  rw [priceOffset_eq, priceOffset_eq] at offsets
  rw [← UInt32.toNat_inj]
  omega

/-- `price_from_local` inverts the coordinates. -/
theorem priceFromLocal_coordinates (inside : book.containsPrice price) :
    book.priceFromLocal (book.localSegment price) (priceOffset price) = price := by
  obtain ⟨least, -⟩ := containsPrice_iff.mp inside
  rw [priceFromLocal, localSegment_eq, priceOffset_eq, shaped.base]
  have whole : (book.minPriceTick.toNat / 64 + (price.toNat / 64 - book.minPriceTick.toNat / 64)) *
      64 + price.toNat % 64 = price.toNat := by omega
  rw [whole, UInt32.ofNat_toNat]

end Coordinates

/-! ### What a side book holds -/

/-- The summed remaining quantity of some slots. -/
def aggregate (pool : OrderPool) (slots : List OrderIndex) : ℕ :=
  (slots.map fun slot => (pool.orders slot).remaining.toNat).sum

/-- The rank of a slot's price. -/
def priority (side : Side) (pool : OrderPool) (slot : OrderIndex) : ℤ :=
  rank side (pool.orders slot).price

/-- A level is the FIFO of `queue`, with exact aggregates. -/
structure LevelHolds (pool : OrderPool) (level : PriceLevel) (queue : List OrderIndex) : Prop where
  linked : Segment pool.prev pool.next invalidOrderIndex level.head queue level.tail
    invalidOrderIndex
  count : level.orderCount = UInt32.ofNat queue.length
  quantity : level.totalQuantity = UInt64.ofNat (aggregate pool queue)

/-- Some listed slot lies in the segment. -/
def Occupied (book : SideBook side) (pool : OrderPool) (slots : List OrderIndex)
    (segment : ℕ) : Prop :=
  ∃ slot ∈ slots, book.localSegment (pool.orders slot).price = segment

/-- Segment `s` lies at better or equal prices than `t`. -/
def NotWorse : Side → ℕ → ℕ → Prop
  | .ask, s, t => s ≤ t
  | .bid, s, t => t ≤ s

/-- The side book holds exactly `slots`, listed best price first and by arrival
within a price. -/
structure Holds (book : SideBook side) (pool : OrderPool) (slots : List OrderIndex) : Prop where
  shaped : Shaped book
  valid : invalidOrderIndex ∉ slots
  distinct : slots.Nodup
  ordered : Ordered (priority side pool) slots
  inside : ∀ slot ∈ slots, book.containsPrice (pool.orders slot).price
  levels : ∀ price, book.containsPrice price →
    LevelHolds pool (book.level price) (group (priority side pool) (rank side price) slots)
  unused : ∀ segment offset, (∀ price, book.containsPrice price →
    ¬ (book.localSegment price = segment ∧ priceOffset price = offset)) →
    (book.segments segment).levels offset = {}
  mask : ∀ segment offset, offset < 64 →
    ((book.segments segment).activeMask.getLsbD offset = true ↔
      ∃ slot ∈ slots, book.localSegment (pool.orders slot).price = segment ∧
        priceOffset (pool.orders slot).price = offset)
  occupancy : ∀ segment, bitAt book.segmentOccupancy segment = true ↔ book.Occupied pool slots segment
  best : (slots = [] ∧ book.bestSegment = invalidSegment) ∨
    (book.Occupied pool slots book.bestSegment ∧
      ∀ segment, book.Occupied pool slots segment → NotWorse side book.bestSegment segment)
  count : book.orderCount = UInt32.ofNat slots.length
  quantity : book.totalQuantity = UInt64.ofNat (aggregate pool slots)

/-- Distinct valid slots are fewer than the slot numbers. -/
theorem length_lt (distinct : slots.Nodup) (valid : invalidOrderIndex ∉ slots) :
    slots.length < 2 ^ 32 := by
  have inside : slots.map UInt32.toNat ⊆ List.range (2 ^ 32 - 1) := by
    intro n member
    obtain ⟨slot, listed, rfl⟩ := List.mem_map.mp member
    have bound := slot.toNat_lt
    have notLast : slot.toNat ≠ 2 ^ 32 - 1 := fun last => by
      have top : slot = invalidOrderIndex := UInt32.toNat_inj.mp last
      exact valid (top ▸ listed)
    exact List.mem_range.mpr (by omega)
  have := (List.subperm_of_subset (distinct.map fun a b => UInt32.toNat_inj.mp) inside).length_le
  rw [List.length_map, List.length_range] at this
  omega

theorem LevelHolds.congr {level : PriceLevel} (holds : LevelHolds pool level queue)
    (prevSame : ∀ slot ∈ queue, pool'.prev slot = pool.prev slot)
    (nextSame : ∀ slot ∈ queue, pool'.next slot = pool.next slot)
    (remainingSame : ∀ slot ∈ queue, (pool'.orders slot).remaining = (pool.orders slot).remaining) :
    LevelHolds pool' level queue where
  linked := (segment_congr prevSame nextSame).mpr holds.linked
  count := holds.count
  quantity := by
    have same : aggregate pool' queue = aggregate pool queue :=
      congrArg List.sum (List.map_congr_left fun slot member => by rw [remainingSame slot member])
    rw [holds.quantity, same]

/-- Only the listed slots of the pool matter. A write to the other side of the book is not
seen. -/
theorem Holds.congr (holds : Holds book pool slots)
    (frame : ∀ slot ∈ slots, pool'.orders slot = pool.orders slot) : Holds book pool' slots := by
  have keys : ∀ slot ∈ slots, priority side pool' slot = priority side pool slot :=
    fun slot member => by rw [priority, frame slot member, priority]
  have occupied (segment : ℕ) : book.Occupied pool' slots segment ↔ book.Occupied pool slots segment :=
    exists_congr fun slot => and_congr_right fun member => by rw [frame slot member]
  have groups (k : ℤ) : group (priority side pool') k slots = group (priority side pool) k slots :=
    List.filter_congr fun slot member => by rw [keys slot member]
  exact
    { shaped := holds.shaped
      valid := holds.valid
      distinct := holds.distinct
      ordered := holds.ordered.imp_of_mem fun {a b} memA memB le => by
        rw [keys a memA, keys b memB]; exact le
      inside := fun slot member => by rw [frame slot member]; exact holds.inside slot member
      levels := fun price inside => by
        rw [groups]
        refine (holds.levels price inside).congr ?_ ?_ ?_
        all_goals
          intro slot member
          have same := frame slot (mem_group.mp member).1
          simp only [OrderPool.prev, OrderPool.next, same]
      unused := holds.unused
      mask := fun segment offset bound => (holds.mask segment offset bound).trans
        (exists_congr fun slot => and_congr_right fun member => by rw [frame slot member])
      occupancy := fun segment => (holds.occupancy segment).trans (occupied segment).symm
      best := by simpa only [occupied] using holds.best
      count := holds.count
      quantity := by
        have same : aggregate pool' slots = aggregate pool slots :=
          congrArg List.sum (List.map_congr_left fun slot member => by rw [frame slot member])
        rw [holds.quantity, same] }

/-! ### The best order -/

/-- Better or equal coordinates mean a better or equal price. -/
theorem rank_le_rank (shaped : Shaped book) (inside : book.containsPrice price)
    (inside' : book.containsPrice price')
    (segments : NotWorse side (book.localSegment price) (book.localSegment price'))
    (offsets : book.localSegment price = book.localSegment price' →
      NotWorse side (priceOffset price) (priceOffset price')) : rank side price ≤ rank side price' := by
  obtain ⟨least, -⟩ := containsPrice_iff.mp inside
  obtain ⟨least', -⟩ := containsPrice_iff.mp inside'
  simp only [localSegment_eq, priceOffset_eq, shaped.base] at segments offsets
  cases side <;> simp only [NotWorse, rank] at * <;> omega

/-- The best offset of a segment is set in its mask, and no set one is better. -/
theorem bestOffset_spec (side : Side) {priceSegment : PriceSegment} (nonzero : priceSegment.activeMask ≠ 0) :
    bestOffset side priceSegment < 64 ∧
      priceSegment.activeMask.getLsbD (bestOffset side priceSegment) = true ∧
      ∀ offset, priceSegment.activeMask.getLsbD offset = true →
        NotWorse side (bestOffset side priceSegment) offset := by
  cases side with
  | ask => exact ⟨lowest_lt nonzero, lowest_set nonzero, fun offset set => lowest_le set⟩
  | bid => exact ⟨highest_lt nonzero, highest_set nonzero, fun offset set => le_highest set⟩

/-- The cached segment and its mask lead to the best price present: the segment is the extreme
one of the occupied ones, and the bit the extreme one of its mask. -/
theorem Holds.best_level (holds : Holds book pool slots) (nonempty : slots ≠ []) :
    ∃ slot ∈ slots, book.localSegment (pool.orders slot).price = book.bestSegment ∧
      priceOffset (pool.orders slot).price = bestOffset side (book.segments book.bestSegment) ∧
      ∀ other ∈ slots, priority side pool slot ≤ priority side pool other := by
  obtain ⟨empty, -⟩ | ⟨⟨present, member, atBest⟩, extreme⟩ := holds.best
  · contradiction
  have nonzero : (book.segments book.bestSegment).activeMask ≠ 0 :=
    ne_zero_iff.mpr ⟨_, priceOffset_lt, (holds.mask _ _ priceOffset_lt).mpr
      ⟨present, member, atBest, rfl⟩⟩
  obtain ⟨bound, set, bestSet⟩ := bestOffset_spec side nonzero
  obtain ⟨slot, listed, segments, offsets⟩ := (holds.mask _ _ bound).mp set
  refine ⟨slot, listed, segments, offsets, fun other member => ?_⟩
  refine rank_le_rank holds.shaped (holds.inside slot listed) (holds.inside other member) ?_ ?_
  · rw [segments]
    exact extreme _ ⟨other, member, rfl⟩
  · intro same
    rw [offsets]
    exact bestSet _ ((holds.mask _ _ priceOffset_lt).mpr
      ⟨other, member, by rw [← same, segments], rfl⟩)

/-- `best_order` returns the head of the priority list, which is the head of the FIFO at the best
level of the cached segment. -/
theorem Holds.bestOrder_eq (holds : Holds book pool slots) :
    book.bestOrder = slots.headD invalidOrderIndex := by
  rcases eq_or_ne slots [] with rfl | nonempty
  · obtain ⟨-, best⟩ | ⟨⟨slot, member, -⟩, -⟩ := holds.best
    · simp [bestOrder, best]
    · simp at member
  obtain ⟨slot, listed, segments, offsets, least⟩ := holds.best_level nonempty
  have notInvalid : book.bestSegment ≠ invalidSegment := by
    have := localSegment_lt holds.shaped (holds.inside slot listed)
    have := segmentCount_lt holds.shaped
    omega
  have linked := (holds.levels _ (holds.inside slot listed)).linked
  rw [bestOrder, if_neg notInvalid]
  have atLevel : (book.segments book.bestSegment).levels
      (bestOffset side (book.segments book.bestSegment)) = book.level (pool.orders slot).price := by
    rw [level, segments, offsets]
  simp only [atLevel]
  rw [segment_head linked]
  have inGroup : slot ∈ group (priority side pool) (rank side (pool.orders slot).price) slots :=
    mem_group.mpr ⟨listed, rfl⟩
  obtain ⟨first, rest, split⟩ := List.exists_cons_of_ne_nil (List.ne_nil_of_mem inGroup)
  have head := head_of_group holds.ordered least (by rw [priority, split]; rfl)
  rw [split, List.headD_cons]
  cases slots with
  | nil => contradiction
  | cons best others =>
    cases head
    rfl

end SideBook

end Fexma
