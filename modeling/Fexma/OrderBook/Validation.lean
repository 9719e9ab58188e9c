import Fexma.OrderBook.OrderBook

/-! The slow self-check of the book (`validate_invariants`, `validate_freelist`). A walk
along links ends where its own counter passes the capacity, so the capacity bounds it.
Scratch memory that cannot be allocated is an argument. -/
namespace Fexma

open WordBitmap

namespace OrderPool

/-- The walk along the freelist, marking what it passes. -/
def freelistLoop (pool : OrderPool) : ℕ → OrderIndex → (OrderIndex → UInt8) → OrderCapacity →
    Option ((OrderIndex → UInt8) × OrderCapacity)
  | 0, _, _, _ => none
  | fuel + 1, current, seen, count =>
    if current = invalidOrderIndex then some (seen, count)
    else if current ≥ pool.capacity || (pool.orders current).inUse || seen current ≠ 0 then none
    else if count + 1 > pool.capacity then none
    else freelistLoop pool fuel (pool.orders current).next (Function.update seen current 1) (count + 1)

def validateFreelist (pool : OrderPool) (scratch : Bool) : Bool :=
  if pool.capacity = 0 then pool.freeHead = invalidOrderIndex && pool.freeCount = 0
  else if !scratch then false
  else match pool.freelistLoop (pool.capacity.toNat + 2) pool.freeHead (fun _ => 0) 0 with
    | none => false
    | some (seen, count) => count = pool.freeCount && (allSlots pool.capacity).all fun slot =>
        if (pool.orders slot).inUse then seen slot = 0 else seen slot = 1

end OrderPool

/-- `for_each`: the first refusal ends the loop over the buckets. -/
def OrderIdIndex.forEach (index : OrderIdIndex) (accept : OrderId → OrderIndex → Bool) : Bool :=
  (List.range index.bucketCount).all fun i =>
    !(decide ((index.buckets i).state = .occupied) &&
      !accept (index.buckets i).id (index.buckets i).slot)

namespace OrderBook

/-- What the loop over the levels of a side has counted, and the best price it has met. -/
structure SideTally where
  countedOrders : UInt32 := 0
  countedQuantity : AggregateQuantity := 0
  expectedBest : Option PriceTick := none

/-- The walk along one FIFO: the last slot, the orders and their quantity. -/
def levelLoop (book : OrderBook) (side : Side) (price : PriceTick) :
    ℕ → OrderIndex → OrderIndex → UInt32 → AggregateQuantity →
      Option (OrderIndex × UInt32 × AggregateQuantity)
  | 0, _, _, _, _ => none
  | fuel + 1, current, previous, count, quantity =>
    if current = invalidOrderIndex then some (previous, count, quantity)
    else if !book.pool.contains current then none
    else
      let order := book.pool.orders current
      if order.remaining = 0 || !book.priceInRange order.price || order.side ≠ side ||
          order.price ≠ price || order.prev ≠ previous then none
      else if count + 1 > book.config.maxOrders then none
      else levelLoop book side price fuel order.next current (count + 1)
        (quantity + order.remaining.toUInt64)

/-- `side == Side::Ask ? price < expected_best : price > expected_best`. -/
def betterPrice (side : Side) (price expectedBest : PriceTick) : Bool :=
  match side with
  | .ask => price < expectedBest
  | .bid => price > expectedBest

def validateLevel {side : Side} (book : OrderBook) (half : SideBook side) (segment : ℕ)
    (tally : SideTally) (offset : ℕ) : Option SideTally :=
  let level := (half.segments segment).levels offset
  let price := half.priceFromLocal segment offset
  if level.orderCount = 0 then
    if level.head ≠ invalidOrderIndex || level.tail ≠ invalidOrderIndex ||
        level.totalQuantity ≠ 0 then none
    else some tally
  else if level.head = invalidOrderIndex || level.tail = invalidOrderIndex ||
      !book.pool.contains level.head || !book.pool.contains level.tail then none
  else if (book.pool.orders level.head).prev ≠ invalidOrderIndex ||
      (book.pool.orders level.tail).next ≠ invalidOrderIndex then none
  else (book.levelLoop side price (book.config.maxOrders.toNat + 2) level.head invalidOrderIndex
      0 0).bind fun (previous, levelCount, levelQuantity) =>
    if previous ≠ level.tail || levelCount ≠ level.orderCount ||
        levelQuantity ≠ level.totalQuantity then none
    else some
      { countedOrders := tally.countedOrders + levelCount
        countedQuantity := tally.countedQuantity + levelQuantity
        expectedBest := if tally.expectedBest.all (betterPrice side price) then some price
          else tally.expectedBest }

/-- A bit for each level that counts orders. -/
def expectedMask (segment : PriceSegment) : BitVec 64 :=
  (List.range 64).foldl (fun mask offset =>
    if (segment.levels offset).orderCount ≠ 0 then setBit mask offset else mask) 0

def validateSegment {side : Side} (book : OrderBook) (half : SideBook side) (tally : SideTally)
    (segment : ℕ) : Option SideTally :=
  ((List.range 64).foldlM (book.validateLevel half segment) tally).bind fun tally =>
    if (half.segments segment).activeMask ≠ expectedMask (half.segments segment) then none
    else if bitAt half.segmentOccupancy segment ≠ !(half.segments segment).empty then none
    else some tally

/-- Bits of the last bitmap word that stand for no segment. -/
def strayBits {side : Side} (half : SideBook side) : Bool :=
  let usedBits := half.segmentCount % 64
  half.segmentOccupancyWordCount ≠ 0 && usedBits ≠ 0 &&
    half.segmentOccupancy (half.segmentOccupancyWordCount - 1) &&&
      ~~~((1#64 <<< usedBits) - 1#64) ≠ 0

def validateSide {side : Side} (book : OrderBook) (half : SideBook side) : Bool :=
  match (List.range half.segmentCount).foldlM (book.validateSegment half) {} with
  | none => false
  | some tally =>
    let empty : Bool := half.orderCount = 0
    if half.segmentOccupancyWordCount ≠ (half.segmentCount + 63) / 64 then false
    else if strayBits half then false
    else if tally.countedOrders ≠ half.orderCount || tally.countedQuantity ≠ half.totalQuantity then
      false
    else if empty && half.bestSegment ≠ SideBook.invalidSegment then false
    else if !empty && (half.bestSegment ≥ half.segmentCount ||
        (half.segments half.bestSegment).empty) then false
    else if tally.expectedBest.isSome ≠ !empty then false
    else tally.expectedBest.all fun expectedBest => half.bestPrice = expectedBest

/-- The walk of `mark_side` along one FIFO; `steps` is what is left of its bound. -/
def markLoop (book : OrderBook) : ℕ → OrderIndex → (OrderIndex → UInt8) →
    Option (OrderIndex → UInt8)
  | steps, current, seen =>
    if current = invalidOrderIndex then some seen
    else if !book.pool.contains current then none
    else match steps with
      | 0 => none
      | steps + 1 => markLoop book steps (book.pool.orders current).next
          (Function.update seen current (seen current + 1))

def markSide {side : Side} (book : OrderBook) (half : SideBook side) (seen : OrderIndex → UInt8) :
    Option (OrderIndex → UInt8) :=
  (levelsOf half).foldlM (fun seen level =>
    book.markLoop book.config.maxOrders.toNat level.head seen) seen

/-- The marks against the pool and the index. -/
def checkMarks (book : OrderBook) (seen : OrderIndex → UInt8) : Bool :=
  let slots := OrderPool.allSlots book.config.maxOrders
  if slots.any fun slot => seen slot > 1 then false
  else if slots.foldl (fun (count : OrderCapacity) slot =>
      if seen slot = 1 then count + 1 else count) 0 ≠ book.activeOrderCount then false
  else slots.all fun slot =>
    if book.pool.contains slot then
      seen slot = 1 && book.index.find (book.pool.orders slot).id = slot
    else seen slot = 0

def validateInvariants (book : OrderBook) (freelistScratch fifoScratch : Bool) : Bool :=
  if !book.pool.validateFreelist freelistScratch || !book.validateSide book.bids ||
      !book.validateSide book.asks then false
  else if book.index.size ≠ book.activeOrderCount.toNat then false
  else if !fifoScratch then false
  else match (book.markSide book.bids fun _ => 0).bind (book.markSide book.asks) with
    | none => false
    | some seen =>
      if !book.checkMarks seen then false
      else book.index.forEach fun id slot =>
        book.pool.contains slot && (book.pool.orders slot).id = id

end OrderBook

end Fexma
