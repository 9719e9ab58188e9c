import Fexma.OrderBook.OrderIdIndex
import Fexma.OrderBook.SideBook

/-! The facade (`order_book.cpp`): one slot pool, one id index and two side
books, updated together by every operation. -/
namespace Fexma

structure OrderBook where
  config : OrderBookConfig
  pool : OrderPool
  index : OrderIdIndex
  bids : SideBook .bid
  asks : SideBook .ask

namespace OrderBook

/-- Construction fails where the pool constructor throws. -/
def create (config : OrderBookConfig) : Option OrderBook :=
  (OrderPool.create config.maxOrders).map fun pool =>
    { config, pool
      index := .create config.maxOrders
      bids := .create .bid config.minPriceTick config.maxPriceTick
      asks := .create .ask config.minPriceTick config.maxPriceTick }

def priceInRange (book : OrderBook) (price : PriceTick) : Bool := book.config.contains price

def viewFor (book : OrderBook) (slot : OrderIndex) : OrderView := (book.pool.orders slot).view

def insert (book : OrderBook) (order : RestingOrderData) : InsertStatus × OrderBook :=
  if order.quantity = 0 then (.invalidQuantity, book)
  else if !book.priceInRange order.price then (.priceOutOfRange, book)
  else
    let (slot, pool) :=
      book.pool.emplace order.id order.ownerId order.price order.quantity order.side
    if slot = invalidOrderIndex then
      (if book.index.find order.id ≠ invalidOrderIndex then .duplicateOrderId
        else .capacityExhausted, { book with pool })
    else
      let (insertStatus, index) := book.index.insert order.id slot
      if insertStatus ≠ .ok then
        (if insertStatus = .duplicate then .duplicateOrderId else .capacityExhausted,
          { book with pool := pool.release slot, index })
      else match order.side with
        | .bid =>
          let (bids, pool) := book.bids.append pool slot
          (.ok, { book with pool, index, bids })
        | .ask =>
          let (asks, pool) := book.asks.append pool slot
          (.ok, { book with pool, index, asks })

def best (book : OrderBook) (side : Side) : Option OrderView :=
  let slot := match side with
    | .bid => book.bids.bestOrder
    | .ask => book.asks.bestOrder
  if slot = invalidOrderIndex then none else some (book.viewFor slot)

def removeActiveOrder (book : OrderBook) (slot : OrderIndex) : OrderView × OrderBook :=
  let removed := book.viewFor slot
  match (book.pool.orders slot).side with
  | .bid =>
    let (bids, pool) := book.bids.remove book.pool slot
    (removed, { book with pool := pool.release slot, bids })
  | .ask =>
    let (asks, pool) := book.asks.remove book.pool slot
    (removed, { book with pool := pool.release slot, asks })

def erase (book : OrderBook) (id : OrderId) : EraseResult × OrderBook :=
  let (slot, index) := book.index.eraseAndGet id
  if slot = invalidOrderIndex then ({ status := .notFound }, { book with index })
  else
    let (removed, book) := removeActiveOrder { book with index } slot
    ({ status := .ok, removed }, book)

def setRemaining (book : OrderBook) (id : OrderId) (newRemaining : Quantity) :
    SetRemainingResult × OrderBook :=
  if newRemaining = 0 then ({ status := .invalidQuantity }, book)
  else
    let slot := book.index.find id
    if slot = invalidOrderIndex then ({ status := .notFound }, book)
    else
      let order := book.pool.orders slot
      let previousRemaining := order.remaining
      match order.side with
      | .bid =>
        let (bids, pool) := book.bids.setRemaining book.pool slot newRemaining
        ({ status := .ok, previousRemaining }, { book with pool, bids })
      | .ask =>
        let (asks, pool) := book.asks.setRemaining book.pool slot newRemaining
        ({ status := .ok, previousRemaining }, { book with pool, asks })

def clear (book : OrderBook) : OrderBook :=
  { book with
    pool := book.pool.clear
    index := book.index.clear
    bids := book.bids.clear
    asks := book.asks.clear }

def activeOrderCount (book : OrderBook) : UInt32 := book.bids.orderCount + book.asks.orderCount

def orderCount (book : OrderBook) : OrderCapacity := book.activeOrderCount

/-- Copy one FIFO behind `copied`, into room for `room` orders in all. The walk
ends within the pool capacity. -/
def snapshotLevel (book : OrderBook) (room : ℕ) :
    ℕ → OrderIndex → List OrderView → SnapshotStatus × List OrderView
  | 0, _, copied => (.ok, copied)
  | fuel + 1, current, copied =>
    if current = invalidOrderIndex then (.ok, copied)
    else if copied.length = room then (.capacityExceeded, copied)
    else snapshotLevel book room fuel (book.pool.orders current).next
      (copied ++ [book.viewFor current])

/-- The loop over the levels of a side; the first failure ends it. -/
def snapshotLevels (book : OrderBook) (room : ℕ) :
    List PriceLevel → List OrderView → SnapshotStatus × List OrderView
  | [], copied => (.ok, copied)
  | level :: levels, copied =>
    match book.snapshotLevel room (book.pool.capacity.toNat + 1) level.head copied with
    | (.ok, copied) => snapshotLevels book room levels copied
    | failed => failed

/-- All levels of a side, segment by segment. -/
def levelsOf {side : Side} (book : SideBook side) : List PriceLevel :=
  (List.range book.segmentCount).flatMap fun segment =>
    (List.range 64).map fun offset => (book.segments segment).levels offset

def snapshotInto (book : OrderBook) (room : ℕ) : SnapshotStatus × List OrderView :=
  if room < book.activeOrderCount.toNat then (.capacityExceeded, [])
  else match book.snapshotLevels room (levelsOf book.bids) [] with
    | (.ok, copied) => book.snapshotLevels room (levelsOf book.asks) copied
    | failed => failed

def restoreLoop (book : OrderBook) (restored : OrderCapacity) :
    List OrderView → RestoreResult × OrderBook
  | [] => ({ status := .ok, restored }, book)
  | order :: orders =>
    match book.insert
      { id := order.id, ownerId := order.ownerId, side := order.side, price := order.price
        quantity := order.remaining } with
    | (.ok, book) => restoreLoop book (restored + 1) orders
    | (.duplicateOrderId, book) => ({ status := .duplicateOrderId, restored }, book)
    | (.capacityExhausted, book) => ({ status := .capacityExceeded, restored }, book)
    | (.priceOutOfRange, book) => ({ status := .priceOutOfRange, restored }, book)
    | (.invalidQuantity, book) => ({ status := .invalidQuantity, restored }, book)

def restore (book : OrderBook) (orders : List OrderView) : RestoreResult × OrderBook :=
  if orders.length > book.config.maxOrders.toNat then ({ status := .capacityExceeded }, book)
  else book.clear.restoreLoop 0 orders

end OrderBook

end Fexma
