import Mathlib.Data.Int.Order.Basic

/-! Scalar types and result codes of the order book (`types.hpp`). Fixed-width
fields keep their width; counts and array positions that cannot wrap are
natural numbers. -/
namespace Fexma

abbrev OrderId := UInt64
abbrev OwnerId := UInt64
abbrev PriceTick := UInt32
abbrev Quantity := UInt32
abbrev AggregateQuantity := UInt64
abbrev OrderIndex := UInt32
abbrev OrderCapacity := UInt32

inductive Side where
  | bid
  | ask
  deriving DecidableEq, Repr, Inhabited

/-- The sentinel of FIFO links, of the freelist end and of failed lookups. -/
def invalidOrderIndex : OrderIndex := 0xFFFFFFFF

structure OrderBookConfig where
  minPriceTick : PriceTick := 0
  maxPriceTick : PriceTick := 0
  maxOrders : OrderCapacity := 0
  deriving DecidableEq, Repr, Inhabited

structure RestingOrderData where
  id : OrderId
  ownerId : OwnerId
  side : Side
  price : PriceTick
  quantity : Quantity
  deriving DecidableEq, Repr

structure OrderView where
  id : OrderId := 0
  ownerId : OwnerId := 0
  side : Side := .bid
  price : PriceTick := 0
  remaining : Quantity := 0
  deriving DecidableEq, Repr, Inhabited

inductive InsertStatus where
  | ok
  | duplicateOrderId
  | capacityExhausted
  | priceOutOfRange
  | invalidQuantity
  deriving DecidableEq, Repr

inductive SetRemainingStatus where
  | ok
  | notFound
  | invalidQuantity
  deriving DecidableEq, Repr

inductive EraseStatus where
  | ok
  | notFound
  deriving DecidableEq, Repr

inductive SnapshotStatus where
  | ok
  | capacityExceeded
  deriving DecidableEq, Repr

inductive RestoreStatus where
  | ok
  | duplicateOrderId
  | capacityExceeded
  | priceOutOfRange
  | invalidQuantity
  deriving DecidableEq, Repr

structure SetRemainingResult where
  status : SetRemainingStatus
  previousRemaining : Quantity := 0
  deriving DecidableEq, Repr

structure EraseResult where
  status : EraseStatus
  removed : OrderView := {}
  deriving DecidableEq, Repr

structure RestoreResult where
  status : RestoreStatus
  restored : OrderCapacity := 0
  deriving DecidableEq, Repr

/-- Bids rank by falling and asks by rising price: a smaller rank is better. -/
def rank : Side → PriceTick → ℤ
  | .bid, price => -price.toNat
  | .ask, price => price.toNat

theorem rank_injective (side : Side) : Function.Injective (rank side) := by
  intro p q same
  refine UInt32.toNat_inj.mp ?_
  cases side <;> simp only [rank] at same <;> omega

def OrderBookConfig.contains (config : OrderBookConfig) (price : PriceTick) : Bool :=
  config.minPriceTick ≤ price && price ≤ config.maxPriceTick

/-- The view of an order that has just come to rest. -/
def RestingOrderData.view (order : RestingOrderData) : OrderView :=
  ⟨order.id, order.ownerId, order.side, order.price, order.quantity⟩

end Fexma
