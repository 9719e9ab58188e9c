import Fexma.Library.StableOrder
import Fexma.OrderBook.Types
import Mathlib.Data.List.Nodup
import Mathlib.Data.List.Basic
import Mathlib.Tactic.SplitIfs

/-! What the order book is for: on each side the resting orders, best price
first and by arrival within a price, no id twice, every price in range and every
quantity positive. A value of this type cannot break these rules. -/
namespace Fexma

open StableOrder

/-- The rank of an order's price; smaller is better. -/
def viewRank (side : Side) (order : OrderView) : ℤ := rank side order.price

@[ext] structure PriceTimeBook where
  config : OrderBookConfig
  orders : Side → List OrderView
  sided : ∀ side, ∀ order ∈ orders side, order.side = side
  ordered : ∀ side, Ordered (viewRank side) (orders side)
  distinct : ((orders .bid ++ orders .ask).map OrderView.id).Nodup
  ranged : ∀ side, ∀ order ∈ orders side, config.contains order.price
  positive : ∀ side, ∀ order ∈ orders side, order.remaining ≠ 0
  fits : (orders .bid ++ orders .ask).length ≤ config.maxOrders.toNat

namespace PriceTimeBook

variable {book : PriceTimeBook} {order other : OrderView} {id : OrderId} {side : Side}

/-- The orders of both sides. -/
def all (book : PriceTimeBook) : List OrderView := book.orders .bid ++ book.orders .ask

theorem mem_all : order ∈ book.all ↔ order ∈ book.orders order.side := by
  simp only [all, List.mem_append]
  constructor
  · rintro (member | member)
    · rwa [book.sided _ _ member]
    · rwa [book.sided _ _ member]
  · intro member
    cases atSide : order.side <;> simp_all

theorem mem_all_of_mem (member : order ∈ book.orders side) : order ∈ book.all :=
  mem_all.mpr (by rwa [book.sided side order member])

/-- Ids are unique across both sides. -/
theorem eq_of_id (member : order ∈ book.all) (member' : other ∈ book.all)
    (same : order.id = other.id) : order = other :=
  List.inj_on_of_nodup_map book.distinct member member' same

/-- The order resting under an id. -/
def find (book : PriceTimeBook) (id : OrderId) : Option OrderView :=
  book.all.find? fun order => order.id = id

theorem find_eq_some : book.find id = some order ↔ order ∈ book.all ∧ order.id = id := by
  constructor
  · intro found
    exact ⟨List.mem_of_find?_eq_some found, by simpa using List.find?_some found⟩
  · rintro ⟨member, rfl⟩
    cases found : book.find order.id with
    | none => simpa using List.find?_eq_none.mp found order member
    | some other =>
      have same : other.id = order.id := by simpa using List.find?_some found
      rw [eq_of_id (List.mem_of_find?_eq_some found) member same]

theorem find_eq_none : book.find id = none ↔ ∀ order ∈ book.all, order.id ≠ id := by
  simp [find]

def empty (config : OrderBookConfig) : PriceTimeBook where
  config := config
  orders _ := []
  sided := by simp
  ordered _ := List.Pairwise.nil
  distinct := by simp
  ranged := by simp
  positive := by simp
  fits := by simp

/-! ### Adding an order -/

/-- The sides with an order added behind its equals. -/
def addTo (orders : Side → List OrderView) (order : OrderView) : Side → List OrderView :=
  Function.update orders order.side (insertLast (viewRank order.side) order (orders order.side))

theorem mem_addTo {orders : Side → List OrderView} : other ∈ addTo orders order side ↔
    (other = order ∧ side = order.side) ∨ other ∈ orders side := by
  by_cases same : side = order.side
  · subst same
    simp [addTo]
  · simp [addTo, same]

theorem addTo_perm (orders : Side → List OrderView) (order : OrderView) :
    (addTo orders order .bid ++ addTo orders order .ask).Perm
      (order :: (orders .bid ++ orders .ask)) := by
  cases atSide : order.side with
  | bid =>
    simp only [addTo, atSide, Function.update_self, ne_eq, reduceCtorEq, not_false_eq_true,
      Function.update_of_ne]
    exact insertLast_perm.append_right _
  | ask =>
    simp only [addTo, atSide, Function.update_self, ne_eq, reduceCtorEq, not_false_eq_true,
      Function.update_of_ne]
    exact (insertLast_perm.append_left _).trans List.perm_middle

/-- A fresh order comes to rest behind all orders of its price. -/
def add (book : PriceTimeBook) (order : OrderView) (fresh : book.find order.id = none)
    (inside : book.config.contains order.price) (positive : order.remaining ≠ 0)
    (room : book.all.length < book.config.maxOrders.toNat) : PriceTimeBook where
  config := book.config
  orders := addTo book.orders order
  sided side other member := by
    rcases mem_addTo.mp member with ⟨rfl, rfl⟩ | member
    · rfl
    · exact book.sided side other member
  ordered side := by
    by_cases same : side = order.side
    · subst same
      simpa [addTo] using ordered_insertLast (book.ordered order.side)
    · simpa [addTo, same] using book.ordered side
  distinct := by
    rw [((addTo_perm book.orders order).map OrderView.id).nodup_iff, List.map_cons, List.nodup_cons]
    refine ⟨fun member => ?_, book.distinct⟩
    obtain ⟨other, listed, same⟩ := List.mem_map.mp member
    exact find_eq_none.mp fresh other listed same
  ranged side other member := by
    rcases mem_addTo.mp member with ⟨rfl, -⟩ | member
    · exact inside
    · exact book.ranged side other member
  positive side other member := by
    rcases mem_addTo.mp member with ⟨rfl, -⟩ | member
    · exact positive
    · exact book.positive side other member
  fits := by
    rw [(addTo_perm book.orders order).length_eq]
    exact room

/-! ### Removing an order -/

theorem filter_sublist (book : PriceTimeBook) (id : OrderId) :
    ((book.orders .bid).filter (·.id ≠ id) ++ (book.orders .ask).filter (·.id ≠ id)).Sublist
      book.all :=
  List.filter_sublist.append List.filter_sublist

/-- The order under `id`, if any, leaves; the others keep their places. -/
def drop (book : PriceTimeBook) (id : OrderId) : PriceTimeBook where
  config := book.config
  orders side := (book.orders side).filter (·.id ≠ id)
  sided side other member := book.sided side other (List.mem_of_mem_filter member)
  ordered side := (book.ordered side).filter _
  distinct := book.distinct.sublist ((filter_sublist book id).map _)
  ranged side other member := book.ranged side other (List.mem_of_mem_filter member)
  positive side other member := book.positive side other (List.mem_of_mem_filter member)
  fits := (filter_sublist book id).length_le.trans book.fits

/-! ### Changing a remaining quantity -/

/-- The order with a new remaining quantity, if it is the one under `id`. -/
def withRemaining (id : OrderId) (remaining : Quantity) (order : OrderView) : OrderView :=
  if order.id = id then { order with remaining } else order

@[simp] theorem withRemaining_id (remaining : Quantity) :
    (withRemaining id remaining order).id = order.id := by unfold withRemaining; split <;> rfl

@[simp] theorem withRemaining_side (remaining : Quantity) :
    (withRemaining id remaining order).side = order.side := by unfold withRemaining; split <;> rfl

@[simp] theorem withRemaining_price (remaining : Quantity) :
    (withRemaining id remaining order).price = order.price := by
  unfold withRemaining; split <;> rfl

/-- A change to a quantity that is not zero leaves no empty order behind. -/
theorem withRemaining_ne {remaining : Quantity} (positive : remaining ≠ 0)
    (before : order.remaining ≠ 0) : (withRemaining id remaining order).remaining ≠ 0 := by
  unfold withRemaining
  split
  · exact positive
  · exact before

/-- The order under `id`, if any, changes its quantity in place. -/
def update (book : PriceTimeBook) (id : OrderId) (remaining : Quantity)
    (positive : remaining ≠ 0) : PriceTimeBook where
  config := book.config
  orders side := (book.orders side).map (withRemaining id remaining)
  sided side other member := by
    obtain ⟨order, listed, rfl⟩ := List.mem_map.mp member
    rw [withRemaining_side]
    exact book.sided side order listed
  ordered side := ordered_map (fun order _ => by simp [viewRank]) (book.ordered side)
  distinct := by
    have ids : OrderView.id ∘ withRemaining id remaining = OrderView.id :=
      funext fun order => by simp
    rw [← List.map_append, List.map_map, ids]
    exact book.distinct
  ranged side other member := by
    obtain ⟨order, listed, rfl⟩ := List.mem_map.mp member
    rw [withRemaining_price]
    exact book.ranged side order listed
  positive side other member := by
    obtain ⟨order, listed, rfl⟩ := List.mem_map.mp member
    exact withRemaining_ne positive (book.positive side order listed)
  fits := by
    rw [← List.map_append, List.length_map]
    exact book.fits

/-! ### The operations of the facade -/

def insert (book : PriceTimeBook) (order : RestingOrderData) : InsertStatus × PriceTimeBook :=
  if zero : order.quantity = 0 then (.invalidQuantity, book)
  else if inside : book.config.contains order.price then
    if fresh : book.find order.id = none then
      if room : book.all.length < book.config.maxOrders.toNat then
        (.ok, book.add order.view fresh inside zero room)
      else (.capacityExhausted, book)
    else (.duplicateOrderId, book)
  else (.priceOutOfRange, book)

/-- When an insertion succeeds: the order has a quantity, a price in range and a fresh id, and
there is room for it. -/
theorem insert_ok_iff {order : RestingOrderData} : (book.insert order).1 = .ok ↔
    order.quantity ≠ 0 ∧ book.config.contains order.price ∧ book.find order.id = none ∧
      book.all.length < book.config.maxOrders.toNat := by
  rw [insert]
  split_ifs with zero inside fresh room
  · simp [zero]
  · simp [zero, inside, fresh, room]
  · simp [fresh, room]
  · simp [fresh]
  · simp [inside]

theorem insert_orders {order : RestingOrderData} (inserted : (book.insert order).1 = .ok) :
    (book.insert order).2.orders = addTo book.orders order.view ∧
      (book.insert order).2.config = book.config := by
  obtain ⟨positive, inside, fresh, room⟩ := insert_ok_iff.mp inserted
  rw [insert, dif_neg positive, dif_pos inside, dif_pos fresh, dif_pos room]
  exact ⟨rfl, rfl⟩

theorem insert_failed {order : RestingOrderData} (failed : (book.insert order).1 ≠ .ok) :
    (book.insert order).2 = book := by
  rw [insert] at failed ⊢
  split_ifs at failed ⊢ <;> first | rfl | exact absurd rfl failed

def best (book : PriceTimeBook) (side : Side) : Option OrderView := (book.orders side).head?

def erase (book : PriceTimeBook) (id : OrderId) : EraseResult × PriceTimeBook :=
  match book.find id with
  | none => ({ status := .notFound }, book)
  | some removed => ({ status := .ok, removed }, book.drop id)

def setRemaining (book : PriceTimeBook) (id : OrderId) (newRemaining : Quantity) :
    SetRemainingResult × PriceTimeBook :=
  if zero : newRemaining = 0 then ({ status := .invalidQuantity }, book)
  else match book.find id with
    | none => ({ status := .notFound }, book)
    | some order =>
      ({ status := .ok, previousRemaining := order.remaining }, book.update id newRemaining zero)

def clear (book : PriceTimeBook) : PriceTimeBook := empty book.config

/-- Both sides in rising price order, arrival order within a price. -/
def snapshot (book : PriceTimeBook) : List OrderView :=
  sort (viewRank .ask) (book.orders .bid) ++ book.orders .ask

def restoreLoop (book : PriceTimeBook) (restored : OrderCapacity) :
    List OrderView → RestoreResult × PriceTimeBook
  | [] => ({ status := .ok, restored }, book)
  | order :: orders =>
    match book.insert
      { id := order.id, ownerId := order.ownerId, side := order.side, price := order.price
        quantity := order.remaining } with
    | (.ok, book) => restoreLoop book (restored + 1) orders
    | (.duplicateOrderId, book) => ({ status := .duplicateOrderId, restored }, book)
    | (.capacityExhausted, book) => ({ status := .capacityExceeded, restored }, book)
    | (.priceOutOfRange, book) => ({ status := .priceOutOfRange, restored }, book)
    | (.invalidQuantity, book) => ({ status := .invalidQuantity, restored }, book)

def restore (book : PriceTimeBook) (orders : List OrderView) : RestoreResult × PriceTimeBook :=
  if orders.length > book.config.maxOrders.toNat then ({ status := .capacityExceeded }, book)
  else book.clear.restoreLoop 0 orders

/-! ### The configuration never changes -/

theorem insert_config (book : PriceTimeBook) (order : RestingOrderData) :
    (book.insert order).2.config = book.config := by
  unfold insert
  split_ifs <;> rfl

theorem restoreLoop_config (book : PriceTimeBook) (restored : OrderCapacity)
    (orders : List OrderView) : (book.restoreLoop restored orders).2.config = book.config := by
  induction orders generalizing book restored with
  | nil => rfl
  | cons order orders ih =>
    have kept := book.insert_config
      { id := order.id, ownerId := order.ownerId, side := order.side, price := order.price
        quantity := order.remaining }
    rw [restoreLoop]
    revert kept
    cases book.insert _ with
    | mk status next =>
      intro kept
      cases status with
      | ok => exact (ih _ (restored + 1)).trans kept
      | _ => exact kept

theorem restore_config (book : PriceTimeBook) (orders : List OrderView) :
    (book.restore orders).2.config = book.config := by
  unfold restore
  split_ifs
  · rfl
  · exact restoreLoop_config _ _ _

end PriceTimeBook

end Fexma
