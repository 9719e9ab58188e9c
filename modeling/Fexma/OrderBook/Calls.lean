import Fexma.Library.Transducer
import Fexma.OrderBook.Snapshot
import Fexma.OrderBook.ReferenceOrderBook

/-! Call sequences: the facade answers every sequence of calls from a fresh book
as the reference model does. -/
namespace Fexma

open Transducer StableOrder

inductive BookCall where
  | insert (order : RestingOrderData)
  | best (side : Side)
  | setRemaining (id : OrderId) (newRemaining : Quantity)
  | erase (id : OrderId)
  | clear
  deriving DecidableEq, Repr

inductive BookAnswer where
  | inserted (status : InsertStatus)
  | best (order : Option OrderView)
  | changed (result : SetRemainingResult)
  | erased (result : EraseResult)
  | cleared
  deriving DecidableEq, Repr

/-- The answer carries a failure status. -/
def BookAnswer.failed : BookAnswer → Bool
  | .inserted status => status != .ok
  | .changed result => result.status != .ok
  | .erased result => result.status != .ok
  | .best _ | .cleared => false

def OrderBook.call (book : OrderBook) : BookCall → BookAnswer × OrderBook
  | .insert order => (.inserted (book.insert order).1, (book.insert order).2)
  | .best side => (.best (book.best side), book)
  | .setRemaining id newRemaining =>
    (.changed (book.setRemaining id newRemaining).1, (book.setRemaining id newRemaining).2)
  | .erase id => (.erased (book.erase id).1, (book.erase id).2)
  | .clear => (.cleared, book.clear)

def PriceTimeBook.call (book : PriceTimeBook) : BookCall → BookAnswer × PriceTimeBook
  | .insert order => (.inserted (book.insert order).1, (book.insert order).2)
  | .best side => (.best (book.best side), book)
  | .setRemaining id newRemaining =>
    (.changed (book.setRemaining id newRemaining).1, (book.setRemaining id newRemaining).2)
  | .erase id => (.erased (book.erase id).1, (book.erase id).2)
  | .clear => (.cleared, book.clear)

def ReferenceOrderBook.call (book : ReferenceOrderBook) : BookCall → BookAnswer × ReferenceOrderBook
  | .insert order => (.inserted (book.insert order).1, (book.insert order).2)
  | .best side => (.best (book.best side), book)
  | .setRemaining id newRemaining =>
    (.changed (book.setRemaining id newRemaining).1, (book.setRemaining id newRemaining).2)
  | .erase id => (.erased (book.erase id).1, (book.erase id).2)
  | .clear => (.cleared, book.clear)

/-- The facade simulates the abstract book: every call is answered alike and leads to related
states. -/
theorem order_book_simulates :
    Simulates OrderBook.call PriceTimeBook.call OrderBook.Represents where
  output book abstract call represents := by
    cases call with
    | insert order =>
      exact congrArg BookAnswer.inserted (OrderBook.insert_represents represents order).1
    | best side => exact congrArg BookAnswer.best (OrderBook.best_eq represents side)
    | setRemaining id newRemaining =>
      exact congrArg BookAnswer.changed (OrderBook.setRemaining_represents represents id newRemaining).1
    | erase id => exact congrArg BookAnswer.erased (OrderBook.erase_represents represents id).1
    | clear => rfl
  related book abstract call represents := by
    cases call with
    | insert order => exact (OrderBook.insert_represents represents order).2
    | best side => exact represents
    | setRemaining id newRemaining =>
      exact (OrderBook.setRemaining_represents represents id newRemaining).2
    | erase id => exact (OrderBook.erase_represents represents id).2
    | clear => exact OrderBook.clear_represents represents

/-- So does the reference model of the tests, which keeps a map of orders and two maps of price
levels. -/
theorem reference_simulates :
    Simulates ReferenceOrderBook.call PriceTimeBook.call ReferenceOrderBook.Mirrors where
  output reference book call mirrors := by
    cases call with
    | insert order =>
      exact congrArg BookAnswer.inserted (ReferenceOrderBook.insert_mirrors mirrors order).1
    | best side => exact congrArg BookAnswer.best (ReferenceOrderBook.best_mirrors mirrors side)
    | setRemaining id newRemaining =>
      exact congrArg BookAnswer.changed
        (ReferenceOrderBook.setRemaining_mirrors mirrors id newRemaining).1
    | erase id => exact congrArg BookAnswer.erased (ReferenceOrderBook.erase_mirrors mirrors id).1
    | clear => rfl
  related reference book call mirrors := by
    cases call with
    | insert order => exact (ReferenceOrderBook.insert_mirrors mirrors order).2
    | best side => exact mirrors
    | setRemaining id newRemaining =>
      exact (ReferenceOrderBook.setRemaining_mirrors mirrors id newRemaining).2
    | erase id => exact (ReferenceOrderBook.erase_mirrors mirrors id).2
    | clear =>
      have config := mirrors.config
      simp only [ReferenceOrderBook.call, ReferenceOrderBook.clear, config]
      exact ReferenceOrderBook.create_mirrors book.config

/-- The two books behind one call sequence, as the calls that follow see them. -/
structure BookContract (book : OrderBook) (model : ReferenceOrderBook) : Prop where
  zeroQuantity : ∀ order, order.quantity = 0 → (book.insert order).1 = .invalidQuantity
  outOfRange : ∀ order, order.quantity ≠ 0 → ¬ model.config.contains order.price →
    (book.insert order).1 = .priceOutOfRange
  /-- A known id is reported whether or not the book is full. -/
  duplicate : ∀ order, order.quantity ≠ 0 → model.config.contains order.price →
    (model.find order.id).isSome → (book.insert order).1 = .duplicateOrderId
  full : ∀ order, order.quantity ≠ 0 → model.config.contains order.price →
    model.find order.id = none → model.config.maxOrders.toNat ≤ model.ordersById.length →
    (book.insert order).1 = .capacityExhausted
  /-- The best order is the front of the queue at the extreme level. -/
  best : ∀ side, match book.best side with
    | none => model.priceLevels side = []
    | some order => model.find order.id = some order ∧ order.side = side ∧
        ((model.priceLevels side).queueAt order.price).head? = some order.id ∧
        ∀ level ∈ model.priceLevels side, rank side order.price ≤ rank side level.1
  /-- A change of quantity moves no order: level by level the ids stand as before. -/
  inPlace : ∀ id newRemaining room,
    ((book.setRemaining id newRemaining).2.snapshotInto room).2.map
        (fun order => (order.side, order.price, order.id)) =
      (book.snapshotInto room).2.map fun order => (order.side, order.price, order.id)
  lastState : ∀ id order, model.find id = some order →
    (book.erase id).1 = { status := .ok, removed := order }
  /-- A failed call is forgotten. -/
  unchanged : ∀ call, (book.call call).1.failed → ∀ later,
    outputs OrderBook.call (book.call call).2 later = outputs OrderBook.call book later

section Contract
variable {book : OrderBook} {model : ReferenceOrderBook} {abstract : PriceTimeBook}

open PriceTimeBook

theorem PriceTimeBook.call_failed (call : BookCall) (failed : (abstract.call call).1.failed) :
    (abstract.call call).2 = abstract := by
  cases call with
  | insert order =>
    simp only [PriceTimeBook.call, PriceTimeBook.insert] at failed ⊢
    split_ifs at failed ⊢ <;> first | rfl | cases failed
  | best side => rfl
  | setRemaining id newRemaining =>
    simp only [PriceTimeBook.call, PriceTimeBook.setRemaining] at failed ⊢
    split at failed
    · simp [*]
    · cases found : abstract.find id with
      | none => simp [*]
      | some order => simp [found, BookAnswer.failed] at failed
  | erase id =>
    simp only [PriceTimeBook.call, PriceTimeBook.erase] at failed ⊢
    cases found : abstract.find id with
    | none => rfl
    | some order => simp [found, BookAnswer.failed] at failed
  | clear => cases failed

/-- Sorting the sides by price sees an order's price only. -/
theorem PriceTimeBook.snapshot_update (id : OrderId) (newRemaining : Quantity)
    (positive : newRemaining ≠ 0) :
    (abstract.update id newRemaining positive).snapshot =
      abstract.snapshot.map (withRemaining id newRemaining) := by
  have side (orders : List OrderView) :
      sort (viewRank .ask) (orders.map (withRemaining id newRemaining)) =
        (sort (viewRank .ask) orders).map (withRemaining id newRemaining) := by
    have kept (order : OrderView) :
        viewRank .ask (withRemaining id newRemaining order) = viewRank .ask order := by
      simp [viewRank]
    refine sort_eq (ordered_map (fun order _ => kept order) ordered_sort) fun k => ?_
    rw [group_map fun order _ => kept order, group_map fun order _ => kept order, group_sort]
  simp only [snapshot, update, side, List.map_append]

/-- A quantity changes in place: every order keeps its side, its price and its turn. -/
theorem PriceTimeBook.setRemaining_inPlace (abstract : PriceTimeBook) (id : OrderId) (newRemaining : Quantity) :
    (abstract.setRemaining id newRemaining).2.all.length = abstract.all.length ∧
      (abstract.setRemaining id newRemaining).2.snapshot.map
          (fun order => (order.side, order.price, order.id)) =
        abstract.snapshot.map fun order => (order.side, order.price, order.id) := by
  rw [PriceTimeBook.setRemaining]
  split
  · exact ⟨rfl, rfl⟩
  · rename_i positive
    cases abstract.find id with
    | none => exact ⟨rfl, rfl⟩
    | some order =>
      refine ⟨by simp [PriceTimeBook.all, update], ?_⟩
      simp only [snapshot_update, List.map_map]
      exact List.map_congr_left fun order _ => by simp

/-- Every level of the model holds an order of the abstract book. -/
theorem exists_atLevel (mirrors : model.Mirrors abstract) {level : PriceTick × List OrderId}
    {side : Side} (member : level ∈ model.priceLevels side) :
    ∃ order ∈ abstract.orders side, order.price = level.1 := by
  have queue := mirrors.queues side level.1
  rw [PriceLevels.queueAt_of_mem (mirrors.levels side).rising member] at queue
  have nonempty := (mirrors.levels side).inhabited level member
  rw [queue] at nonempty
  obtain ⟨order, inGroup⟩ := List.exists_mem_of_ne_nil _ (mt List.map_eq_nil_iff.mpr nonempty)
  obtain ⟨held, atPrice⟩ := mem_group.mp inGroup
  exact ⟨order, held, rank_injective side atPrice⟩

/-- The best order is the front of the queue at the extreme level of the reference model, and no
level of the side is better. -/
theorem bestContract (mirrors : model.Mirrors abstract) (side : Side) :
    match abstract.best side with
    | none => model.priceLevels side = []
    | some order => model.find order.id = some order ∧ order.side = side ∧
        ((model.priceLevels side).queueAt order.price).head? = some order.id ∧
        ∀ level ∈ model.priceLevels side, rank side order.price ≤ rank side level.1 := by
  rw [PriceTimeBook.best]
  cases listed : abstract.orders side with
  | nil =>
    refine List.eq_nil_iff_forall_not_mem.mpr fun level member => ?_
    obtain ⟨order, held, -⟩ := exists_atLevel mirrors member
    rw [listed] at held
    cases held
  | cons order rest =>
    have here : order ∈ abstract.orders side := by rw [listed]; exact List.mem_cons_self
    have key : viewRank side order = rank side order.price := rfl
    refine ⟨?_, abstract.sided side order here, ?_, fun level member => ?_⟩
    · rw [mirrors.known]
      exact find_eq_some.mpr ⟨mem_all_of_mem here, rfl⟩
    · rw [mirrors.queues, listed, group_cons, if_pos key]
      rfl
    · obtain ⟨other, held, atPrice⟩ := exists_atLevel mirrors member
      have ordered := abstract.ordered side
      rw [listed] at ordered held
      rw [← atPrice]
      rcases List.mem_cons.mp held with rfl | behind
      · exact le_rfl
      · exact List.rel_of_pairwise_cons ordered behind

/-- Books that stand for one abstract book keep to the contract, clause by clause. -/
theorem bookContract (represents : book.Represents abstract) (mirrors : model.Mirrors abstract) :
    BookContract book model where
  zeroQuantity order zero := by
    rw [(OrderBook.insert_represents represents order).1, PriceTimeBook.insert, dif_pos zero]
  outOfRange order positive outside := by
    rw [mirrors.config] at outside
    rw [(OrderBook.insert_represents represents order).1, PriceTimeBook.insert, dif_neg positive,
      dif_neg outside]
  duplicate order positive inside known := by
    rw [mirrors.config] at inside
    rw [mirrors.known, Option.isSome_iff_ne_none] at known
    rw [(OrderBook.insert_represents represents order).1, PriceTimeBook.insert, dif_neg positive,
      dif_pos inside, dif_neg known]
  full order positive inside fresh full := by
    rw [mirrors.config] at inside full
    rw [mirrors.known] at fresh
    rw [mirrors.count] at full
    rw [(OrderBook.insert_represents represents order).1, PriceTimeBook.insert, dif_neg positive,
      dif_pos inside, dif_pos fresh, dif_neg (by omega)]
  best side := by
    rw [OrderBook.best_eq represents]
    exact bestContract mirrors side
  inPlace id newRemaining room := by
    obtain ⟨length, places⟩ := setRemaining_inPlace abstract id newRemaining
    rw [OrderBook.snapshotInto_eq (OrderBook.setRemaining_represents represents id newRemaining).2,
      OrderBook.snapshotInto_eq represents, length]
    split
    · rfl
    · exact places
  lastState id order found := by
    rw [mirrors.known] at found
    rw [(OrderBook.erase_represents represents id).1, PriceTimeBook.erase, found]
  unchanged call failed later := by
    rw [order_book_simulates.output _ _ call represents] at failed
    have after := order_book_simulates.related _ _ call represents
    rw [call_failed call failed] at after
    rw [order_book_simulates.outputs after, order_book_simulates.outputs represents]

end Contract

/-- Every sequence of calls from a fresh book gets the answers of the reference
model, whatever the configuration, and both books stand in the contract after it. -/
theorem order_book_matches_reference (config : OrderBookConfig)
    (small : config.maxOrders ≤ OrderPool.maxCapacity) :
    ∃ book, OrderBook.create config = some book ∧ ∀ calls,
      outputs OrderBook.call book calls =
        outputs ReferenceOrderBook.call (.create config) calls ∧
      BookContract (final OrderBook.call book calls)
        (final ReferenceOrderBook.call (.create config) calls) := by
  obtain ⟨book, created, represents⟩ := OrderBook.create_represents config small
  have mirrors := ReferenceOrderBook.create_mirrors config
  refine ⟨book, created, fun calls => ⟨?_, ?_⟩⟩
  · exact (order_book_simulates.outputs represents).trans (reference_simulates.outputs mirrors).symm
  · exact bookContract (order_book_simulates.final represents) (reference_simulates.final mirrors)

/-- In a full book of one order a known id is a duplicate and a fresh one finds no room. -/
theorem order_book_matches_reference_full_book :
    ∃ book, OrderBook.create ⟨100, 200, 1⟩ = some book ∧
      outputs OrderBook.call book
          [.insert ⟨1, 7, .bid, 150, 5⟩, .insert ⟨1, 8, .ask, 151, 2⟩, .insert ⟨2, 8, .ask, 151, 2⟩,
            .setRemaining 1 3, .best .bid, .erase 1, .best .bid] =
        [.inserted .ok, .inserted .duplicateOrderId, .inserted .capacityExhausted,
          .changed ⟨.ok, 5⟩, .best (some ⟨1, 7, .bid, 150, 3⟩), .erased ⟨.ok, ⟨1, 7, .bid, 150, 3⟩⟩,
          .best none] := by
  obtain ⟨book, created, runs⟩ := order_book_matches_reference ⟨100, 200, 1⟩ (by decide)
  exact ⟨book, created, (runs _).1.trans (by decide)⟩

end Fexma
