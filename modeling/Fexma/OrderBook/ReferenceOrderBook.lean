import Fexma.OrderBook.Refinement

/-! The reference model of the tests (`reference_order_book.hpp`): a map from id
to order and, for each side, a price-ordered map of id queues in arrival order.
The facade answers every call sequence as this model does. -/
namespace Fexma

open StableOrder

/-- `std::map<PriceTick, std::deque<OrderId>>`, by rising price. -/
abbrev PriceLevels := List (PriceTick × List OrderId)

namespace PriceLevels

/-- The queue at a price, empty where the map has no entry. -/
def queueAt : PriceLevels → PriceTick → List OrderId
  | [], _ => []
  | (levelPrice, ids) :: rest, price => if levelPrice = price then ids else queueAt rest price

/-- `levels[price].push_back(id)`. -/
def pushBack (price : PriceTick) (id : OrderId) : PriceLevels → PriceLevels
  | [] => [(price, [id])]
  | (levelPrice, ids) :: rest =>
    if price < levelPrice then (price, [id]) :: (levelPrice, ids) :: rest
    else if levelPrice = price then (levelPrice, ids ++ [id]) :: rest
    else (levelPrice, ids) :: pushBack price id rest

/-- Take `id` out of the queue at a price and drop the level with its last id. -/
def eraseFrom (price : PriceTick) (id : OrderId) : PriceLevels → PriceLevels
  | [] => []
  | (levelPrice, ids) :: rest =>
    if levelPrice = price then
      if ids.erase id = [] then rest else (levelPrice, ids.erase id) :: rest
    else (levelPrice, ids) :: eraseFrom price id rest

end PriceLevels

structure ReferenceOrderBook where
  config : OrderBookConfig
  ordersById : List (OrderId × OrderView)
  bidLevels : PriceLevels
  askLevels : PriceLevels

namespace ReferenceOrderBook

/-- The model has no `clear`; a cleared book is compared with a fresh model. -/
def create (config : OrderBookConfig) : ReferenceOrderBook :=
  { config, ordersById := [], bidLevels := [], askLevels := [] }

def priceInRange (book : ReferenceOrderBook) (price : PriceTick) : Bool :=
  book.config.contains price

def priceLevels (book : ReferenceOrderBook) : Side → PriceLevels
  | .bid => book.bidLevels
  | .ask => book.askLevels

def setPriceLevels (book : ReferenceOrderBook) (side : Side) (levels : PriceLevels) :
    ReferenceOrderBook :=
  match side with
  | .bid => { book with bidLevels := levels }
  | .ask => { book with askLevels := levels }

/-- `orders_by_id_.find(id)`. -/
def find (book : ReferenceOrderBook) (id : OrderId) : Option OrderView := book.ordersById.lookup id

def insert (book : ReferenceOrderBook) (order : RestingOrderData) :
    InsertStatus × ReferenceOrderBook :=
  if order.quantity = 0 then (.invalidQuantity, book)
  else if !book.priceInRange order.price then (.priceOutOfRange, book)
  else if (book.find order.id).isSome then (.duplicateOrderId, book)
  else if book.ordersById.length ≥ book.config.maxOrders.toNat then (.capacityExhausted, book)
  else (.ok,
    { book with ordersById := (order.id, order.view) :: book.ordersById }.setPriceLevels order.side
      ((book.priceLevels order.side).pushBack order.price order.id))

def best (book : ReferenceOrderBook) (side : Side) : Option OrderView :=
  let level := match side with
    | .bid => book.bidLevels.getLast?
    | .ask => book.askLevels.head?
  level.bind fun (_, ids) => ids.head?.bind book.find

def setRemaining (book : ReferenceOrderBook) (id : OrderId) (newRemaining : Quantity) :
    SetRemainingResult × ReferenceOrderBook :=
  if newRemaining = 0 then ({ status := .invalidQuantity }, book)
  else match book.find id with
    | none => ({ status := .notFound }, book)
    | some order =>
      ({ status := .ok, previousRemaining := order.remaining },
        { book with ordersById := book.ordersById.map fun (key, value) =>
            (key, if key = id then { order with remaining := newRemaining } else value) })

def erase (book : ReferenceOrderBook) (id : OrderId) : EraseResult × ReferenceOrderBook :=
  match book.find id with
  | none => ({ status := .notFound }, book)
  | some order =>
    let levels := book.priceLevels order.side
    if levels.all (fun (levelPrice, _) => levelPrice != order.price) then
      ({ status := .notFound }, book)
    else ({ status := .ok, removed := order },
      { book with ordersById := book.ordersById.filter fun (key, _) => key != id }.setPriceLevels
        order.side (levels.eraseFrom order.price id))

def clear (book : ReferenceOrderBook) : ReferenceOrderBook := create book.config

end ReferenceOrderBook

namespace PriceLevels

/-- A price map: strictly rising prices, no empty queue. -/
structure WellFormed (levels : PriceLevels) : Prop where
  rising : levels.Pairwise fun a b => a.1 < b.1
  inhabited : ∀ level ∈ levels, level.2 ≠ []

variable {levels rest : PriceLevels} {price price' : PriceTick} {id : OrderId} {ids : List OrderId}

/-- With rising prices a price has one level, so looking it up finds its queue. -/
theorem queueAt_of_mem (rising : levels.Pairwise fun a b => a.1 < b.1)
    (member : (price, ids) ∈ levels) : levels.queueAt price = ids := by
  induction levels with
  | nil => cases member
  | cons level rest ih =>
    obtain ⟨first, queue⟩ := level
    obtain ⟨least, rising⟩ := List.pairwise_cons.mp rising
    rcases List.mem_cons.mp member with same | member
    · cases same
      simp [queueAt]
    · have below : first < price := least _ member
      have apart : first ≠ price := by rintro rfl; exact UInt32.lt_irrefl _ below
      simp only [queueAt, apart, ↓reduceIte]
      exact ih rising member

theorem queueAt_eq_nil (absent : ∀ level ∈ levels, level.1 ≠ price) : levels.queueAt price = [] := by
  induction levels with
  | nil => rfl
  | cons level rest ih =>
    obtain ⟨first, queue⟩ := level
    simp only [queueAt, absent (first, queue) (by simp), ↓reduceIte]
    exact ih fun level member => absent level (by simp [member])

theorem mem_of_queueAt (present : levels.queueAt price ≠ []) :
    (price, levels.queueAt price) ∈ levels := by
  induction levels with
  | nil => exact absurd rfl present
  | cons level rest ih =>
    obtain ⟨first, queue⟩ := level
    by_cases same : first = price
    · subst same
      simp [queueAt]
    · simp only [queueAt, same, ↓reduceIte] at present ⊢
      exact List.mem_cons_of_mem _ (ih present)

theorem queueAt_pushBack (rising : levels.Pairwise fun a b => a.1 < b.1) :
    (levels.pushBack price id).queueAt price' =
      if price' = price then levels.queueAt price ++ [id] else levels.queueAt price' := by
  induction levels with
  | nil =>
    by_cases same : price = price'
    · simp [pushBack, queueAt, same]
    · simp [pushBack, queueAt, same, Ne.symm same]
  | cons level rest ih =>
    obtain ⟨first, queue⟩ := level
    obtain ⟨least, rising⟩ := List.pairwise_cons.mp rising
    simp only [pushBack]
    split
    · rename_i below
      have empty : queueAt ((first, queue) :: rest) price = [] := by
        refine queueAt_eq_nil fun level member => ?_
        have above : price < level.1 := by
          rcases List.mem_cons.mp member with rfl | member
          · exact below
          · exact UInt32.lt_trans below (least level member)
        exact fun same => UInt32.lt_irrefl _ (same ▸ above)
      by_cases same : price = price'
      · subst same
        rw [if_pos rfl, empty]
        simp [queueAt]
      · rw [queueAt, if_neg same, if_neg (Ne.symm same)]
    · split
      · rename_i here
        subst here
        by_cases same : first = price'
        · subst same
          simp [queueAt]
        · simp [queueAt, same, Ne.symm same]
      · rename_i other
        simp only [queueAt, other, ↓reduceIte]
        by_cases same : first = price'
        · subst same
          simp [other]
        · simpa [same] using ih rising

private theorem mem_pushBack {level : PriceTick × List OrderId}
    (member : level ∈ levels.pushBack price id) :
    (level.1 = price ∧ level.2 ≠ []) ∨ level ∈ levels := by
  induction levels with
  | nil =>
    obtain rfl : level = (price, [id]) := by simpa [pushBack] using member
    simp
  | cons first rest ih =>
    obtain ⟨first, queue⟩ := first
    simp only [pushBack] at member
    split at member
    · rcases List.mem_cons.mp member with rfl | member
      · simp
      · exact .inr member
    · split at member
      · rcases List.mem_cons.mp member with rfl | member
        · simp_all
        · exact .inr (by simp [member])
      · rcases List.mem_cons.mp member with rfl | member
        · exact .inr (by simp)
        · exact (ih member).imp (fun new => new) fun old => List.mem_cons_of_mem _ old

theorem WellFormed.pushBack (wf : levels.WellFormed) : (levels.pushBack price id).WellFormed where
  rising := by
    obtain ⟨rising, -⟩ := wf
    induction levels with
    | nil => simp [PriceLevels.pushBack]
    | cons level rest ih =>
      obtain ⟨first, queue⟩ := level
      obtain ⟨least, rest_rising⟩ := List.pairwise_cons.mp rising
      simp only [PriceLevels.pushBack]
      split
      · rename_i below
        refine List.pairwise_cons.mpr ⟨fun level member => ?_, rising⟩
        rcases List.mem_cons.mp member with rfl | member
        · exact below
        · exact UInt32.lt_trans below (least level member)
      · split
        · exact List.pairwise_cons.mpr ⟨least, rest_rising⟩
        · rename_i notBelow other
          refine List.pairwise_cons.mpr ⟨fun level member => ?_, ih rest_rising⟩
          rcases mem_pushBack member with ⟨same, -⟩ | old
          · rw [same]
            exact UInt32.lt_of_le_of_ne (UInt32.not_lt.mp notBelow) other
          · exact least level old
  inhabited level member := (mem_pushBack member).elim And.right (wf.inhabited level)

/-- Erasing an id changes the queue of its price. A level that becomes empty goes with it. -/
theorem queueAt_eraseFrom (rising : levels.Pairwise fun a b => a.1 < b.1) :
    (levels.eraseFrom price id).queueAt price' =
      if price' = price then (levels.queueAt price).erase id else levels.queueAt price' := by
  induction levels with
  | nil => simp [eraseFrom, queueAt]
  | cons level rest ih =>
    obtain ⟨first, queue⟩ := level
    obtain ⟨least, rising⟩ := List.pairwise_cons.mp rising
    simp only [eraseFrom]
    split
    · rename_i here
      subst here
      have gone : queueAt rest first = [] :=
        queueAt_eq_nil fun level member same => UInt32.lt_irrefl first (by
          have above := least level member
          rwa [same] at above)
      split
      · rename_i last
        by_cases same : price' = first
        · subst same
          simp [queueAt, last, gone]
        · simp [queueAt, same, Ne.symm same]
      · by_cases same : price' = first
        · subst same
          simp [queueAt]
        · simp [queueAt, same, Ne.symm same]
    · rename_i other
      simp only [queueAt, other, ↓reduceIte]
      by_cases same : first = price'
      · subst same
        simp [other]
      · simpa [same] using ih rising

private theorem mem_eraseFrom {level : PriceTick × List OrderId}
    (member : level ∈ levels.eraseFrom price id) :
    ∃ old ∈ levels, old.1 = level.1 ∧ (level.2 = [] → old.2 = []) := by
  induction levels with
  | nil => cases member
  | cons first rest ih =>
    obtain ⟨first, queue⟩ := first
    simp only [eraseFrom] at member
    split at member
    · split at member
      · exact ⟨level, List.mem_cons_of_mem _ member, rfl, fun empty => empty⟩
      · rename_i kept
        rcases List.mem_cons.mp member with rfl | member
        · exact ⟨(first, queue), by simp, rfl, fun empty => absurd empty kept⟩
        · exact ⟨level, List.mem_cons_of_mem _ member, rfl, fun empty => empty⟩
    · rcases List.mem_cons.mp member with rfl | member
      · exact ⟨(first, queue), by simp, rfl, fun empty => empty⟩
      · obtain ⟨old, listed, same, empty⟩ := ih member
        exact ⟨old, List.mem_cons_of_mem _ listed, same, empty⟩

theorem WellFormed.eraseFrom (wf : levels.WellFormed) : (levels.eraseFrom price id).WellFormed where
  rising := by
    obtain ⟨rising, -⟩ := wf
    induction levels with
    | nil => simp [PriceLevels.eraseFrom]
    | cons level rest ih =>
      obtain ⟨first, queue⟩ := level
      obtain ⟨least, rest_rising⟩ := List.pairwise_cons.mp rising
      simp only [PriceLevels.eraseFrom]
      split
      · split
        · exact rest_rising
        · exact List.pairwise_cons.mpr ⟨least, rest_rising⟩
      · refine List.pairwise_cons.mpr ⟨fun level member => ?_, ih rest_rising⟩
        obtain ⟨old, listed, same, -⟩ := mem_eraseFrom member
        rw [← same]
        exact least old listed
  inhabited level member := by
    obtain ⟨old, listed, -, empty⟩ := mem_eraseFrom member
    exact fun none => wf.inhabited old listed (empty none)

end PriceLevels

namespace ReferenceOrderBook

open PriceTimeBook

/-- The model holds the orders of the abstract book, keyed by id, and the ids of
every price in FIFO order. -/
structure Mirrors (reference : ReferenceOrderBook) (book : PriceTimeBook) : Prop where
  config : reference.config = book.config
  entries : reference.ordersById.Perm (book.all.map fun order => (order.id, order))
  levels : ∀ side, (reference.priceLevels side).WellFormed
  queues : ∀ side price, (reference.priceLevels side).queueAt price =
    (group (viewRank side) (rank side price) (book.orders side)).map OrderView.id

variable {reference : ReferenceOrderBook} {book : PriceTimeBook}

@[simp] theorem priceLevels_setPriceLevels (side side' : Side) (levels : PriceLevels) :
    (reference.setPriceLevels side levels).priceLevels side' =
      if side' = side then levels else reference.priceLevels side' := by
  cases side <;> cases side' <;> rfl

@[simp] theorem ordersById_setPriceLevels (side : Side) (levels : PriceLevels) :
    (reference.setPriceLevels side levels).ordersById = reference.ordersById := by
  cases side <;> rfl

@[simp] theorem config_setPriceLevels (side : Side) (levels : PriceLevels) :
    (reference.setPriceLevels side levels).config = reference.config := by
  cases side <;> rfl

/-- Dropping an order takes its id out of every queue. -/
theorem drop_queue (id : OrderId) (side : Side) (price : PriceTick) :
    ((group (viewRank side) (rank side price) (book.orders side)).map OrderView.id).erase id =
      (group (viewRank side) (rank side price) ((book.drop id).orders side)).map OrderView.id := by
  have sublist : (book.orders side).Sublist book.all := by
    cases side
    · exact List.sublist_append_left _ _
    · exact List.sublist_append_right _ _
  have distinct : ((group (viewRank side) (rank side price) (book.orders side)).map
      OrderView.id).Nodup :=
    book.distinct.sublist ((List.filter_sublist.trans sublist).map _)
  have dropped : (book.drop id).orders side = (book.orders side).filter (·.id ≠ id) := rfl
  rw [distinct.erase_eq_filter, dropped, group_filter, List.filter_map]
  congr 1
  exact List.filter_congr fun order _ => by simp [bne, Bool.beq_eq_decide_eq]

section Simulation
variable (mirrors : reference.Mirrors book)
include mirrors

/-- Both know the same orders, under the same ids. -/
theorem Mirrors.known (id : OrderId) : reference.find id = book.find id := by
  cases found : reference.find id with
  | none =>
    refine (find_eq_none.mpr fun order member same => ?_).symm
    have listed := mirrors.entries.mem_iff.mpr (List.mem_map_of_mem member)
    have apart := List.lookup_eq_none_iff.mp found _ listed
    simp [same] at apart
  | some order =>
    obtain ⟨before, after, split, -⟩ := List.lookup_eq_some_iff.mp found
    have listed : (id, order) ∈ reference.ordersById := by rw [split]; simp
    obtain ⟨other, member, same⟩ := List.mem_map.mp (mirrors.entries.mem_iff.mp listed)
    cases same
    exact (find_eq_some.mpr ⟨member, rfl⟩).symm

theorem Mirrors.count : reference.ordersById.length = book.all.length := by
  rw [mirrors.entries.length_eq, List.length_map]

/-- An insertion is answered alike, and the queues of the model follow the priority lists of the
abstract book. -/
theorem insert_mirrors (order : RestingOrderData) :
    (reference.insert order).1 = (book.insert order).1 ∧
      (reference.insert order).2.Mirrors (book.insert order).2 := by
  rw [insert, PriceTimeBook.insert]
  by_cases zero : order.quantity = 0
  · simp [zero, mirrors]
  by_cases inside : book.config.contains order.price
  swap
  · simp [zero, inside, priceInRange, mirrors.config, mirrors]
  by_cases fresh : book.find order.id = none
  swap
  · simp [zero, inside, fresh, priceInRange, mirrors.config, mirrors.known, mirrors,
      Option.isSome_iff_ne_none]
  by_cases room : book.all.length < book.config.maxOrders.toNat
  swap
  · have full : book.config.maxOrders.toNat ≤ book.all.length := by omega
    simp [zero, inside, fresh, room, full, priceInRange, mirrors.config, mirrors.known, mirrors,
      mirrors.count]
  have space : ¬ book.config.maxOrders.toNat ≤ book.all.length := by omega
  simp only [zero, inside, fresh, room, space, priceInRange, mirrors.config, mirrors.known,
    mirrors.count, ↓reduceIte, ↓reduceDIte, Bool.not_true, Bool.false_eq_true,
    Option.isSome_none, true_and]
  refine ⟨by rw [config_setPriceLevels]; rfl, ?_, fun side => ?_, fun side price => ?_⟩
  · rw [ordersById_setPriceLevels]
    have perm := (addTo_perm book.orders order.view).map fun order => (order.id, order)
    exact (mirrors.entries.cons _).trans perm.symm
  · rw [priceLevels_setPriceLevels]
    split
    · exact (mirrors.levels order.side).pushBack
    · exact mirrors.levels side
  · rw [priceLevels_setPriceLevels]
    by_cases same : side = order.side
    · subst same
      rw [if_pos rfl, PriceLevels.queueAt_pushBack (mirrors.levels order.side).rising]
      have queue := group_insertLast (x := order.view) (k := rank order.side price)
        (book.ordered order.side)
      have added : (book.add order.view fresh inside zero room).orders order.side =
          insertLast (viewRank order.side) order.view (book.orders order.side) := by
        simp [add, addTo, RestingOrderData.view]
      have here : viewRank order.side order.view = rank order.side price ↔ price = order.price := by
        rw [viewRank, (rank_injective order.side).eq_iff]
        exact eq_comm
      rw [added, queue]
      simp only [here]
      split
      · rename_i here
        rw [mirrors.queues, here]
        simp [RestingOrderData.view]
      · exact mirrors.queues order.side price
    · have kept : (book.add order.view fresh inside zero room).orders side = book.orders side := by
        have apart : side ≠ order.view.side := same
        simp [add, addTo, apart]
      rw [if_neg same, kept]
      exact mirrors.queues side price

theorem setRemaining_mirrors (id : OrderId) (newRemaining : Quantity) :
    (reference.setRemaining id newRemaining).1 = (book.setRemaining id newRemaining).1 ∧
      (reference.setRemaining id newRemaining).2.Mirrors (book.setRemaining id newRemaining).2 := by
  rw [setRemaining, PriceTimeBook.setRemaining]
  by_cases zero : newRemaining = 0
  · simp [zero, mirrors]
  cases found : book.find id with
  | none => simp [zero, mirrors.known, found, mirrors]
  | some order =>
    obtain ⟨member, same⟩ := find_eq_some.mp found
    simp only [zero, mirrors.known, found, ↓reduceIte, ↓reduceDIte, true_and]
    refine ⟨mirrors.config, ?_, mirrors.levels, fun side price => ?_⟩
    · have perm := mirrors.entries.map fun entry : OrderId × OrderView =>
        (entry.1, if entry.1 = id then { order with remaining := newRemaining } else entry.2)
      refine perm.trans (List.Perm.of_eq ?_)
      have all : (book.update id newRemaining zero).all =
          book.all.map (withRemaining id newRemaining) := by simp [PriceTimeBook.all, update]
      rw [all, List.map_map, List.map_map]
      refine List.map_congr_left fun other listed => ?_
      simp only [Function.comp_apply, withRemaining_id, Prod.mk.injEq, true_and]
      by_cases here : other.id = id
      · rw [eq_of_id listed member (here.trans same.symm)]
        simp [withRemaining]
      · simp [withRemaining, here]
    · have kept : group (viewRank side) (rank side price)
          ((book.update id newRemaining zero).orders side) =
          (group (viewRank side) (rank side price) (book.orders side)).map
            (withRemaining id newRemaining) := group_map fun order _ => by simp [viewRank]
      have ids : OrderView.id ∘ withRemaining id newRemaining = OrderView.id :=
        funext fun order => by simp
      rw [kept, List.map_map, ids]
      exact mirrors.queues side price

theorem erase_mirrors (id : OrderId) :
    (reference.erase id).1 = (book.erase id).1 ∧
      (reference.erase id).2.Mirrors (book.erase id).2 := by
  rw [erase, PriceTimeBook.erase]
  cases found : book.find id with
  | none => simp [mirrors.known, found, mirrors]
  | some order =>
    obtain ⟨member, same⟩ := find_eq_some.mp found
    have atLevel : order ∈ group (viewRank order.side) (rank order.side order.price)
        (book.orders order.side) := mem_group.mpr ⟨mem_all.mp member, rfl⟩
    have queued : (reference.priceLevels order.side).queueAt order.price ≠ [] := by
      rw [mirrors.queues]
      simpa using List.ne_nil_of_mem atLevel
    have present : ((reference.priceLevels order.side).all
        fun (levelPrice, _) => levelPrice != order.price) = false := by
      refine List.all_eq_false.mpr ⟨_, PriceLevels.mem_of_queueAt queued, by simp⟩
    simp only [mirrors.known, found, present, Bool.false_eq_true, ↓reduceIte, true_and]
    refine ⟨by rw [config_setPriceLevels]; exact mirrors.config, ?_, fun side => ?_,
      fun side price => ?_⟩
    · rw [ordersById_setPriceLevels]
      refine (mirrors.entries.filter _).trans (List.Perm.of_eq ?_)
      have all : (book.drop id).all = book.all.filter (·.id ≠ id) := by
        simp [PriceTimeBook.all, drop]
      rw [all, List.filter_map]
      congr 1
      exact List.filter_congr fun other _ => by simp [bne, Bool.beq_eq_decide_eq]
    · rw [priceLevels_setPriceLevels]
      split
      · exact (mirrors.levels order.side).eraseFrom
      · exact mirrors.levels side
    · rw [priceLevels_setPriceLevels, ← drop_queue]
      by_cases atSide : side = order.side
      · subst atSide
        rw [if_pos rfl, PriceLevels.queueAt_eraseFrom (mirrors.levels order.side).rising]
        split
        · rename_i atPrice
          rw [atPrice, mirrors.queues]
        · rename_i apart
          rw [mirrors.queues, List.erase_of_not_mem]
          intro listed
          obtain ⟨other, inGroup, sameId⟩ := List.mem_map.mp listed
          obtain ⟨held, atPrice⟩ := mem_group.mp inGroup
          have unique := eq_of_id (mem_all_of_mem held) member (sameId.trans same.symm)
          rw [viewRank, unique] at atPrice
          exact apart (rank_injective _ atPrice).symm
      · rw [if_neg atSide]
        refine (mirrors.queues side price).trans (List.erase_of_not_mem fun listed => ?_).symm
        obtain ⟨other, inGroup, sameId⟩ := List.mem_map.mp listed
        have held := (mem_group.mp inGroup).1
        have unique := eq_of_id (mem_all_of_mem held) member (sameId.trans same.symm)
        exact atSide ((book.sided side other held).symm.trans (by rw [unique]))

/-- The extreme level of the price map lies at the best price: the last one of the bids, the
first one of the asks. -/
theorem Mirrors.bestLevel (side : Side) (nonempty : reference.priceLevels side ≠ []) :
    ∃ price ids, (match side with
        | .bid => reference.bidLevels.getLast?
        | .ask => reference.askLevels.head?) = some (price, ids) ∧
      (price, ids) ∈ reference.priceLevels side ∧
      ∀ level ∈ reference.priceLevels side, rank side price ≤ rank side level.1 := by
  have rising := (mirrors.levels side).rising
  cases side with
  | bid =>
    simp only [priceLevels] at rising nonempty ⊢
    cases found : reference.bidLevels.getLast? with
    | none => exact absurd (List.getLast?_eq_none_iff.mp found) nonempty
    | some last =>
      obtain ⟨below, split⟩ := List.getLast?_eq_some_iff.mp found
      rw [split] at rising ⊢
      refine ⟨last.1, last.2, rfl, by simp, fun level member => ?_⟩
      have least := (List.pairwise_append.mp rising).2.2
      rcases List.mem_append.mp member with member | member
      · have less := UInt32.lt_iff_toNat_lt.mp (least level member last (by simp))
        simp only [rank]
        omega
      · rw [List.mem_singleton.mp member]
  | ask =>
    simp only [priceLevels] at rising nonempty ⊢
    obtain ⟨first, above, split⟩ := List.exists_cons_of_ne_nil nonempty
    rw [split] at rising ⊢
    refine ⟨first.1, first.2, rfl, by simp, fun level member => ?_⟩
    rcases List.mem_cons.mp member with rfl | member
    · exact le_rfl
    · have less := UInt32.lt_iff_toNat_lt.mp ((List.pairwise_cons.mp rising).1 level member)
      simp only [rank]
      omega

/-- The front of the extreme level is the head of the priority list. -/
theorem best_mirrors (side : Side) : reference.best side = book.best side := by
  have inhabited := (mirrors.levels side).inhabited
  have queue {price : PriceTick} {ids : List OrderId}
      (member : (price, ids) ∈ reference.priceLevels side) :
      ids = (group (viewRank side) (rank side price) (book.orders side)).map OrderView.id := by
    rw [← mirrors.queues, PriceLevels.queueAt_of_mem (mirrors.levels side).rising member]
  rw [PriceTimeBook.best]
  cases listed : book.orders side with
  | nil =>
    have empty : reference.priceLevels side = [] := by
      refine List.eq_nil_iff_forall_not_mem.mpr fun level member => inhabited level member ?_
      rw [queue member, listed]
      rfl
    cases side <;> simp only [priceLevels] at empty <;> simp [best, empty]
  | cons order rest =>
    have ordered := book.ordered side
    have key : viewRank side order = rank side order.price := rfl
    have atOrder : (reference.priceLevels side).queueAt order.price ≠ [] := by
      rw [mirrors.queues, listed, group_cons, if_pos key]
      simp
    have present := PriceLevels.mem_of_queueAt atOrder
    obtain ⟨price, ids, picked, member, extreme⟩ :=
      mirrors.bestLevel side (List.ne_nil_of_mem present)
    have ahead : rank side price ≤ rank side order.price := extreme _ present
    obtain ⟨other, inGroup⟩ : ∃ other, other ∈
        group (viewRank side) (rank side price) (book.orders side) := by
      refine List.exists_mem_of_ne_nil _ fun none => inhabited _ member ?_
      rw [queue member, none]
      rfl
    obtain ⟨held, atPrice⟩ := mem_group.mp inGroup
    rw [listed] at ordered held
    have behind : rank side order.price ≤ rank side price := by
      rw [← atPrice]
      rcases List.mem_cons.mp held with rfl | held
      · exact le_rfl
      · exact List.rel_of_pairwise_cons ordered held
    have same := rank_injective side (le_antisymm ahead behind)
    have front : ids.head? = some order.id := by
      rw [queue member, listed, same, group_cons, if_pos key]
      rfl
    have known : book.find order.id = some order :=
      find_eq_some.mpr ⟨mem_all_of_mem (by rw [listed]; simp : order ∈ book.orders side), rfl⟩
    simp only [best, picked, Option.bind_some, front, mirrors.known, known, List.head?_cons]

omit mirrors in
theorem create_mirrors (config : OrderBookConfig) :
    (create config).Mirrors (PriceTimeBook.empty config) where
  config := rfl
  entries := by simp [create, PriceTimeBook.all, PriceTimeBook.empty]
  levels side := by cases side <;> exact ⟨List.Pairwise.nil, by simp [create, priceLevels]⟩
  queues side price := by cases side <;> rfl

end Simulation

end ReferenceOrderBook

end Fexma
