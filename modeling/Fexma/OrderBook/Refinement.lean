import Fexma.OrderBook.OrderBook
import Fexma.OrderBook.PriceTimeBook
import Fexma.OrderBook.SideBookProofs

/-! The facade refines the price-time book. A single relation ties the pool, the
index and both side books to two lists of slots; every operation keeps it and
answers as the abstract book does. -/
namespace Fexma.OrderBook

open StableOrder OrderPool

/-- The side book of one side. -/
def half (book : OrderBook) : (side : Side) → SideBook side
  | .bid => book.bids
  | .ask => book.asks

/-- Replace one side book. -/
def withHalf (book : OrderBook) : {side : Side} → SideBook side → OrderBook
  | .bid, bids => { book with bids }
  | .ask, asks => { book with asks }

/-- The slots of both sides. -/
def active (slots : Side → List OrderIndex) : List OrderIndex := slots .bid ++ slots .ask

/-- `slots` lists the resting orders of each side by priority, `free` the idle
slots; the index knows exactly the resting ids. -/
structure Rep (book : OrderBook) (slots : Side → List OrderIndex) (free : List OrderIndex) :
    Prop where
  holds : ∀ side, (book.half side).Holds book.pool (slots side)
  range : ∀ side price, (book.half side).containsPrice price = book.config.contains price
  sided : ∀ side, ∀ slot ∈ slots side, (book.pool.orders slot).side = side
  positive : ∀ side, ∀ slot ∈ slots side, (book.pool.orders slot).remaining ≠ 0
  freeList : book.pool.FreeList free
  partition : (free ++ active slots).Perm (allSlots book.pool.capacity)
  capacity : book.pool.capacity = book.config.maxOrders
  wellFormed : book.index.WellFormed
  maps : ∀ id slot, book.index.Maps id slot ↔
    slot ∈ active slots ∧ (book.pool.orders slot).id = id
  buckets : book.pool.capacity.toNat < book.index.bucketCount
  size : book.index.size = (active slots).length

/-- The abstract book that a facade stands for. -/
def Represents (book : OrderBook) (abstract : PriceTimeBook) : Prop :=
  ∃ slots free, Rep book slots free ∧ abstract.config = book.config ∧
    ∀ side, abstract.orders side = (slots side).map book.viewFor

variable {book book' : OrderBook} {slots slots' : Side → List OrderIndex}
variable {free free' : List OrderIndex} {slot other : OrderIndex} {side : Side} {id : OrderId}
variable {abstract : PriceTimeBook}

section WithHalf
variable (book : OrderBook) (sideBook : SideBook side)

@[simp] theorem withHalf_pool : (book.withHalf sideBook).pool = book.pool := by cases side <;> rfl

@[simp] theorem withHalf_index : (book.withHalf sideBook).index = book.index := by cases side <;> rfl

@[simp] theorem withHalf_config : (book.withHalf sideBook).config = book.config := by
  cases side <;> rfl

@[simp] theorem viewFor_withHalf : (book.withHalf sideBook).viewFor = book.viewFor := by
  cases side <;> rfl

@[simp] theorem half_withHalf : (book.withHalf sideBook).half side = sideBook := by
  cases side <;> rfl

theorem half_withHalf_ne {side' : Side} (apart : side' ≠ side) :
    (book.withHalf sideBook).half side' = book.half side' := by
  cases side <;> cases side' <;> first | rfl | contradiction

end WithHalf

theorem mem_active_of_mem (member : slot ∈ slots side) : slot ∈ active slots := by
  cases side <;> simp [active, member]

section Facts
variable (rep : Rep book slots free)
include rep

theorem Rep.mem_active : slot ∈ active slots ↔ slot ∈ slots (book.pool.orders slot).side := by
  refine ⟨fun member => ?_, mem_active_of_mem⟩
  rcases List.mem_append.mp member with member | member
  · rwa [rep.sided _ _ member]
  · rwa [rep.sided _ _ member]

theorem Rep.distinct : (free ++ active slots).Nodup :=
  rep.partition.nodup_iff.mpr (nodup_allSlots _)

/-- No active slot is free. What is written to a free slot is not seen by any order. -/
theorem Rep.not_free (member : slot ∈ active slots) : slot ∉ free := fun idle =>
  (List.nodup_append.mp rep.distinct).2.2 slot idle slot member rfl

theorem Rep.bound (member : slot ∈ active slots) : slot < book.pool.capacity :=
  mem_allSlots.mp (rep.partition.mem_iff.mp (List.mem_append_right _ member))

theorem Rep.inUse (member : slot ∈ active slots) : (book.pool.orders slot).inUse = true := by
  have idle := rep.freeList.idle slot (rep.bound member)
  simpa [rep.not_free member] using idle

theorem Rep.valid (member : slot ∈ active slots) : slot ≠ invalidOrderIndex :=
  ne_invalid_of_lt rep.freeList.small (rep.bound member)

theorem Rep.count : free.length + (active slots).length = book.config.maxOrders.toNat := by
  have := rep.partition.length_eq
  rw [List.length_append, length_allSlots, rep.capacity] at this
  exact this

theorem Rep.eq_of_id (member : slot ∈ active slots) (member' : other ∈ active slots)
    (same : (book.pool.orders slot).id = (book.pool.orders other).id) : slot = other :=
  OrderIdIndex.Maps.unique rep.wellFormed ((rep.maps _ _).mpr ⟨member, rfl⟩)
    ((rep.maps _ _).mpr ⟨member', same.symm⟩)

/-- An id is known to the index exactly when the abstract book finds it. -/
theorem Rep.find_eq_some (sides : ∀ side, abstract.orders side = (slots side).map book.viewFor)
    (maps : book.index.Maps id slot) : abstract.find id = some (book.viewFor slot) := by
  obtain ⟨member, same⟩ := (rep.maps _ _).mp maps
  have listed : book.viewFor slot ∈ abstract.orders (book.pool.orders slot).side := by
    rw [sides]
    exact List.mem_map_of_mem (rep.mem_active.mp member)
  exact PriceTimeBook.find_eq_some.mpr ⟨PriceTimeBook.mem_all_of_mem listed, same⟩

theorem Rep.find_eq_none (sides : ∀ side, abstract.orders side = (slots side).map book.viewFor)
    (absent : ∀ slot, ¬ book.index.Maps id slot) : abstract.find id = none := by
  refine PriceTimeBook.find_eq_none.mpr fun order member same => ?_
  rw [PriceTimeBook.mem_all, sides] at member
  obtain ⟨slot, listed, rfl⟩ := List.mem_map.mp member
  exact absent slot ((rep.maps _ _).mpr ⟨mem_active_of_mem listed, same⟩)

end Facts

/-- The cached best order of a side is the head of its list. A side without a cached order has an
empty one. -/
theorem best_eq (represents : book.Represents abstract) (side : Side) :
    book.best side = abstract.best side := by
  obtain ⟨slots, free, rep, -, sides⟩ := represents
  have head := (rep.holds side).bestOrder_eq
  have select : book.best side = if (book.half side).bestOrder = invalidOrderIndex then none
      else some (book.viewFor (book.half side).bestOrder) := by cases side <;> rfl
  rw [select, head, PriceTimeBook.best, sides]
  cases listed : slots side with
  | nil => rfl
  | cons slot rest =>
    have valid := rep.valid (mem_active_of_mem (by rw [listed]; simp : slot ∈ slots side))
    simp [valid]

/-! ### Insertion -/

/-- Listing a slot on a side lists it once more among the active slots. -/
theorem active_update_perm {queue : List OrderIndex} {cell : OrderIndex}
    (added : queue.Perm (cell :: slots side)) :
    (active (Function.update slots side queue)).Perm (cell :: active slots) := by
  cases side with
  | bid => simpa [active] using added.append_right (slots .ask)
  | ask =>
    have moved := added.append_left (slots .bid)
    simpa [active] using moved.trans List.perm_middle

/-- The state of a successful insertion: the new slot stands behind its equals, and the index
maps its id. -/
theorem rep_append (rep : Rep book slots (slot :: free)) {pool : OrderPool} {index : OrderIdIndex}
    {order : Order} (list : pool.FreeList free) (capacity : pool.capacity = book.pool.capacity)
    (orders : pool.orders = Function.update book.pool.orders slot order)
    (inside : book.config.contains order.price) (positive : order.remaining ≠ 0)
    (wellFormed : index.WellFormed) (count : index.bucketCount = book.index.bucketCount)
    (size : index.size = book.index.size + 1)
    (maps : ∀ id' slot', index.Maps id' slot' ↔
      (id' = order.id ∧ slot' = slot) ∨ book.index.Maps id' slot') :
    let appended := (book.half order.side).append pool slot
    Rep ({ book with pool := appended.2, index }.withHalf appended.1)
      (Function.update slots order.side
        (insertLast (SideBook.priority order.side pool) slot (slots order.side))) free := by
  have idle : slot ∉ active slots := fun member => rep.not_free member (by simp)
  have filled : pool.orders slot = order := by rw [orders]; simp
  have frame : ∀ cell ∈ active slots, pool.orders cell = book.pool.orders cell := by
    intro cell member
    have apart : cell ≠ slot := by rintro rfl; exact idle member
    rw [orders, Function.update_of_ne apart]
  have held (side : Side) : (book.half side).Holds pool (slots side) :=
    (rep.holds side).congr fun cell member => frame cell (mem_active_of_mem member)
  have fresh : slot ∉ slots order.side := fun member => idle (mem_active_of_mem member)
  have valid : slot ≠ invalidOrderIndex :=
    ne_invalid_of_lt rep.freeList.small (rep.freeList.bound slot (by simp))
  have contained : (book.half order.side).containsPrice (pool.orders slot).price := by
    rw [filled, rep.range]
    exact inside
  intro appended
  have relinked : Relinked pool appended.2 (slot :: slots order.side) :=
    SideBook.append_relinked_listed (held order.side) contained
  have perm : (active (Function.update slots order.side
      (insertLast (SideBook.priority order.side pool) slot (slots order.side)))).Perm
      (slot :: active slots) := active_update_perm insertLast_perm
  have data (side : Side) (cell : OrderIndex) (member : cell ∈ Function.update slots order.side
      (insertLast (SideBook.priority order.side pool) slot (slots order.side)) side) :
      (cell = slot ∧ side = order.side) ∨
        (cell ∈ slots side ∧ pool.orders cell = book.pool.orders cell) := by
    by_cases same : side = order.side
    · subst same
      rw [Function.update_self, mem_insertLast] at member
      exact member.imp (⟨·, rfl⟩) fun old => ⟨old, frame cell (mem_active_of_mem old)⟩
    · rw [Function.update_of_ne same] at member
      exact .inr ⟨member, frame cell (mem_active_of_mem member)⟩
  refine
    { holds := fun side => ?_
      range := fun side price => ?_
      sided := fun side cell member => ?_
      positive := fun side cell member => ?_
      freeList := ?_
      partition := ?_
      capacity := ?_
      wellFormed := by simpa using wellFormed
      maps := fun id cell => ?_
      buckets := ?_
      size := ?_ }
  · by_cases same : side = order.side
    · subst same
      simpa using SideBook.append_holds (held order.side) fresh valid contained
    · rw [half_withHalf_ne _ _ same, withHalf_pool, Function.update_of_ne same]
      refine (held side).congr fun cell member => relinked.frame cell fun touched => ?_
      rcases List.mem_cons.mp touched with rfl | listed
      · exact idle (mem_active_of_mem member)
      · exact same ((rep.sided side cell member).symm.trans (rep.sided _ cell listed))
  · rw [withHalf_config]
    by_cases same : side = order.side
    · subst same
      rw [half_withHalf, SideBook.append_containsPrice]
      exact rep.range order.side price
    · rw [half_withHalf_ne _ _ same]
      exact rep.range side price
  · rw [withHalf_pool, relinked.side]
    rcases data side cell member with ⟨rfl, rfl⟩ | ⟨old, same⟩
    · rw [filled]
    · rw [same, rep.sided side cell old]
  · rw [withHalf_pool, relinked.remaining]
    rcases data side cell member with ⟨rfl, rfl⟩ | ⟨old, same⟩
    · rwa [filled]
    · rw [same]
      exact rep.positive side cell old
  · rw [withHalf_pool]
    refine list.relinked relinked fun cell member touched => ?_
    rcases List.mem_cons.mp touched with rfl | listed
    · exact (List.nodup_cons.mp rep.freeList.distinct).1 member
    · exact rep.not_free (mem_active_of_mem listed) (List.mem_cons_of_mem _ member)
  · rw [withHalf_pool, relinked.capacity, capacity]
    refine ((perm.append_left free).trans ?_).trans rep.partition
    exact List.perm_middle
  · rw [withHalf_pool, withHalf_config, relinked.capacity, capacity]
    exact rep.capacity
  · rw [withHalf_index, withHalf_pool, maps, rep.maps, perm.mem_iff, List.mem_cons,
      relinked.id]
    constructor
    · rintro (⟨rfl, rfl⟩ | ⟨member, rfl⟩)
      · exact ⟨.inl rfl, by rw [filled]⟩
      · exact ⟨.inr member, by rw [frame cell member]⟩
    · rintro ⟨rfl | member, same⟩
      · exact .inl ⟨by rw [← same, filled], rfl⟩
      · exact .inr ⟨member, by rw [← same, frame cell member]⟩
  · rw [withHalf_pool, withHalf_index, relinked.capacity, capacity, count]
    exact rep.buckets
  · rw [withHalf_index, perm.length_eq, List.length_cons, ← rep.size]
    exact size

/-- The views of the sides after that insertion. -/
theorem append_sides {pool : OrderPool} {order : Order}
    (sides : ∀ side, abstract.orders side = (slots side).map book.viewFor)
    (filled : pool.orders slot = order)
    (frame : ∀ cell ∈ active slots, pool.orders cell = book.pool.orders cell) (side : Side) :
    PriceTimeBook.addTo abstract.orders order.view side =
      (Function.update slots order.side
        (insertLast (SideBook.priority order.side pool) slot (slots order.side)) side).map
        fun cell => (((book.half order.side).append pool slot).2.orders cell).view := by
  have relinked := SideBook.append_relinked (book.half order.side) pool slot
  have old (side : Side) : (slots side).map (fun cell => (pool.orders cell).view) =
      abstract.orders side := by
    rw [sides]
    exact List.map_congr_left fun cell member => by rw [frame cell (mem_active_of_mem member)]; rfl
  simp only [relinked.view]
  by_cases same : side = order.side
  · subst same
    have keys : ∀ cell ∈ slot :: slots order.side,
        viewRank order.side (pool.orders cell).view = SideBook.priority order.side pool cell :=
      fun cell _ => rfl
    rw [Function.update_self, map_insertLast keys, old, filled]
    exact Function.update_self ..
  · have atSide : side ≠ order.view.side := same
    rw [Function.update_of_ne same, old, PriceTimeBook.addTo, Function.update_of_ne atSide]

/-- Only the active slots of the pool and its freelist matter. -/
theorem Rep.congr (rep : Rep book slots free) (halves : ∀ side, book'.half side = book.half side)
    (config : book'.config = book.config) (index : book'.index = book.index)
    (capacity : book'.pool.capacity = book.pool.capacity)
    (frame : ∀ cell ∈ active slots, book'.pool.orders cell = book.pool.orders cell)
    (list : book'.pool.FreeList free) : Rep book' slots free where
  holds side := by
    rw [halves]
    exact (rep.holds side).congr fun cell member => frame cell (mem_active_of_mem member)
  range side price := by rw [halves, config]; exact rep.range side price
  sided side cell member := by
    rw [frame cell (mem_active_of_mem member)]
    exact rep.sided side cell member
  positive side cell member := by
    rw [frame cell (mem_active_of_mem member)]
    exact rep.positive side cell member
  freeList := list
  partition := by rw [capacity]; exact rep.partition
  capacity := by rw [capacity, config]; exact rep.capacity
  wellFormed := by rw [index]; exact rep.wellFormed
  maps id cell := by
    rw [index, rep.maps]
    exact and_congr_right fun member => by rw [frame cell member]
  buckets := by rw [capacity, index]; exact rep.buckets
  size := by rw [index]; exact rep.size

/-- A representation whose listed slots show the same views stands for the same abstract book. -/
theorem Rep.represents (rep : Rep book' slots free)
    (sides : ∀ side, abstract.orders side = (slots side).map book.viewFor)
    (config : abstract.config = book'.config)
    (frame : ∀ cell ∈ active slots, book'.viewFor cell = book.viewFor cell) :
    book'.Represents abstract := by
  refine ⟨slots, free, rep, config, fun side => ?_⟩
  rw [sides]
  exact List.map_congr_left fun cell member => (frame cell (mem_active_of_mem member)).symm

/-- While a slot is free, the index has an empty bucket, so an insertion that has found a slot is
not refused by the index. -/
theorem Rep.room (rep : Rep book slots free) :
    ∃ pos < book.index.bucketCount, book.index.cells pos = none := by
  refine ProbeTable.exists_empty rep.wellFormed.placed (active slots) ?_ ?_ ?_
  · have := rep.count
    have := rep.buckets
    rw [rep.capacity] at this
    omega
  · exact fun id slot maps => ((rep.maps id slot).mp maps).1
  · intro id id' slot maps maps'
    exact ((rep.maps id slot).mp maps).2.symm.trans ((rep.maps id' slot).mp maps').2

theorem all_length (sides : ∀ side, abstract.orders side = (slots side).map book.viewFor) :
    abstract.all.length = (active slots).length := by
  simp [PriceTimeBook.all, sides, active]

/-- `insert` answers and changes the book as the abstract insertion does. The code takes a slot
before it looks for the id: a duplicate gives it back, and in a full pool a search tells the two
refusals apart. -/
theorem insert_represents (represents : book.Represents abstract) (order : RestingOrderData) :
    (book.insert order).1 = (abstract.insert order).1 ∧
      (book.insert order).2.Represents (abstract.insert order).2 := by
  obtain ⟨slots, free, rep, config, sides⟩ := represents
  have self : book.Represents abstract := ⟨slots, free, rep, config, sides⟩
  rw [insert, PriceTimeBook.insert]
  by_cases zero : order.quantity = 0
  · simp [zero, self]
  by_cases inside : book.config.contains order.price
  swap
  · simp [zero, inside, priceInRange, config, self]
  have length := all_length sides
  have count := rep.count
  simp only [zero, inside, priceInRange, config, ↓reduceIte, ↓reduceDIte, Bool.not_true,
    Bool.false_eq_true]
  cases free with
  | nil =>
    -- an exhausted pool: the id lookup decides between the two refusals
    have full : ¬ abstract.all.length < book.config.maxOrders.toNat := by
      rw [length, ← count]
      simp
    have pool := emplace_full rep.freeList order.id order.ownerId order.price order.quantity
      order.side
    by_cases known : ∃ slot, book.index.Maps order.id slot
    · obtain ⟨slot, maps⟩ := known
      have valid := rep.valid ((rep.maps _ _).mp maps).1
      have found := OrderIdIndex.find_maps rep.wellFormed maps
      simp [pool, found, valid, rep.find_eq_some sides maps, self]
    · have absent : ∀ slot, ¬ book.index.Maps order.id slot := fun slot maps => known ⟨slot, maps⟩
      have missed := OrderIdIndex.find_absent rep.wellFormed absent
      simp [pool, missed, rep.find_eq_none sides absent, full, self]
  | cons slot free =>
    obtain ⟨taken, list, capacity, orders⟩ := emplace_slot rep.freeList order.id order.ownerId
      order.price order.quantity order.side
    have valid : slot ≠ invalidOrderIndex :=
      ne_invalid_of_lt rep.freeList.small (rep.freeList.bound slot (by simp))
    have room : abstract.all.length < book.config.maxOrders.toNat := by
      rw [length, ← count, List.length_cons]
      omega
    cases emplaced : book.pool.emplace order.id order.ownerId order.price order.quantity
      order.side with
    | mk first pool =>
      simp only [emplaced] at taken list capacity orders
      subst taken
      have frame : ∀ cell ∈ active slots, pool.orders cell = book.pool.orders cell := by
        intro cell member
        have apart : cell ≠ first := by
          rintro rfl
          exact rep.not_free member (by simp)
        rw [orders, Function.update_of_ne apart]
      by_cases known : ∃ slot, book.index.Maps order.id slot
      · -- the id is taken: the slot goes back before anything else is written
        obtain ⟨held, maps⟩ := known
        have duplicate := OrderIdIndex.insert_duplicate rep.wellFormed maps first
        have bound : first < pool.capacity := by
          rw [capacity]
          exact rep.freeList.bound first (by simp)
        obtain ⟨released, capacity', others⟩ := release_active list bound (by rw [orders]; simp)
        have kept : ∀ cell ∈ active slots,
            (pool.release first).orders cell = book.pool.orders cell := fun cell member => by
          have apart : cell ≠ first := by
            rintro rfl
            exact rep.not_free member (by simp)
          rw [others cell apart, frame cell member]
        have rolledBack : Rep { book with pool := pool.release first } slots (first :: free) :=
          rep.congr (fun side => by cases side <;> rfl) rfl rfl (capacity'.trans capacity) kept
            released
        simp only [valid, duplicate, rep.find_eq_some sides maps, ↓reduceIte, ne_eq, reduceCtorEq,
          not_false_eq_true, ↓reduceDIte, true_and]
        exact rolledBack.represents sides config fun cell member => congrArg Order.view (kept cell member)
      · have absent : ∀ slot, ¬ book.index.Maps order.id slot := fun slot maps => known ⟨slot, maps⟩
        obtain ⟨ok, wellFormed, buckets, size, maps⟩ :=
          OrderIdIndex.insert_absent rep.wellFormed absent rep.room first
        cases inserted : book.index.insert order.id first with
        | mk status index =>
          simp only [inserted] at ok wellFormed buckets size maps
          subst ok
          have appended := rep_append rep list capacity orders inside zero wellFormed buckets size
            maps
          have filled := congrFun orders first
          rw [Function.update_self] at filled
          have views := append_sides sides filled frame
          simp only [valid, rep.find_eq_none sides absent, room, ↓reduceIte, ne_eq,
            not_true_eq_false, ↓reduceDIte]
          obtain ⟨id, ownerId, side, price, quantity⟩ := order
          cases side with
          | bid => exact ⟨rfl, _, _, appended, config, views⟩
          | ask => exact ⟨rfl, _, _, appended, config, views⟩

/-! ### Removal -/

/-- The state after the slot has been taken out of its side and released. Its id leaves the index
with it. -/
theorem rep_remove (rep : Rep book slots free) (member : slot ∈ active slots) {index : OrderIdIndex}
    (wellFormed : index.WellFormed) (count : index.bucketCount = book.index.bucketCount)
    (size : index.size = book.index.size - 1)
    (maps : ∀ id' slot', index.Maps id' slot' ↔
      id' ≠ (book.pool.orders slot).id ∧ book.index.Maps id' slot') :
    let side := (book.pool.orders slot).side
    let removed := (book.half side).remove book.pool slot
    Rep ({ book with pool := removed.2.release slot, index }.withHalf removed.1)
      (Function.update slots side ((slots side).erase slot)) (slot :: free) := by
  have listed := rep.mem_active.mp member
  intro side removed
  have relinked : Relinked book.pool removed.2 (slots side) :=
    SideBook.remove_relinked_listed (rep.holds side) listed
  have bound : slot < removed.2.capacity := by
    rw [relinked.capacity]
    exact rep.bound member
  have used : (removed.2.orders slot).inUse = true := by
    rw [relinked.data slot]
    exact rep.inUse member
  have list : removed.2.FreeList free := rep.freeList.relinked relinked fun cell idle touched =>
    rep.not_free (mem_active_of_mem touched) idle
  obtain ⟨released, capacity, others⟩ := release_active list bound used
  have distinct : (active slots).Nodup := (List.nodup_append.mp rep.distinct).2.1
  have perm : (active slots).Perm
      (slot :: active (Function.update slots side ((slots side).erase slot))) := by
    have back : active slots = active (Function.update
        (Function.update slots side ((slots side).erase slot)) side (slots side)) := by
      rw [Function.update_idem, Function.update_eq_self]
    rw [back]
    exact active_update_perm (by rw [Function.update_self]; exact List.perm_cons_erase listed)
  have gone : slot ∉ active (Function.update slots side ((slots side).erase slot)) :=
    (List.nodup_cons.mp (perm.nodup_iff.mp distinct)).1
  have data (side' : Side) (cell : OrderIndex)
      (member' : cell ∈ Function.update slots side ((slots side).erase slot) side') :
      cell ≠ slot ∧ cell ∈ slots side' := by
    refine ⟨?_, ?_⟩
    · rintro rfl
      exact gone (mem_active_of_mem member')
    · by_cases same : side' = side
      · subst same
        rw [Function.update_self] at member'
        exact List.mem_of_mem_erase member'
      · rwa [Function.update_of_ne same] at member'
  refine
    { holds := fun side' => ?_
      range := fun side' price => ?_
      sided := fun side' cell member' => ?_
      positive := fun side' cell member' => ?_
      freeList := by rw [withHalf_pool]; exact released
      partition := ?_
      capacity := by
        rw [withHalf_pool, withHalf_config, capacity, relinked.capacity]
        exact rep.capacity
      wellFormed := by simpa using wellFormed
      maps := fun id cell => ?_
      buckets := ?_
      size := ?_ }
  · rw [withHalf_pool]
    by_cases same : side' = side
    · subst same
      rw [half_withHalf, Function.update_self]
      refine (SideBook.remove_holds (rep.holds side) listed).congr fun cell member' => ?_
      exact others cell (data side cell (by rwa [Function.update_self])).1
    · rw [half_withHalf_ne _ _ same, Function.update_of_ne same]
      refine (rep.holds side').congr fun cell member' => ?_
      have apart : cell ≠ slot := by
        rintro rfl
        exact same (rep.sided side' cell member').symm
      rw [others cell apart]
      refine relinked.frame cell fun touched => same ?_
      exact (rep.sided side' cell member').symm.trans (rep.sided side cell touched)
  · rw [withHalf_config]
    by_cases same : side' = side
    · subst same
      rw [half_withHalf, SideBook.remove_containsPrice]
      exact rep.range side price
    · rw [half_withHalf_ne _ _ same]
      exact rep.range side' price
  · obtain ⟨apart, old⟩ := data side' cell member'
    rw [withHalf_pool, others cell apart, relinked.side]
    exact rep.sided side' cell old
  · obtain ⟨apart, old⟩ := data side' cell member'
    rw [withHalf_pool, others cell apart, relinked.remaining]
    exact rep.positive side' cell old
  · rw [withHalf_pool, capacity, relinked.capacity]
    refine List.Perm.trans ?_ rep.partition
    exact List.perm_middle.symm.trans (perm.symm.append_left free)
  · rw [withHalf_index, withHalf_pool, maps, rep.maps]
    constructor
    · rintro ⟨other, held, same⟩
      have apart : cell ≠ slot := by rintro rfl; exact other same.symm
      refine ⟨(List.mem_cons.mp (perm.mem_iff.mp held)).resolve_left apart, ?_⟩
      rw [others cell apart, relinked.id, same]
    · rintro ⟨held, same⟩
      have apart : cell ≠ slot := by rintro rfl; exact gone held
      rw [others cell apart, relinked.id] at same
      have old := perm.mem_iff.mpr (List.mem_cons_of_mem _ held)
      exact ⟨fun taken => apart (rep.eq_of_id old member (same.trans taken)), old, same⟩
  · rw [withHalf_pool, withHalf_index, capacity, relinked.capacity, count]
    exact rep.buckets
  · have := perm.length_eq
    rw [withHalf_index, size, rep.size, this, List.length_cons, Nat.add_sub_cancel]

/-- The views of the sides after that removal. -/
theorem remove_sides (rep : Rep book slots free) (member : slot ∈ active slots)
    (sides : ∀ side, abstract.orders side = (slots side).map book.viewFor) {pool : OrderPool}
    (views : ∀ cell, cell ≠ slot → (pool.orders cell).view = book.viewFor cell) (side : Side) :
    (abstract.orders side).filter (·.id ≠ (book.pool.orders slot).id) =
      (Function.update slots (book.pool.orders slot).side
        ((slots (book.pool.orders slot).side).erase slot) side).map
        fun cell => (pool.orders cell).view := by
  have distinct : (slots side).Nodup := (rep.holds side).distinct
  have erased : (Function.update slots (book.pool.orders slot).side
      ((slots (book.pool.orders slot).side).erase slot) side) = (slots side).erase slot := by
    by_cases same : side = (book.pool.orders slot).side
    · subst same
      rw [Function.update_self]
    · have absent : slot ∉ slots side := fun listed => same (rep.sided side slot listed).symm
      rw [Function.update_of_ne same, List.erase_of_not_mem absent]
  rw [sides, erased, distinct.erase_eq_filter, List.filter_map]
  have kept : (slots side).filter ((fun order : OrderView => decide (order.id ≠
      (book.pool.orders slot).id)) ∘ book.viewFor) = (slots side).filter (· != slot) := by
    refine List.filter_congr fun cell listed => ?_
    have same : (book.viewFor cell).id = (book.pool.orders slot).id ↔ cell = slot :=
      ⟨fun same => rep.eq_of_id (mem_active_of_mem listed) member same, fun same => by rw [same]; rfl⟩
    by_cases here : cell = slot
    · simp [here, viewFor, Order.view]
    · simp [same, here]
  rw [kept]
  refine List.map_congr_left fun cell listed => (views cell ?_).symm
  simpa using (List.mem_filter.mp listed).2

theorem removeActiveOrder_eq (atSide : (book.pool.orders slot).side = side) :
    book.removeActiveOrder slot =
      (book.viewFor slot,
        { book with pool := ((book.half side).remove book.pool slot).2.release slot }.withHalf
          ((book.half side).remove book.pool slot).1) := by
  cases side <;> simp only [removeActiveOrder, atSide, half, withHalf]

/-- `erase` answers and changes the book as the abstract one does. -/
theorem erase_represents (represents : book.Represents abstract) (id : OrderId) :
    (book.erase id).1 = (abstract.erase id).1 ∧
      (book.erase id).2.Represents (abstract.erase id).2 := by
  obtain ⟨slots, free, rep, config, sides⟩ := represents
  have self : book.Represents abstract := ⟨slots, free, rep, config, sides⟩
  rw [erase, PriceTimeBook.erase]
  by_cases known : ∃ slot, book.index.Maps id slot
  · obtain ⟨slot, maps⟩ := known
    obtain ⟨member, same⟩ := (rep.maps _ _).mp maps
    obtain ⟨found, wellFormed, count, size, maps'⟩ :=
      OrderIdIndex.eraseAndGet_maps rep.wellFormed maps
    have valid := rep.valid member
    cases erased : book.index.eraseAndGet id with
    | mk slot' index =>
      simp only [erased] at found wellFormed count size maps'
      subst found same
      have removed := rep_remove rep member wellFormed count size maps'
      have relinked := SideBook.remove_relinked_listed (rep.holds _) (rep.mem_active.mp member)
      have views (cell : OrderIndex) (apart : cell ≠ slot') :
          ((((book.half (book.pool.orders slot').side).remove book.pool slot').2.release
            slot').orders cell).view = book.viewFor cell := by
        rw [release_orders_ne apart, relinked.view]
        rfl
      have result := @removeActiveOrder_eq { book with index } slot' _ rfl
      simp only [valid, rep.find_eq_some sides maps, ↓reduceIte, result]
      refine ⟨rfl, _, _, removed, ?_, fun side => ?_⟩
      · rw [withHalf_config]
        exact config
      · rw [viewFor_withHalf]
        exact remove_sides rep member sides views side
  · have absent : ∀ slot, ¬ book.index.Maps id slot := fun slot maps => known ⟨slot, maps⟩
    have missed := OrderIdIndex.eraseAndGet_absent rep.wellFormed absent
    simp [missed, rep.find_eq_none sides absent, self]

/-! ### Changing a remaining quantity -/

theorem setRemaining_eq (atSide : (book.pool.orders slot).side = side) {newRemaining : Quantity}
    (positive : newRemaining ≠ 0) (found : book.index.find id = slot)
    (valid : slot ≠ invalidOrderIndex) :
    book.setRemaining id newRemaining =
      ({ status := .ok, previousRemaining := (book.pool.orders slot).remaining },
        { book with pool := book.pool.setRemaining slot newRemaining }.withHalf
          ((book.half side).setRemaining book.pool slot newRemaining).1) := by
  subst found
  cases side <;> simp only [setRemaining, positive, valid, atSide, half, withHalf, ↓reduceIte] <;> rfl

/-- The state after a quantity has changed in place. -/
theorem rep_setRemaining (rep : Rep book slots free) (member : slot ∈ slots side)
    {newRemaining : Quantity} (positive : newRemaining ≠ 0) :
    Rep ({ book with pool := book.pool.setRemaining slot newRemaining }.withHalf
      ((book.half side).setRemaining book.pool slot newRemaining).1) slots free := by
  have data := SideBook.setRemaining_orders newRemaining book.pool slot
  have others (cell : OrderIndex) (apart : cell ≠ slot) :
      (book.pool.setRemaining slot newRemaining).orders cell = book.pool.orders cell :=
    set_orders_ne apart
  refine
    { holds := fun side' => ?_
      range := fun side' price => ?_
      sided := fun side' cell listed => by
        rw [withHalf_pool, data]
        exact rep.sided side' cell listed
      positive := fun side' cell listed => ?_
      freeList := ?_
      partition := by rw [withHalf_pool]; exact rep.partition
      capacity := by rw [withHalf_pool, withHalf_config]; exact rep.capacity
      wellFormed := by rw [withHalf_index]; exact rep.wellFormed
      maps := fun id cell => by
        rw [withHalf_index, withHalf_pool, data]
        exact rep.maps id cell
      buckets := by rw [withHalf_pool, withHalf_index]; exact rep.buckets
      size := by rw [withHalf_index]; exact rep.size }
  · rw [withHalf_pool]
    by_cases same : side' = side
    · subst same
      rw [half_withHalf]
      exact SideBook.setRemaining_holds newRemaining (rep.holds side') member
    · rw [half_withHalf_ne _ _ same]
      refine (rep.holds side').congr fun cell listed => others cell ?_
      rintro rfl
      exact same ((rep.sided side' cell listed).symm.trans (rep.sided side cell member))
  · rw [withHalf_config]
    by_cases same : side' = side
    · subst same
      rw [half_withHalf]
      exact rep.range side' price
    · rw [half_withHalf_ne _ _ same]
      exact rep.range side' price
  · rw [withHalf_pool, data]
    by_cases here : cell = slot
    · simpa [here] using positive
    · simpa [here] using rep.positive side' cell listed
  · rw [withHalf_pool]
    refine rep.freeList.congr rfl rfl rfl (fun cell _ => ?_) (fun cell => by rw [data])
    rw [next, data, next]

/-- So does a change of a quantity, which keeps the order's turn and is refused for zero. -/
theorem setRemaining_represents (represents : book.Represents abstract) (id : OrderId)
    (newRemaining : Quantity) :
    (book.setRemaining id newRemaining).1 = (abstract.setRemaining id newRemaining).1 ∧
      (book.setRemaining id newRemaining).2.Represents
        (abstract.setRemaining id newRemaining).2 := by
  obtain ⟨slots, free, rep, config, sides⟩ := represents
  have self : book.Represents abstract := ⟨slots, free, rep, config, sides⟩
  by_cases zero : newRemaining = 0
  · simp [setRemaining, PriceTimeBook.setRemaining, zero, self]
  by_cases known : ∃ slot, book.index.Maps id slot
  · obtain ⟨slot, maps⟩ := known
    obtain ⟨member, same⟩ := (rep.maps _ _).mp maps
    have found := OrderIdIndex.find_maps rep.wellFormed maps
    rw [setRemaining_eq rfl zero found (rep.valid member), PriceTimeBook.setRemaining]
    simp only [zero, rep.find_eq_some sides maps, ↓reduceDIte]
    refine ⟨rfl, _, _, rep_setRemaining rep (rep.mem_active.mp member) zero, ?_, fun side => ?_⟩
    · rw [withHalf_config]
      exact config
    · have views : (abstract.update id newRemaining zero).orders side =
          ((slots side).map book.viewFor).map (PriceTimeBook.withRemaining id newRemaining) := by
        rw [← sides]
        rfl
      rw [views, List.map_map, viewFor_withHalf]
      refine List.map_congr_left fun cell listed => ?_
      have cellId : (book.pool.orders cell).view.id = id ↔ cell = slot := by
        constructor
        · exact fun held => rep.eq_of_id (mem_active_of_mem listed) member (held.trans same.symm)
        · rintro rfl
          exact same
      rw [Function.comp_apply, PriceTimeBook.withRemaining, viewFor, viewFor,
        SideBook.setRemaining_orders]
      by_cases here : cell = slot
      · rw [if_pos (cellId.mpr here), if_pos here]
        rfl
      · rw [if_neg (mt cellId.mp here), if_neg here]
  · have absent : ∀ slot, ¬ book.index.Maps id slot := fun slot maps => known ⟨slot, maps⟩
    have missed := OrderIdIndex.find_absent rep.wellFormed absent
    simp [setRemaining, PriceTimeBook.setRemaining, zero, missed, rep.find_eq_none sides absent, self]

/-! ### Starting and clearing -/

/-- Clearing any book of the right shape leaves the empty book, whatever the slots and buckets
have held. -/
theorem rep_clear (small : book.pool.capacity ≤ maxCapacity)
    (shaped : ∀ side, (book.half side).Shaped)
    (range : ∀ side price, (book.half side).containsPrice price = book.config.contains price)
    (capacity : book.pool.capacity = book.config.maxOrders)
    (power : ∃ e ≤ 64, book.index.bucketCount = 2 ^ e)
    (buckets : book.pool.capacity.toNat < book.index.bucketCount) :
    Rep book.clear (fun _ => []) (allSlots book.pool.capacity) where
  holds side := by
    have cleared : book.clear.half side = (book.half side).clear := by cases side <;> rfl
    rw [cleared]
    exact SideBook.clear_holds (shaped side) _
  range side price := by
    have cleared : book.clear.half side = (book.half side).clear := by cases side <;> rfl
    rw [cleared]
    exact range side price
  sided := by simp
  positive := by simp
  freeList := freeList_initialize small
  partition := by simp [active, clear, OrderPool.clear, initializeFreelist]
  capacity := capacity
  wellFormed := OrderIdIndex.wellFormed_clear power
  maps id slot := by
    have none : ¬ book.clear.index.Maps id slot := OrderIdIndex.not_maps_clear
    simp [none, active]
  buckets := buckets
  size := rfl

theorem clear_represents (represents : book.Represents abstract) :
    book.clear.Represents abstract.clear := by
  obtain ⟨slots, free, rep, config, -⟩ := represents
  exact ⟨_, _, rep_clear rep.freeList.small (fun side => (rep.holds side).shaped) rep.range
    rep.capacity rep.wellFormed.power rep.buckets, config, fun _ => rfl⟩

/-- Construction succeeds within the slot limit and starts empty. -/
theorem create_represents (config : OrderBookConfig) (small : config.maxOrders ≤ maxCapacity) :
    ∃ book, create config = some book ∧ book.Represents (PriceTimeBook.empty config) := by
  have fits : ¬ config.maxOrders > maxCapacity := by
    rw [gt_iff_lt, UInt32.not_lt]
    exact small
  obtain ⟨power, buckets⟩ := OrderIdIndex.bucketCountFor_spec config.maxOrders
  -- construction is clearing applied to freshly sized parts
  let sized : OrderBook :=
    { config
      pool := { orders := fun _ => {}, capacity := config.maxOrders, freeHead := 0, freeCount := 0 }
      index := .create config.maxOrders
      bids := .create .bid config.minPriceTick config.maxPriceTick
      asks := .create .ask config.minPriceTick config.maxPriceTick }
  refine ⟨sized.clear, ?_, _, _, rep_clear small ?_ ?_ rfl power buckets, rfl, fun _ => rfl⟩
  · simp only [create, OrderPool.create, fits, ↓reduceIte, Option.map_some]
    rfl
  · intro side
    cases side <;> exact SideBook.shaped_create _ _
  · intro side price
    cases side <;> rfl

end Fexma.OrderBook
