import Fexma.OrderBook.SideBook

/-! The three mutations of a side book keep what it holds: `append` inserts a
slot behind its equals, `remove` takes one out, `set_remaining` moves none. -/
namespace Fexma.SideBook

open LinkedQueue StableOrder WordBitmap

variable {side : Side} {book : SideBook side} {pool pool' : OrderPool}
variable {slots queue : List OrderIndex} {slot : OrderIndex} {price price' : PriceTick}
variable {segment offset : ℕ}

/-! ### Appending -/

/-- The cached best segment after an insertion into `segment`. -/
def insertedBest (side : Side) (best segment : ℕ) : ℕ :=
  if best = invalidSegment then segment
  else if side = .ask then (if segment < best then segment else best)
  else if segment > best then segment else best

theorem updateBestAfterInsert_eq : book.updateBestAfterInsert segment =
    { book with bestSegment := insertedBest side book.bestSegment segment } := by
  unfold insertedBest updateBestAfterInsert
  split_ifs <;> rfl

/-- The level that `append` writes. -/
def appendedLevel (level : PriceLevel) (slot : OrderIndex) (remaining : Quantity) : PriceLevel where
  head := if level.tail = invalidOrderIndex then slot else level.head
  tail := slot
  totalQuantity := level.totalQuantity + remaining.toUInt64
  orderCount := level.orderCount + 1

/-- The book after `append`, field by field. -/
theorem append_book (book : SideBook side) (pool : OrderPool) (slot : OrderIndex) :
    (book.append pool slot).1 =
      let order := pool.orders slot
      let segment := book.localSegment order.price
      let level := book.level order.price
      { book with
        segments := Function.update book.segments segment
          { levels := Function.update (book.segments segment).levels (priceOffset order.price)
              (appendedLevel level slot order.remaining)
            activeMask :=
              if level.tail = invalidOrderIndex then
                setBit (book.segments segment).activeMask (priceOffset order.price)
              else (book.segments segment).activeMask }
        segmentOccupancy :=
          if (book.segments segment).empty then (book.setSegmentOccupied segment).segmentOccupancy
          else book.segmentOccupancy
        bestSegment := insertedBest side book.bestSegment segment
        orderCount := book.orderCount + 1
        totalQuantity := book.totalQuantity + order.remaining.toUInt64 } := by
  by_cases last : (book.level (pool.orders slot).price).tail = invalidOrderIndex <;>
    by_cases empty : (book.segments (book.localSegment (pool.orders slot).price)).empty <;>
    simp_all [append, updateBestAfterInsert_eq, level, appendedLevel, setSegmentOccupied, writeLevel]

@[simp] theorem append_containsPrice (book : SideBook side) (pool : OrderPool) (slot : OrderIndex)
    (price : PriceTick) :
    (book.append pool slot).1.containsPrice price = book.containsPrice price := by
  rw [append_book]
  rfl

theorem append_pool (book : SideBook side) (pool : OrderPool) (slot : OrderIndex) :
    (book.append pool slot).2 = link pool slot (book.level (pool.orders slot).price).tail := rfl

theorem LevelHolds.tail_mem {level : PriceLevel} (holds : LevelHolds pool level queue)
    (present : level.tail ≠ invalidOrderIndex) : level.tail ∈ queue := by
  refine segment_last_mem holds.linked ?_
  rintro rfl
  exact present holds.linked.2

/-- Writing one level changes no other level in range, since prices have coordinates of their
own. -/
theorem level_update (shaped : Shaped book) (inside : book.containsPrice price)
    (inside' : book.containsPrice price') (written : PriceLevel) (mask : BitVec 64) :
    (Function.update book.segments (book.localSegment price)
        { levels := Function.update (book.segments (book.localSegment price)).levels
            (priceOffset price) written
          activeMask := mask }
        (book.localSegment price')).levels (priceOffset price') =
      if price' = price then written else book.level price' := by
  by_cases same : price' = price
  · subst same
    simp
  · simp only [same, ↓reduceIte, level]
    by_cases segments : book.localSegment price' = book.localSegment price
    · have offsets : priceOffset price' ≠ priceOffset price := fun offsets =>
        same (coordinates_inj shaped inside' inside segments offsets)
      simp [segments, offsets]
    · simp [segments]

theorem level_update_unused (written : PriceLevel) (mask : BitVec 64)
    (apart : ¬ (book.localSegment price = segment ∧ priceOffset price = offset)) :
    (Function.update book.segments (book.localSegment price)
        { levels := Function.update (book.segments (book.localSegment price)).levels
            (priceOffset price) written
          activeMask := mask } segment).levels offset = (book.segments segment).levels offset := by
  by_cases here : segment = book.localSegment price
  · subst here
    have other : offset ≠ priceOffset price := fun same => apart ⟨rfl, same.symm⟩
    simp [other]
  · simp [here]

theorem priority_relinked {cells : List OrderIndex} (relinked : OrderPool.Relinked pool pool' cells) :
    priority side pool' = priority side pool := funext fun slot => by
  rw [priority, relinked.price, priority]

theorem aggregate_relinked {cells : List OrderIndex} (relinked : OrderPool.Relinked pool pool' cells) :
    aggregate pool' = aggregate pool := funext fun slots => by
  simp only [aggregate, relinked.remaining]

/-- Inserting into a segment keeps the cached segment extreme: it moves there if that is better
and stays otherwise. -/
theorem insertedBest_spec (segment : ℕ) {best : ℕ} {occupied : ℕ → Prop}
    (bound : best ≠ invalidSegment → occupied best ∧ ∀ s, occupied s → NotWorse side best s)
    (none : best = invalidSegment → ∀ s, ¬ occupied s) :
    (insertedBest side best segment = segment ∨ occupied (insertedBest side best segment)) ∧
      NotWorse side (insertedBest side best segment) segment ∧
      ∀ s, occupied s → NotWorse side (insertedBest side best segment) s := by
  unfold insertedBest
  by_cases invalid : best = invalidSegment
  · rw [if_pos invalid]
    refine ⟨.inl rfl, ?_, fun s present => absurd present (none invalid s)⟩
    cases side <;> exact le_rfl
  · rw [if_neg invalid]
    obtain ⟨present, extreme⟩ := bound invalid
    cases side <;> simp only [reduceCtorEq, ↓reduceIte, NotWorse] at * <;> split
    all_goals
      refine ⟨by simp [present], by omega, fun s occ => ?_⟩
      have := extreme s occ
      omega

/-- A segment mask is empty exactly when no slot lies in the segment. -/
theorem Holds.segment_empty_iff (holds : Holds book pool slots) :
    (book.segments segment).activeMask = 0 ↔ ¬ book.Occupied pool slots segment := by
  rw [← not_iff_not, not_not, ← Ne, ne_zero_iff]
  constructor
  · rintro ⟨offset, bound, set⟩
    obtain ⟨slot, member, atSegment, -⟩ := (holds.mask _ _ bound).mp set
    exact ⟨slot, member, atSegment⟩
  · rintro ⟨slot, member, atSegment⟩
    exact ⟨_, priceOffset_lt, (holds.mask _ _ priceOffset_lt).mpr ⟨slot, member, atSegment, rfl⟩⟩

/-- The cached segment is occupied and extreme, unless the side is empty. -/
theorem Holds.best_occupied (holds : Holds book pool slots)
    (valid : book.bestSegment ≠ invalidSegment) : book.Occupied pool slots book.bestSegment ∧
      ∀ segment, book.Occupied pool slots segment → NotWorse side book.bestSegment segment :=
  holds.best.resolve_left fun empty => valid empty.2

theorem Holds.best_invalid (holds : Holds book pool slots)
    (invalid : book.bestSegment = invalidSegment) (segment : ℕ) :
    ¬ book.Occupied pool slots segment := by
  rintro ⟨slot, member, -⟩
  obtain ⟨rfl, -⟩ | ⟨⟨best, listed, atBest⟩, -⟩ := holds.best
  · simp at member
  · have := localSegment_lt holds.shaped (holds.inside best listed)
    have := segmentCount_lt holds.shaped
    omega

section Append
variable (holds : Holds book pool slots) (fresh : slot ∉ slots)
include holds

omit holds in
/-- Only the slot and the tail of its level are relinked. -/
theorem append_relinked (book : SideBook side) (pool : OrderPool) (slot : OrderIndex) : OrderPool.Relinked pool (book.append pool slot).2
    (if (book.level (pool.orders slot).price).tail = invalidOrderIndex then [slot]
      else [slot, (book.level (pool.orders slot).price).tail]) := by
  rw [append_pool, link]
  by_cases last : (book.level (pool.orders slot).price).tail = invalidOrderIndex
  · simp only [last, ne_eq, not_true_eq_false, ↓reduceIte]
    exact (OrderPool.relinked_setPrev (by simp)).trans (OrderPool.relinked_setNext (by simp))
  · simp only [last, ne_eq, not_false_eq_true, ↓reduceIte]
    exact ((OrderPool.relinked_setPrev (by simp)).trans (OrderPool.relinked_setNext (by simp))).trans
      (OrderPool.relinked_setNext (by simp))

/-- The slots that `append` relinks are listed or the new one. -/
theorem append_relinked_listed (inside : book.containsPrice (pool.orders slot).price) :
    OrderPool.Relinked pool (book.append pool slot).2 (slot :: slots) := by
  refine (append_relinked book pool slot).mono ?_
  split
  · simp
  · rename_i present
    have := (mem_group.mp ((holds.levels _ inside).tail_mem present)).1
    simp [this]

include fresh in
/-- The level of the appended slot ends with it. -/
theorem appendedLevel_holds (inside : book.containsPrice (pool.orders slot).price) :
    LevelHolds (book.append pool slot).2
      (appendedLevel (book.level (pool.orders slot).price) slot (pool.orders slot).remaining)
      (group (priority side pool) (rank side (pool.orders slot).price) slots ++ [slot]) := by
  have level := holds.levels _ inside
  have relinked := append_relinked book pool slot
  refine ⟨?_, ?_, ?_⟩
  · have linked := segment_push_back (fun member => fresh (mem_group.mp member).1)
      (holds.distinct.filter _) (fun member => holds.valid (mem_group.mp member).1) level.linked
    rw [append_pool]
    by_cases last : (book.level (pool.orders slot).price).tail = invalidOrderIndex
    · simpa [last, appendedLevel, link] using linked
    · simpa [last, appendedLevel, link] using linked
  · simp [appendedLevel, level.count, UInt32.ofNat_add]
  · rw [aggregate_relinked relinked]
    simp [appendedLevel, level.quantity, aggregate, UInt64.ofNat_add]

theorem append_level (inside : book.containsPrice (pool.orders slot).price)
    (inside' : book.containsPrice price) :
    (book.append pool slot).1.level price =
      if price = (pool.orders slot).price then
        appendedLevel (book.level (pool.orders slot).price) slot (pool.orders slot).remaining
      else book.level price := by
  rw [append_book]
  exact level_update holds.shaped inside inside' _ _

/-- The bit of the slot's price is set, by this insertion or before. -/
theorem append_mask (inside : book.containsPrice (pool.orders slot).price) (bound : offset < 64) :
    ((book.append pool slot).1.segments segment).activeMask.getLsbD offset = true ↔
      (book.localSegment (pool.orders slot).price = segment ∧
        priceOffset (pool.orders slot).price = offset) ∨
      (book.segments segment).activeMask.getLsbD offset = true := by
  rw [append_book]
  by_cases here : segment = book.localSegment (pool.orders slot).price
  · subst here
    simp only [Function.update_self]
    have level := holds.levels _ inside
    split
    · rw [getLsbD_setBit bound, Bool.or_eq_true, decide_eq_true_eq]
      tauto
    · rename_i present
      have set : (book.segments (book.localSegment (pool.orders slot).price)).activeMask.getLsbD
          (priceOffset (pool.orders slot).price) = true := by
        obtain ⟨member, same⟩ := mem_group.mp (level.tail_mem present)
        have prices := rank_injective side same
        exact (holds.mask _ _ priceOffset_lt).mpr ⟨_, member, by rw [prices], by rw [prices]⟩
      constructor
      · exact .inr
      · rintro (⟨-, rfl⟩ | old)
        · exact set
        · exact old
  · simp [here, Ne.symm here]

theorem append_occupancy :
    bitAt (book.append pool slot).1.segmentOccupancy segment = true ↔
      book.localSegment (pool.orders slot).price = segment ∨ book.Occupied pool slots segment := by
  rw [append_book]
  by_cases empty : (book.segments (book.localSegment (pool.orders slot).price)).activeMask = 0
  · simp only [PriceSegment.empty, empty, beq_self_eq_true, ↓reduceIte, setSegmentOccupied,
      bitAt_setBit, Bool.or_eq_true, decide_eq_true_eq, holds.occupancy]
    tauto
  · have occupied := not_not.mp (mt holds.segment_empty_iff.mpr empty)
    simp only [PriceSegment.empty, beq_iff_eq, empty, ↓reduceIte, holds.occupancy]
    constructor
    · exact .inr
    · rintro (rfl | old)
      · exact occupied
      · exact old

include fresh in
/-- Appending puts the slot behind all slots of its own or a better price. Its level, both
bitmaps and the cached segment follow, and every other level stays as it was. -/
theorem append_holds (valid : slot ≠ invalidOrderIndex)
    (inside : book.containsPrice (pool.orders slot).price) :
    Holds (book.append pool slot).1 (book.append pool slot).2
      (insertLast (priority side pool) slot slots) := by
  have relinked := append_relinked book pool slot
  have keys : priority side (book.append pool slot).2 = priority side pool :=
    priority_relinked relinked
  have segments (price : PriceTick) :
      (book.append pool slot).1.localSegment price = book.localSegment price := by
    rw [append_book]; rfl
  have occupied (segment : ℕ) : (book.append pool slot).1.Occupied (book.append pool slot).2
      (insertLast (priority side pool) slot slots) segment ↔
      book.localSegment (pool.orders slot).price = segment ∨ book.Occupied pool slots segment := by
    simp [Occupied, relinked.price, segments, or_and_right, exists_or]
  refine
    { shaped := by rw [append_book]; exact ⟨holds.shaped.base, holds.shaped.count, holds.shaped.words⟩
      valid := by simp [valid.symm, holds.valid]
      distinct := insertLast_perm.nodup_iff.mpr (List.nodup_cons.mpr ⟨fresh, holds.distinct⟩)
      ordered := by rw [keys]; exact ordered_insertLast holds.ordered
      inside := fun other member => ?_
      levels := fun price' inside' => ?_
      unused := fun segment offset none => ?_
      mask := fun segment offset bound => ?_
      occupancy := fun segment => (append_occupancy holds).trans (occupied segment).symm
      best := .inr ?_
      count := by rw [append_book]; simp [holds.count, UInt32.ofNat_add]
      quantity := ?_ }
  · rw [append_containsPrice, relinked.price]
    rcases mem_insertLast.mp member with rfl | member
    · exact inside
    · exact holds.inside other member
  · rw [append_containsPrice] at inside'
    rw [append_level holds inside inside', keys, group_insertLast holds.ordered]
    by_cases same : price' = (pool.orders slot).price
    · subst same
      simpa [priority] using appendedLevel_holds holds fresh inside
    · have other : priority side pool slot ≠ rank side price' := fun equal =>
        same (rank_injective side equal.symm)
      simp only [same, other, ↓reduceIte]
      have untouched : ∀ cell ∈ group (priority side pool) (rank side price') slots,
          (book.append pool slot).2.orders cell = pool.orders cell := by
        intro cell member
        obtain ⟨listed, atPrice⟩ := mem_group.mp member
        refine relinked.frame cell ?_
        have notSlot : cell ≠ slot := by rintro rfl; exact fresh listed
        split
        · simp [notSlot]
        · rename_i present
          have notTail : cell ≠ (book.level (pool.orders slot).price).tail := by
            rintro rfl
            have := (mem_group.mp ((holds.levels _ inside).tail_mem present)).2
            exact other (this.symm.trans atPrice)
          simp [notSlot, notTail]
      refine (holds.levels price' inside').congr ?_ ?_ ?_
      all_goals
        intro cell member
        simp only [OrderPool.prev, OrderPool.next, untouched cell member]
  · simp only [append_containsPrice, segments] at none
    rw [append_book]
    simp only [level_update_unused _ _ (none _ inside)]
    exact holds.unused segment offset none
  · rw [append_mask holds inside bound, holds.mask _ _ bound]
    simp [relinked.price, segments, or_and_right, exists_or]
  · have best := insertedBest_spec (book.localSegment (pool.orders slot).price)
      holds.best_occupied holds.best_invalid
    have cached : (book.append pool slot).1.bestSegment =
        insertedBest side book.bestSegment (book.localSegment (pool.orders slot).price) := by
      rw [append_book]
    rw [cached]
    simp only [occupied]
    refine ⟨best.1.imp Eq.symm id, fun segment present => ?_⟩
    rcases present with rfl | present
    · exact best.2.1
    · exact best.2.2 segment present
  · have sum : aggregate pool (insertLast (priority side pool) slot slots) =
        (pool.orders slot).remaining.toNat + aggregate pool slots :=
      (insertLast_perm.map _).sum_eq
    rw [aggregate_relinked relinked, append_book, sum]
    simp [holds.quantity, UInt64.ofNat_add, UInt64.add_comm]

end Append

/-! ### Removing -/

/-- The level that `remove` writes. -/
def removedLevel (level : PriceLevel) (order : Order) : PriceLevel where
  head := if order.prev = invalidOrderIndex then order.next else level.head
  tail := if order.next = invalidOrderIndex then order.prev else level.tail
  totalQuantity := level.totalQuantity - order.remaining.toUInt64
  orderCount := level.orderCount - 1

/-- The segment mask that `remove` writes. -/
def removedMask (mask : BitVec 64) (level : PriceLevel) (offset : ℕ) : BitVec 64 :=
  if level.orderCount = 0 then clearBit mask offset else mask

/-- The removal empties the level and with it the segment. -/
def Emptied (mask : BitVec 64) (level : PriceLevel) (offset : ℕ) : Prop :=
  level.orderCount = 0 ∧ clearBit mask offset = 0

instance {mask : BitVec 64} {level : PriceLevel} : Decidable (Emptied mask level offset) :=
  inferInstanceAs (Decidable (_ ∧ _))

/-- The segment that `recompute_best` caches. -/
def recomputedBest (side : Side) (occupancy : ℕ → BitVec 64) (words : ℕ) : ℕ :=
  if side = .ask then (firstSet occupancy words).getD invalidSegment
  else (lastSet occupancy words).getD invalidSegment

/-- The book after `remove`, field by field. -/
theorem remove_book (book : SideBook side) (pool : OrderPool) (slot : OrderIndex) :
    (book.remove pool slot).1 =
      let order := pool.orders slot
      let segment := book.localSegment order.price
      let offset := priceOffset order.price
      let mask := (book.segments segment).activeMask
      let level := removedLevel (book.level order.price) order
      let occupancy :=
        if Emptied mask level offset then (book.clearSegmentOccupied segment).segmentOccupancy
        else book.segmentOccupancy
      { book with
        segments := Function.update book.segments segment
          { levels := Function.update (book.segments segment).levels offset level
            activeMask := removedMask mask level offset }
        segmentOccupancy := occupancy
        bestSegment :=
          if Emptied mask level offset ∧ segment = book.bestSegment then
            recomputedBest side occupancy book.segmentOccupancyWordCount
          else book.bestSegment
        orderCount := book.orderCount - 1
        totalQuantity := book.totalQuantity - order.remaining.toUInt64 } := by
  by_cases last : (book.level (pool.orders slot).price).orderCount - 1 = 0 <;>
    by_cases empty : clearBit
      (book.segments (book.localSegment (pool.orders slot).price)).activeMask
      (priceOffset (pool.orders slot).price) = 0 <;>
    by_cases best : book.localSegment (pool.orders slot).price = book.bestSegment <;>
    simp_all [remove, level, removedLevel, removedMask, Emptied, clearSegmentOccupied, writeLevel,
      recomputeBest, recomputedBest, firstOccupiedSegment, lastOccupiedSegment]

/-- The recomputed segment is occupied and extreme, unless no bit is set. The scan goes over all
words of the bitmap. -/
theorem recomputedBest_spec (side : Side) {occupancy : ℕ → BitVec 64} {words : ℕ}
    (bounded : ∀ s, bitAt occupancy s = true → s < words * 64) :
    (recomputedBest side occupancy words = invalidSegment ∧ ∀ s, bitAt occupancy s = false) ∨
      (bitAt occupancy (recomputedBest side occupancy words) = true ∧
        ∀ s, bitAt occupancy s = true → NotWorse side (recomputedBest side occupancy words) s) := by
  have clear (missed : ∀ s < words * 64, bitAt occupancy s = false) (s : ℕ) :
      bitAt occupancy s = false := by
    by_contra set
    have set : bitAt occupancy s = true := by simpa using set
    rw [missed s (bounded s set)] at set
    cases set
  unfold recomputedBest
  cases side with
  | ask =>
    simp only [↓reduceIte, NotWorse]
    cases found : firstSet occupancy words with
    | none => exact .inl ⟨rfl, clear fun s below => firstSet_none found below⟩
    | some best =>
      obtain ⟨-, set, least⟩ := firstSet_some found
      exact .inr ⟨set, least⟩
  | bid =>
    simp only [reduceCtorEq, ↓reduceIte, NotWorse]
    cases found : lastSet occupancy words with
    | none => exact .inl ⟨rfl, clear fun s below => lastSet_none found below⟩
    | some best =>
      obtain ⟨-, set, greatest⟩ := lastSet_some found
      exact .inr ⟨set, fun s present => greatest s (bounded s present) present⟩

@[simp] theorem remove_containsPrice (book : SideBook side) (pool : OrderPool) (slot : OrderIndex)
    (price : PriceTick) :
    (book.remove pool slot).1.containsPrice price = book.containsPrice price := by
  rw [remove_book]
  rfl

theorem remove_pool (book : SideBook side) (pool : OrderPool) (slot : OrderIndex) :
    (book.remove pool slot).2 = unlink pool slot := rfl

theorem aggregate_erase (member : slot ∈ queue) :
    UInt64.ofNat (aggregate pool queue) - (pool.orders slot).remaining.toUInt64 =
      UInt64.ofNat (aggregate pool (queue.erase slot)) := by
  have sum : aggregate pool queue =
      (pool.orders slot).remaining.toNat + aggregate pool (queue.erase slot) :=
    ((List.perm_cons_erase member).map _).sum_eq
  rw [sum, UInt64.ofNat_add, UInt64.add_comm, UInt64.ofNat_uInt32ToNat, UInt64.add_sub_cancel]

section Remove
variable (holds : Holds book pool slots) (member : slot ∈ slots)

/-- Only the slot and its neighbours in the FIFO are relinked. -/
theorem unlink_relinked (pool : OrderPool) (slot : OrderIndex) :
    OrderPool.Relinked pool (unlink pool slot)
      (slot :: [(pool.orders slot).prev, (pool.orders slot).next].filter (· ≠ invalidOrderIndex)) := by
  have last {pool : OrderPool} {cells : List OrderIndex} : OrderPool.Relinked pool
      ((pool.setPrev slot invalidOrderIndex).setNext slot invalidOrderIndex) (slot :: cells) :=
    (OrderPool.relinked_setPrev (by simp)).trans (OrderPool.relinked_setNext (by simp))
  rw [unlink]
  by_cases noPrev : (pool.orders slot).prev = invalidOrderIndex <;>
    by_cases noNext : (pool.orders slot).next = invalidOrderIndex <;>
    simp only [noPrev, noNext, ne_eq, not_true_eq_false, not_false_eq_true, ↓reduceIte] <;>
    refine OrderPool.Relinked.trans ?_ last
  · exact .refl _ _
  · exact OrderPool.relinked_setPrev (by simp [noNext])
  · exact OrderPool.relinked_setNext (by simp [noPrev])
  · exact (OrderPool.relinked_setNext (by simp [noPrev])).trans
      (OrderPool.relinked_setPrev (by simp [noNext]))

theorem unlink_prev (pool : OrderPool) (slot : OrderIndex) : (unlink pool slot).prev =
    Function.update (if pool.next slot = invalidOrderIndex then pool.prev
      else Function.update pool.prev (pool.next slot) (pool.prev slot)) slot invalidOrderIndex := by
  have prev : (pool.orders slot).prev = pool.prev slot := rfl
  have next : (pool.orders slot).next = pool.next slot := rfl
  by_cases noPrev : pool.prev slot = invalidOrderIndex <;>
    by_cases noNext : pool.next slot = invalidOrderIndex <;> simp [unlink, prev, next, noPrev, noNext]

theorem unlink_next (pool : OrderPool) (slot : OrderIndex) : (unlink pool slot).next =
    Function.update (if pool.prev slot = invalidOrderIndex then pool.next
      else Function.update pool.next (pool.prev slot) (pool.next slot)) slot invalidOrderIndex := by
  have prev : (pool.orders slot).prev = pool.prev slot := rfl
  have next : (pool.orders slot).next = pool.next slot := rfl
  by_cases noPrev : pool.prev slot = invalidOrderIndex <;>
    by_cases noNext : pool.next slot = invalidOrderIndex <;> simp [unlink, prev, next, noPrev, noNext]

include holds member

/-- The count of the removed slot's level falls to zero with its last order. -/
theorem removedLevel_count :
    (removedLevel (book.level (pool.orders slot).price) (pool.orders slot)).orderCount =
      UInt32.ofNat ((group (priority side pool) (rank side (pool.orders slot).price) slots).erase
        slot).length := by
  have level := holds.levels _ (holds.inside slot member)
  have inGroup : slot ∈ group (priority side pool) (rank side (pool.orders slot).price) slots :=
    mem_group.mpr ⟨member, rfl⟩
  have positive := List.length_pos_of_mem inGroup
  rw [List.length_erase_of_mem inGroup]
  simp only [removedLevel, level.count]
  generalize (group (priority side pool) (rank side (pool.orders slot).price) slots).length = n at *
  obtain ⟨n, rfl⟩ := Nat.exists_eq_succ_of_ne_zero (by omega : n ≠ 0)
  simp [UInt32.ofNat_add]

theorem removedLevel_count_eq_zero :
    (removedLevel (book.level (pool.orders slot).price) (pool.orders slot)).orderCount = 0 ↔
      ∀ cell ∈ slots.erase slot, (pool.orders cell).price ≠ (pool.orders slot).price := by
  rw [removedLevel_count holds member]
  have fits : ((group (priority side pool) (rank side (pool.orders slot).price) slots).erase
      slot).length < 2 ^ 32 := by
    have := length_lt holds.distinct holds.valid
    have := List.length_filter_le (fun cell => decide (priority side pool cell =
      rank side (pool.orders slot).price)) slots
    have := List.length_erase_le (a := slot)
      (l := group (priority side pool) (rank side (pool.orders slot).price) slots)
    simp only [group] at *
    omega
  have zero : UInt32.ofNat ((group (priority side pool) (rank side (pool.orders slot).price)
      slots).erase slot).length = 0 ↔
      (group (priority side pool) (rank side (pool.orders slot).price) slots).erase slot = [] := by
    rw [← UInt32.toNat_inj, UInt32.toNat_ofNat_of_lt' fits, ← List.length_eq_zero_iff]
    rfl
  have whole : group (priority side pool) (rank side (pool.orders slot).price) (slots.erase slot) =
      (group (priority side pool) (rank side (pool.orders slot).price) slots).erase slot :=
    (group_erase holds.distinct).trans (if_pos rfl)
  rw [zero, ← whole, group_eq_nil]
  exact forall₂_congr fun cell _ => (rank_injective side).ne_iff

theorem removedLevel_holds : LevelHolds (unlink pool slot)
    (removedLevel (book.level (pool.orders slot).price) (pool.orders slot))
    ((group (priority side pool) (rank side (pool.orders slot).price) slots).erase slot) := by
  have level := holds.levels _ (holds.inside slot member)
  have inGroup : slot ∈ group (priority side pool) (rank side (pool.orders slot).price) slots :=
    mem_group.mpr ⟨member, rfl⟩
  have distinct : (group (priority side pool) (rank side (pool.orders slot).price) slots).Nodup :=
    holds.distinct.filter _
  refine ⟨?_, removedLevel_count holds member, ?_⟩
  · have linked := segment_unlink inGroup distinct
      (fun listed => holds.valid (mem_group.mp listed).1) level.linked
    have gone : slot ∉ (group (priority side pool) (rank side (pool.orders slot).price)
        slots).erase slot := fun listed => (distinct.mem_erase_iff.mp listed).1 rfl
    refine (segment_congr (fun cell listed => ?_) (fun cell listed => ?_)).mpr linked
    all_goals have other : cell ≠ slot := by rintro rfl; exact gone listed
    · rw [unlink_prev, Function.update_of_ne other]
    · rw [unlink_next, Function.update_of_ne other]
  · rw [aggregate_relinked (unlink_relinked pool slot)]
    simp only [removedLevel, level.quantity]
    exact aggregate_erase inGroup

/-- The coordinates whose bit is set after the removal. -/
theorem remove_mask (segment : ℕ) (bound : offset < 64) :
    ((book.remove pool slot).1.segments segment).activeMask.getLsbD offset = true ↔
      ∃ cell ∈ slots.erase slot, book.localSegment (pool.orders cell).price = segment ∧
        priceOffset (pool.orders cell).price = offset := by
  have inside := holds.inside slot member
  have split : ((book.segments segment).activeMask.getLsbD offset = true) ↔
      (book.localSegment (pool.orders slot).price = segment ∧
        priceOffset (pool.orders slot).price = offset) ∨
      ∃ cell ∈ slots.erase slot, book.localSegment (pool.orders cell).price = segment ∧
        priceOffset (pool.orders cell).price = offset := by
    rw [holds.mask _ _ bound]
    simp only [(List.perm_cons_erase member).mem_iff, List.mem_cons, exists_eq_or_imp]
  have level := removedLevel_count_eq_zero holds member
  rw [remove_book]
  by_cases here : segment = book.localSegment (pool.orders slot).price
  · subst here
    simp only [Function.update_self, removedMask]
    by_cases last : (removedLevel (book.level (pool.orders slot).price)
        (pool.orders slot)).orderCount = 0
    · rw [if_pos last, getLsbD_clearBit bound, Bool.and_eq_true, split, decide_eq_true_eq]
      constructor
      · rintro ⟨⟨-, same⟩ | present, apart⟩
        · exact absurd same.symm apart
        · exact present
      · rintro ⟨cell, listed, segments, offsets⟩
        refine ⟨.inr ⟨cell, listed, segments, offsets⟩, fun same => level.mp last cell listed ?_⟩
        exact coordinates_inj holds.shaped (holds.inside cell (List.mem_of_mem_erase listed)) inside
          segments (offsets.trans same)
    · rw [if_neg last, split]
      constructor
      · rintro (⟨-, rfl⟩ | present)
        · obtain ⟨cell, listed, same⟩ : ∃ cell ∈ slots.erase slot,
              (pool.orders cell).price = (pool.orders slot).price := by
            simpa using mt level.mpr last
          exact ⟨cell, listed, by rw [same], by rw [same]⟩
        · exact present
      · exact .inr
  · simp only [Function.update_of_ne here, split, Ne.symm here, false_and, false_or]

/-- The removal empties the segment exactly when no other slot lies in it. This decides between
keeping the occupancy bit and clearing it. -/
theorem emptied_iff :
    Emptied (book.segments (book.localSegment (pool.orders slot).price)).activeMask
        (removedLevel (book.level (pool.orders slot).price) (pool.orders slot))
        (priceOffset (pool.orders slot).price) ↔
      ¬ book.Occupied pool (slots.erase slot) (book.localSegment (pool.orders slot).price) := by
  have after (offset : ℕ) (bound : offset < 64) :=
    remove_mask holds member (book.localSegment (pool.orders slot).price) bound
  rw [remove_book] at after
  simp only [Function.update_self, removedMask] at after
  by_cases last : (removedLevel (book.level (pool.orders slot).price)
      (pool.orders slot)).orderCount = 0
  · simp only [last, ↓reduceIte] at after
    rw [Emptied, and_iff_right last, ← not_iff_not, not_not, ← Ne, ne_zero_iff]
    constructor
    · rintro ⟨offset, bound, set⟩
      obtain ⟨cell, listed, segments, -⟩ := (after offset bound).mp set
      exact ⟨cell, listed, segments⟩
    · rintro ⟨cell, listed, segments⟩
      exact ⟨_, priceOffset_lt, (after _ priceOffset_lt).mpr ⟨cell, listed, segments, rfl⟩⟩
  · obtain ⟨cell, listed, same⟩ : ∃ cell ∈ slots.erase slot,
        (pool.orders cell).price = (pool.orders slot).price := by
      simpa using mt (removedLevel_count_eq_zero holds member).mpr last
    have occupied : book.Occupied pool (slots.erase slot)
        (book.localSegment (pool.orders slot).price) := ⟨cell, listed, by rw [same]⟩
    simp [Emptied, last, occupied]

omit holds in
theorem remove_occupied (apart : segment ≠ book.localSegment (pool.orders slot).price) :
    book.Occupied pool (slots.erase slot) segment ↔ book.Occupied pool slots segment := by
  constructor
  · rintro ⟨cell, listed, segments⟩
    exact ⟨cell, List.mem_of_mem_erase listed, segments⟩
  · rintro ⟨cell, listed, segments⟩
    have other : cell ≠ slot := by rintro rfl; exact apart segments.symm
    exact ⟨cell, (List.mem_erase_of_ne other).mpr listed, segments⟩

theorem remove_occupancy (segment : ℕ) :
    bitAt (book.remove pool slot).1.segmentOccupancy segment = true ↔
      book.Occupied pool (slots.erase slot) segment := by
  have emptied := emptied_iff holds member
  have here : book.Occupied pool slots (book.localSegment (pool.orders slot).price) :=
    ⟨slot, member, rfl⟩
  rw [remove_book]
  by_cases apart : segment = book.localSegment (pool.orders slot).price
  · subst apart
    dsimp only
    split
    · rename_i empty
      simpa [clearSegmentOccupied, bitAt_clearBit] using emptied.mp empty
    · rename_i occupied
      exact iff_of_true ((holds.occupancy _).mpr here) (not_not.mp (mt emptied.mpr occupied))
  · rw [remove_occupied member apart, ← holds.occupancy]
    dsimp only
    split
    · simp [clearSegmentOccupied, bitAt_clearBit, apart]
    · rfl

/-- After a removal the cached segment is recomputed if it has been emptied, and is extreme
again. -/
theorem remove_best :
    (slots.erase slot = [] ∧ (book.remove pool slot).1.bestSegment = invalidSegment) ∨
      (book.Occupied pool (slots.erase slot) (book.remove pool slot).1.bestSegment ∧
        ∀ segment, book.Occupied pool (slots.erase slot) segment →
          NotWorse side (book.remove pool slot).1.bestSegment segment) := by
  have emptied := emptied_iff holds member
  have occupancy := remove_occupancy holds member
  obtain ⟨present, extreme⟩ := holds.best.resolve_left fun empty => by
    rw [empty.1] at member; cases member
  have cached : (book.remove pool slot).1.bestSegment =
      if Emptied (book.segments (book.localSegment (pool.orders slot).price)).activeMask
          (removedLevel (book.level (pool.orders slot).price) (pool.orders slot))
          (priceOffset (pool.orders slot).price) ∧
        book.localSegment (pool.orders slot).price = book.bestSegment then
        recomputedBest side (book.remove pool slot).1.segmentOccupancy book.segmentOccupancyWordCount
      else book.bestSegment := by
    rw [remove_book]
  rw [cached]
  split
  · have bounded (s : ℕ) (set : bitAt (book.remove pool slot).1.segmentOccupancy s = true) :
        s < book.segmentOccupancyWordCount * 64 := by
      obtain ⟨cell, listed, rfl⟩ := (occupancy s).mp set
      have := localSegment_lt holds.shaped (holds.inside cell (List.mem_of_mem_erase listed))
      rw [holds.shaped.words, wordCountFor]
      omega
    rcases recomputedBest_spec side bounded with ⟨invalid, clear⟩ | ⟨set, best⟩
    · refine .inl ⟨List.eq_nil_iff_forall_not_mem.mpr fun cell listed => ?_, invalid⟩
      have set := (occupancy _).mpr ⟨cell, listed, rfl⟩
      rw [clear] at set
      cases set
    · exact .inr ⟨(occupancy _).mp set, fun s occupied => best s ((occupancy s).mpr occupied)⟩
  · rename_i kept
    refine .inr ⟨?_, fun s occupied => extreme s ?_⟩
    · by_cases apart : book.bestSegment = book.localSegment (pool.orders slot).price
      · rw [apart]
        by_contra empty
        exact kept ⟨emptied.mpr empty, apart.symm⟩
      · exact (remove_occupied member apart).mpr present
    · obtain ⟨cell, listed, segments⟩ := occupied
      exact ⟨cell, List.mem_of_mem_erase listed, segments⟩

/-- The slots that `remove` relinks are listed. -/
theorem remove_relinked_listed : OrderPool.Relinked pool (book.remove pool slot).2 slots := by
  refine (unlink_relinked pool slot).mono fun cell touched => ?_
  have neighbours := segment_neighbours (holds.levels _ (holds.inside slot member)).linked
    (mem_group.mpr ⟨member, rfl⟩)
  simp only [List.mem_cons, List.mem_filter, List.not_mem_nil, or_false, decide_eq_true_eq] at touched
  rcases touched with rfl | ⟨rfl | rfl, valid⟩
  · exact member
  · exact (mem_group.mp (neighbours.1.resolve_left valid)).1
  · exact (mem_group.mp (neighbours.2.resolve_left valid)).1

/-- Removing takes the slot out and leaves the order of the others. A level that becomes empty
loses its bit, and so does a segment, from which the cached one is then recomputed. -/
theorem remove_holds :
    Holds (book.remove pool slot).1 (book.remove pool slot).2 (slots.erase slot) := by
  have inside := holds.inside slot member
  have relinked : OrderPool.Relinked pool (book.remove pool slot).2 _ := unlink_relinked pool slot
  have keys : priority side (book.remove pool slot).2 = priority side pool :=
    priority_relinked relinked
  have segments (price : PriceTick) :
      (book.remove pool slot).1.localSegment price = book.localSegment price := by
    rw [remove_book]; rfl
  have occupied (segment : ℕ) : (book.remove pool slot).1.Occupied (book.remove pool slot).2
      (slots.erase slot) segment ↔ book.Occupied pool (slots.erase slot) segment := by
    simp only [Occupied, relinked.price, segments]
  have levels (price : PriceTick) (inside' : book.containsPrice price) :
      (book.remove pool slot).1.level price = if price = (pool.orders slot).price then
        removedLevel (book.level (pool.orders slot).price) (pool.orders slot)
      else book.level price := by
    rw [remove_book]
    exact level_update holds.shaped inside inside' _ _
  refine
    { shaped := by rw [remove_book]; exact ⟨holds.shaped.base, holds.shaped.count, holds.shaped.words⟩
      valid := fun listed => holds.valid (List.mem_of_mem_erase listed)
      distinct := holds.distinct.erase _
      ordered := by rw [keys]; exact ordered_erase holds.ordered
      inside := fun cell listed => ?_
      levels := fun price inside' => ?_
      unused := fun segment offset none => ?_
      mask := fun segment offset bound => ?_
      occupancy := fun segment => (remove_occupancy holds member segment).trans (occupied segment).symm
      best := by simpa only [occupied] using remove_best holds member
      count := ?_
      quantity := ?_ }
  · rw [remove_containsPrice, relinked.price]
    exact holds.inside cell (List.mem_of_mem_erase listed)
  · rw [remove_containsPrice] at inside'
    rw [levels price inside', keys, group_erase holds.distinct]
    by_cases same : price = (pool.orders slot).price
    · subst same
      simpa [priority, remove_pool] using removedLevel_holds holds member
    · have other : priority side pool slot ≠ rank side price := fun equal =>
        same (rank_injective side equal.symm)
      simp only [same, other, ↓reduceIte]
      have untouched : ∀ cell ∈ group (priority side pool) (rank side price) slots,
          (book.remove pool slot).2.orders cell = pool.orders cell := by
        intro cell listed
        obtain ⟨held, atPrice⟩ := mem_group.mp listed
        refine relinked.frame cell fun touched => ?_
        -- a relinked cell lies in the level of the removed slot
        have neighbours := segment_neighbours (holds.levels _ inside).linked
          (mem_group.mpr ⟨member, rfl⟩)
        have sameLevel : cell ∈ group (priority side pool) (rank side (pool.orders slot).price)
            slots := by
          simp only [List.mem_cons, List.mem_filter, List.not_mem_nil, or_false, decide_eq_true_eq]
            at touched
          rcases touched with rfl | ⟨rfl | rfl, valid⟩
          · exact mem_group.mpr ⟨member, rfl⟩
          · exact neighbours.1.resolve_left valid
          · exact neighbours.2.resolve_left valid
        exact same (rank_injective side (atPrice.symm.trans (mem_group.mp sameLevel).2))
      refine (holds.levels price inside').congr ?_ ?_ ?_
      all_goals
        intro cell listed
        simp only [OrderPool.prev, OrderPool.next, untouched cell listed]
  · simp only [remove_containsPrice, segments] at none
    rw [remove_book]
    simp only [level_update_unused _ _ (none _ inside)]
    exact holds.unused segment offset none
  · rw [remove_mask holds member segment bound]
    simp only [relinked.price, segments]
  · rw [remove_book, List.length_erase_of_mem member]
    have positive := List.length_pos_of_mem member
    simp only [holds.count]
    obtain ⟨n, same⟩ := Nat.exists_eq_succ_of_ne_zero (by omega : slots.length ≠ 0)
    simp [same, UInt32.ofNat_add]
  · rw [aggregate_relinked relinked, remove_book]
    simp only [holds.quantity]
    exact aggregate_erase member

end Remove

/-! ### Changing a remaining quantity -/

theorem adjustTotal_eq {previous newRemaining : Quantity} {rest : ℕ} :
    adjustTotal previous newRemaining (UInt64.ofNat (previous.toNat + rest)) =
      UInt64.ofNat (newRemaining.toNat + rest) := by
  unfold adjustTotal
  split
  · rename_i more
    have difference := UInt32.toNat_sub_of_le _ _ more
    have le := UInt32.le_iff_toNat_le.mp more
    rw [← UInt64.ofNat_uInt32ToNat, ← UInt64.ofNat_add, difference]
    congr 1
    omega
  · rename_i less
    have le : newRemaining ≤ previous := by
      rw [UInt32.le_iff_toNat_le]
      rw [ge_iff_le, UInt32.le_iff_toNat_le] at less
      omega
    have difference := UInt32.toNat_sub_of_le _ _ le
    have le := UInt32.le_iff_toNat_le.mp le
    have whole : previous.toNat + rest = newRemaining.toNat + rest + (previous - newRemaining).toNat := by
      omega
    rw [whole, UInt64.ofNat_add, UInt64.ofNat_uInt32ToNat, UInt64.add_sub_cancel]

section SetRemaining
variable (newRemaining : Quantity)

theorem setRemaining_orders (pool : OrderPool) (slot cell : OrderIndex) :
    (pool.setRemaining slot newRemaining).orders cell =
      { pool.orders cell with
        remaining := if cell = slot then newRemaining else (pool.orders cell).remaining } := by
  rcases eq_or_ne cell slot with rfl | apart <;> simp [OrderPool.setRemaining, OrderPool.set, *]

/-- The totals follow the change of one listed slot. -/
theorem aggregate_setRemaining (distinct : queue.Nodup) (member : slot ∈ queue) :
    adjustTotal (pool.orders slot).remaining newRemaining (UInt64.ofNat (aggregate pool queue)) =
      UInt64.ofNat (aggregate (pool.setRemaining slot newRemaining) queue) := by
  have split (pool : OrderPool) : aggregate pool queue =
      (pool.orders slot).remaining.toNat + aggregate pool (queue.erase slot) :=
    ((List.perm_cons_erase member).map _).sum_eq
  have rest : aggregate (pool.setRemaining slot newRemaining) (queue.erase slot) =
      aggregate pool (queue.erase slot) := by
    refine congrArg List.sum (List.map_congr_left fun cell listed => ?_)
    have apart : cell ≠ slot := (distinct.mem_erase_iff.mp listed).1
    rw [setRemaining_orders, if_neg apart]
  rw [split pool, split (pool.setRemaining slot newRemaining), rest, adjustTotal_eq,
    setRemaining_orders, if_pos rfl]

/-- Changing a quantity keeps every slot in its place. Only the totals of its level and of its
side change with it. -/
theorem setRemaining_holds (holds : Holds book pool slots) (member : slot ∈ slots) :
    Holds (book.setRemaining pool slot newRemaining).1
      (book.setRemaining pool slot newRemaining).2 slots := by
  have inside := holds.inside slot member
  have data (cell : OrderIndex) : (book.setRemaining pool slot newRemaining).2.orders cell =
      { pool.orders cell with
        remaining := if cell = slot then newRemaining else (pool.orders cell).remaining } :=
    setRemaining_orders newRemaining pool slot cell
  have keys : priority side (book.setRemaining pool slot newRemaining).2 = priority side pool :=
    funext fun cell => by rw [priority, data, priority]
  have occupied (segment : ℕ) : (book.setRemaining pool slot newRemaining).1.Occupied
      (book.setRemaining pool slot newRemaining).2 slots segment ↔
      book.Occupied pool slots segment := by
    simp only [Occupied, data]
    exact Iff.rfl
  have levels (price : PriceTick) (inside' : book.containsPrice price) :
      (book.setRemaining pool slot newRemaining).1.level price =
        if price = (pool.orders slot).price then
          { book.level (pool.orders slot).price with
            totalQuantity := adjustTotal (pool.orders slot).remaining newRemaining
              (book.level (pool.orders slot).price).totalQuantity }
        else book.level price :=
    level_update holds.shaped inside inside' _ _
  refine
    { shaped := ⟨holds.shaped.base, holds.shaped.count, holds.shaped.words⟩
      valid := holds.valid
      distinct := holds.distinct
      ordered := by rw [keys]; exact holds.ordered
      inside := fun cell listed => by rw [data]; exact holds.inside cell listed
      levels := fun price inside' => ?_
      unused := fun segment offset none => by
        have apart : ¬ (book.localSegment (pool.orders slot).price = segment ∧
          priceOffset (pool.orders slot).price = offset) := none _ inside
        exact (level_update_unused _ _ apart).trans (holds.unused segment offset none)
      mask := fun segment offset bound => ?_
      occupancy := fun segment => (holds.occupancy segment).trans (occupied segment).symm
      best := by simp only [occupied]; exact holds.best
      count := holds.count
      quantity := ?_ }
  · rw [levels price inside', keys]
    have level := holds.levels price inside'
    by_cases same : price = (pool.orders slot).price
    · subst same
      simp only [↓reduceIte]
      refine ⟨?_, level.count, ?_⟩
      · refine (segment_congr (fun cell _ => ?_) (fun cell _ => ?_)).mpr level.linked
        · rw [OrderPool.prev, data, OrderPool.prev]
        · rw [OrderPool.next, data, OrderPool.next]
      · simp only [level.quantity]
        exact aggregate_setRemaining newRemaining (holds.distinct.filter _)
          (mem_group.mpr ⟨member, rfl⟩)
    · rw [if_neg same]
      refine level.congr ?_ ?_ ?_
      · exact fun cell _ => by rw [OrderPool.prev, data, OrderPool.prev]
      · exact fun cell _ => by rw [OrderPool.next, data, OrderPool.next]
      · intro cell listed
        have apart : cell ≠ slot := by
          rintro rfl
          exact same (rank_injective side (mem_group.mp listed).2.symm)
        rw [data, if_neg apart]
  · have untouched : ((book.setRemaining pool slot newRemaining).1.segments segment).activeMask =
        (book.segments segment).activeMask := by
      by_cases here : segment = book.localSegment (pool.orders slot).price
      · subst here
        simp [setRemaining, writeLevel]
      · simp [setRemaining, writeLevel, here]
    rw [untouched, holds.mask _ _ bound]
    simp only [data]
    exact Iff.rfl
  · have total : (book.setRemaining pool slot newRemaining).1.totalQuantity =
        adjustTotal (pool.orders slot).remaining newRemaining book.totalQuantity := rfl
    rw [total, holds.quantity]
    exact aggregate_setRemaining newRemaining holds.distinct member

end SetRemaining

theorem clear_holds (shaped : Shaped book) (pool : OrderPool) : Holds book.clear pool [] where
  shaped := ⟨shaped.base, shaped.count, shaped.words⟩
  valid := by simp
  distinct := List.nodup_nil
  ordered := List.Pairwise.nil
  inside := by simp
  levels price _ := ⟨⟨rfl, rfl⟩, rfl, rfl⟩
  unused _ _ _ := rfl
  mask segment offset _ := by simp [clear]
  occupancy segment := by simp [clear, bitAt, Occupied]
  best := .inl ⟨rfl, rfl⟩
  count := rfl
  quantity := rfl

end Fexma.SideBook
