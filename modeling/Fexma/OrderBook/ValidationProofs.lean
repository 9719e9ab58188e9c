import Fexma.OrderBook.Structure

/-! The self-check accepts every book with the structure: each walk of it follows one list
of the structure and counts exactly that list. -/
namespace Fexma

open LinkedQueue WordBitmap

/-! ### Walks -/

/-- A loop that can fail succeeds when each of its steps carries the state on. -/
theorem foldlM_collect {α β γ σ : Type} {step : σ → α → Option σ} {items : List α}
    (state : List β → List γ → σ) (first : α → List β) (second : α → List γ)
    (steps : ∀ item ∈ items, ∀ xs ys,
      step (state xs ys) item = some (state (xs ++ first item) (ys ++ second item)))
    (xs : List β) (ys : List γ) : items.foldlM step (state xs ys) =
      some (state (xs ++ items.flatMap first) (ys ++ items.flatMap second)) := by
  induction items generalizing xs ys with
  | nil => simp
  | cons item items ih =>
    rw [List.foldlM_cons, steps item (by simp)]
    have rest := ih (fun other member => steps other (by simp [member])) (xs ++ first item)
      (ys ++ second item)
    simpa using rest

theorem sublist_flatMap {α β : Type} {items : List α} {item : α} (part : α → List β)
    (member : item ∈ items) : (part item).Sublist (items.flatMap part) := by
  rw [List.flatMap_def]
  exact List.sublist_flatten_of_mem (List.mem_map_of_mem member)

namespace OrderPool

variable {pool : OrderPool} {rest free queue : List OrderIndex} {slot current : OrderIndex}

theorem freelistLoop_eq {fuel : ℕ} {seen : OrderIndex → UInt8} {count : OrderCapacity}
    (chain : Chain pool.next invalidOrderIndex current rest) (distinct : rest.Nodup)
    (idle : ∀ slot ∈ rest, slot < pool.capacity ∧ (pool.orders slot).inUse = false ∧ seen slot = 0)
    (enough : rest.length < fuel) (room : count.toNat + rest.length ≤ pool.capacity.toNat) :
    pool.freelistLoop fuel current seen count =
      some (fun slot => if slot ∈ rest then 1 else seen slot, count + UInt32.ofNat rest.length) := by
  induction rest generalizing fuel current seen count with
  | nil =>
    obtain ⟨fuel, rfl⟩ := Nat.exists_eq_succ_of_ne_zero (by omega : fuel ≠ 0)
    have ended : current = invalidOrderIndex := chain
    simp [freelistLoop, ended]
  | cons first rest ih =>
    obtain ⟨fuel, rfl⟩ := Nat.exists_eq_succ_of_ne_zero (by omega : fuel ≠ 0)
    obtain ⟨rfl, valid, chain⟩ := chain
    obtain ⟨fresh, distinct⟩ := List.nodup_cons.mp distinct
    obtain ⟨bound, unused, unseen⟩ := idle current (by simp)
    rw [List.length_cons] at enough room
    have small := pool.capacity.toNat_lt
    have next_count : (count + 1).toNat = count.toNat + 1 := by
      rw [UInt32.toNat_add]
      exact Nat.mod_eq_of_lt (by change count.toNat + 1 < 2 ^ 32; omega)
    have within : ¬ count + 1 > pool.capacity := by
      rw [gt_iff_lt, UInt32.lt_iff_toNat_lt, next_count]
      omega
    have inside : ¬ current ≥ pool.capacity := UInt32.not_le.mpr bound
    have follow : (pool.orders current).next = pool.next current := rfl
    have later : ∀ slot ∈ rest, slot < pool.capacity ∧ (pool.orders slot).inUse = false ∧
        Function.update seen current 1 slot = 0 := by
      intro slot member
      have apart : slot ≠ current := fun same => fresh (same ▸ member)
      rw [Function.update_of_ne apart]
      exact idle slot (by simp [member])
    rw [freelistLoop, if_neg valid, if_neg (by simp [inside, unused, unseen]), if_neg within, follow,
      ih chain distinct later (by omega) (by omega)]
    congr 2
    · funext slot
      by_cases here : slot = current
      · subst here
        simp [fresh]
      · simp [here]
    · rw [List.length_cons, UInt32.ofNat_add, UInt32.add_assoc, UInt32.add_comm 1]
      rfl

/-- No more distinct slots below the capacity than the capacity has. -/
theorem length_le_capacity (distinct : queue.Nodup) (bound : ∀ slot ∈ queue, slot < pool.capacity) :
    queue.length ≤ pool.capacity.toNat := by
  have inside : queue ⊆ allSlots pool.capacity := fun slot member =>
    mem_allSlots.mpr (bound slot member)
  have := (List.subperm_of_subset distinct inside).length_le
  rwa [length_allSlots] at this

theorem contains_iff : pool.contains slot ↔ slot < pool.capacity ∧ (pool.orders slot).inUse = true := by
  rw [contains, Bool.and_eq_true, decide_eq_true_eq]

theorem contains_valid (used : pool.contains slot) : slot ≠ invalidOrderIndex := by
  rintro rfl
  have bound := (contains_iff.mp used).1
  have most := pool.capacity.toNat_lt
  have last : invalidOrderIndex.toNat = 2 ^ 32 - 1 := by decide
  rw [UInt32.lt_iff_toNat_lt] at bound
  omega

theorem validateFreelist_true (free : List OrderIndex)
    (chain : Chain pool.next invalidOrderIndex pool.freeHead free) (distinct : free.Nodup)
    (count : pool.freeCount.toNat = free.length)
    (idle : ∀ slot, slot ∈ free ↔ slot < pool.capacity ∧ ¬ pool.contains slot) :
    pool.validateFreelist true := by
  have unused : ∀ slot ∈ free, slot < pool.capacity ∧ (pool.orders slot).inUse = false := by
    intro slot member
    obtain ⟨bound, absent⟩ := (idle slot).mp member
    refine ⟨bound, ?_⟩
    simpa [contains_iff, bound] using absent
  have short := length_le_capacity distinct fun slot member => (unused slot member).1
  unfold validateFreelist
  split_ifs with zero missing
  · have none : free = [] := by
      refine List.eq_nil_iff_forall_not_mem.mpr fun slot member => ?_
      have bound := (unused slot member).1
      rw [zero] at bound
      exact absurd bound UInt32.not_lt_zero
    rw [none] at chain count
    have head : pool.freeHead = invalidOrderIndex := chain
    have idleCount : pool.freeCount = 0 := UInt32.toNat_inj.mp count
    simp [head, idleCount]
  · exact absurd missing (by decide)
  · rw [freelistLoop_eq chain distinct
      (fun slot member => ⟨(unused slot member).1, (unused slot member).2, rfl⟩) (by omega)
      (by rw [UInt32.toNat_zero]; omega)]
    simp only [Bool.and_eq_true, decide_eq_true_eq, List.all_eq_true, UInt32.zero_add]
    constructor
    · rw [← count, UInt32.ofNat_toNat]
    · intro slot listed
      have bound := mem_allSlots.mp listed
      have free_iff := idle slot
      rw [contains_iff] at free_iff
      cases used : (pool.orders slot).inUse <;> simp_all

end OrderPool

namespace OrderBook

variable {book : OrderBook} {queue linked : List OrderIndex} {current before last : OrderIndex}
variable {side : Side} {half : SideBook side} {segment offset : ℕ} {price : PriceTick}

/-- What `validate_side` asks of an order at a level. -/
def Placed (book : OrderBook) (side : Side) (price : PriceTick) (slot : OrderIndex) : Prop :=
  book.pool.contains slot ∧ (book.pool.orders slot).side = side ∧
    (book.pool.orders slot).price = price ∧ book.priceInRange (book.pool.orders slot).price ∧
    (book.pool.orders slot).remaining ≠ 0

/-- The walk along the FIFO of a level passes all its checks and comes back with the level's
count and total. -/
theorem levelLoop_eq {fuel : ℕ} {count : UInt32} {quantity : AggregateQuantity}
    (run : Segment book.pool.prev book.pool.next before current queue last invalidOrderIndex)
    (placed : ∀ slot ∈ queue, Placed book side price slot) (enough : queue.length < fuel)
    (room : count.toNat + queue.length ≤ book.config.maxOrders.toNat) :
    book.levelLoop side price fuel current before count quantity =
      some (last, count + UInt32.ofNat queue.length,
        quantity + UInt64.ofNat (SideBook.aggregate book.pool queue)) := by
  induction queue generalizing fuel current before count quantity with
  | nil =>
    obtain ⟨fuel, rfl⟩ := Nat.exists_eq_succ_of_ne_zero (by omega : fuel ≠ 0)
    obtain ⟨rfl, rfl⟩ := run
    simp [levelLoop, SideBook.aggregate]
  | cons slot rest ih =>
    obtain ⟨fuel, rfl⟩ := Nat.exists_eq_succ_of_ne_zero (by omega : fuel ≠ 0)
    obtain ⟨rfl, back, run⟩ := run
    obtain ⟨used, sided, priced, ranged, positive⟩ := placed current (by simp)
    rw [List.length_cons] at enough room
    have small := book.config.maxOrders.toNat_lt
    have next_count : (count + 1).toNat = count.toNat + 1 := by
      rw [UInt32.toNat_add]
      exact Nat.mod_eq_of_lt (by change count.toNat + 1 < 2 ^ 32; omega)
    have within : ¬ count + 1 > book.config.maxOrders := by
      rw [gt_iff_lt, UInt32.lt_iff_toNat_lt, next_count]
      omega
    have linkedBack : (book.pool.orders current).prev = before := back
    have follow : (book.pool.orders current).next = book.pool.next current := rfl
    have sound : ¬ (decide ((book.pool.orders current).remaining = 0) ||
        !book.priceInRange (book.pool.orders current).price ||
        decide ((book.pool.orders current).side ≠ side) ||
        decide ((book.pool.orders current).price ≠ price) ||
        decide ((book.pool.orders current).prev ≠ before)) := by
      simp [positive, ranged, sided, ← priced, linkedBack]
    rw [levelLoop, if_neg (OrderPool.contains_valid used), if_neg (by simp [used])]
    simp only [if_neg sound, if_neg within, follow]
    rw [ih run (fun other member => placed other (by simp [member])) (by omega) (by omega)]
    congr 3
    · rw [List.length_cons, UInt32.ofNat_add, UInt32.add_assoc, UInt32.add_comm 1]
      rfl
    · rw [SideBook.aggregate, SideBook.aggregate, List.map_cons, List.sum_cons, UInt64.ofNat_add,
        UInt64.add_assoc, UInt64.ofNat_uInt32ToNat]

theorem markLoop_eq {steps : ℕ} {xs : List OrderIndex}
    (run : Segment book.pool.prev book.pool.next before current queue last invalidOrderIndex)
    (used : ∀ slot ∈ queue, book.pool.contains slot) (enough : queue.length ≤ steps) :
    book.markLoop steps current (fun slot => UInt8.ofNat (xs.count slot)) =
      some fun slot => UInt8.ofNat ((xs ++ queue).count slot) := by
  induction queue generalizing steps current before xs with
  | nil =>
    obtain ⟨rfl, -⟩ := run
    unfold markLoop
    simp
  | cons slot rest ih =>
    obtain ⟨rfl, back, run⟩ := run
    have here := used current (by simp)
    rw [List.length_cons] at enough
    obtain ⟨steps, rfl⟩ := Nat.exists_eq_succ_of_ne_zero (by omega : steps ≠ 0)
    have marked : Function.update (fun slot => UInt8.ofNat (xs.count slot)) current
        (UInt8.ofNat (xs.count current) + 1) =
        fun slot => UInt8.ofNat ((xs ++ [current]).count slot) := by
      funext slot
      by_cases same : slot = current
      · subst same
        simp [List.count_append]
      · simp [same, List.count_append, Ne.symm same]
    have follow : (book.pool.orders current).next = book.pool.next current := rfl
    unfold markLoop
    rw [if_neg (OrderPool.contains_valid here), if_neg (by simp [here])]
    simp only [marked, follow]
    rw [ih run (fun other member => used other (by simp [member])) (by omega)]
    simp

/-! ### Levels, segments and sides -/

/-- The best price of a list, as the loop over the levels finds it. -/
def bestOf (side : Side) (prices : List PriceTick) : Option PriceTick :=
  prices.foldl (fun best price => if best.all (betterPrice side price) then some price else best) none

/-- The tally behind the orders and the non-empty levels met so far. -/
def tallied (book : OrderBook) (side : Side) (orders : List OrderIndex) (prices : List PriceTick) :
    SideTally where
  countedOrders := UInt32.ofNat orders.length
  countedQuantity := UInt64.ofNat (SideBook.aggregate book.pool orders)
  expectedBest := bestOf side prices

/-- The price of a level, unless it is empty. -/
def levelPrices (queue : List OrderIndex) (price : PriceTick) : List PriceTick :=
  if queue = [] then [] else [price]

/-- A level with its structure passes its checks and is added to the tally. -/
theorem validateLevel_eq {orders : List OrderIndex} {prices : List PriceTick}
    (held : LevelStructure book.pool ((half.segments segment).levels offset) queue)
    (placed : ∀ slot ∈ queue, Placed book side (half.priceFromLocal segment offset) slot)
    (few : queue.length ≤ book.config.maxOrders.toNat) :
    book.validateLevel half segment (tallied book side orders prices) offset =
      some (tallied book side (orders ++ queue)
        (prices ++ levelPrices queue (half.priceFromLocal segment offset))) := by
  obtain ⟨run, count, quantity⟩ := held
  rcases eq_or_ne queue [] with rfl | nonempty
  · obtain ⟨head, tail⟩ := run
    have none_counted : ((half.segments segment).levels offset).orderCount = 0 :=
      UInt32.toNat_inj.mp count
    have none_owed : ((half.segments segment).levels offset).totalQuantity = 0 :=
      UInt64.toNat_inj.mp quantity
    simp [validateLevel, none_counted, none_owed, head, tail, levelPrices]
  · have counted : ((half.segments segment).levels offset).orderCount ≠ 0 := by
      intro zero
      rw [zero] at count
      exact nonempty (List.length_eq_zero_iff.mp count.symm)
    have headUsed := (placed _ (segment_first_mem run nonempty)).1
    have tailUsed := (placed _ (segment_last_mem run nonempty)).1
    have headBack := segment_first_back run nonempty
    have tailNext := segment_last_after run nonempty
    have orderCount : UInt32.ofNat queue.length =
        ((half.segments segment).levels offset).orderCount := by rw [← count, UInt32.ofNat_toNat]
    have totalQuantity : UInt64.ofNat (SideBook.aggregate book.pool queue) =
        ((half.segments segment).levels offset).totalQuantity := by
      rw [← quantity, UInt64.ofNat_toNat]
    have walked : book.levelLoop side (half.priceFromLocal segment offset)
        (book.config.maxOrders.toNat + 2) ((half.segments segment).levels offset).head
        invalidOrderIndex 0 0 = some (((half.segments segment).levels offset).tail,
          0 + UInt32.ofNat queue.length, 0 + UInt64.ofNat (SideBook.aggregate book.pool queue)) :=
      levelLoop_eq run placed (by omega) (by rw [UInt32.toNat_zero]; omega)
    rw [UInt32.zero_add, UInt64.zero_add] at walked
    have ends : ¬ (decide ((book.pool.orders ((half.segments segment).levels offset).head).prev ≠
          invalidOrderIndex) ||
        decide ((book.pool.orders ((half.segments segment).levels offset).tail).next ≠
          invalidOrderIndex)) := by
      simp [show (book.pool.orders ((half.segments segment).levels offset).head).prev =
          invalidOrderIndex from headBack,
        show (book.pool.orders ((half.segments segment).levels offset).tail).next =
          invalidOrderIndex from tailNext]
    simp only [validateLevel, if_neg counted, if_neg ends, walked, Option.bind_some]
    rw [if_neg (by simp [headUsed, tailUsed, OrderPool.contains_valid headUsed,
      OrderPool.contains_valid tailUsed]), if_neg (by simp [orderCount, totalQuantity])]
    simp only [tallied, levelPrices, if_neg nonempty, List.length_append, UInt32.ofNat_add,
      SideBook.aggregate, List.map_append, List.sum_append, UInt64.ofNat_add, bestOf,
      List.foldl_append, List.foldl_cons, List.foldl_nil]
    rfl

theorem getLsbD_expectedMask {levels : ℕ → PriceLevel} {bits : List ℕ} {mask : BitVec 64} {i : ℕ}
    (bound : i < 64) :
    (bits.foldl (fun mask offset => if (levels offset).orderCount ≠ 0 then setBit mask offset
      else mask) mask).getLsbD i = true ↔
        mask.getLsbD i = true ∨ i ∈ bits ∧ (levels i).orderCount ≠ 0 := by
  induction bits generalizing mask with
  | nil => simp
  | cons bit bits ih =>
    rw [List.foldl_cons, ih, List.mem_cons]
    by_cases counted : (levels bit).orderCount ≠ 0
    · rw [if_pos counted, getLsbD_setBit bound]
      by_cases here : i = bit
      · subst here
        simp [counted]
      · simp [here]
    · rw [if_neg counted]
      by_cases here : i = bit
      · subst here
        simp [counted]
      · simp [here]

/-- The bits of the last word that stand for segments. -/
theorem usedBits_toNat (count : ℕ) :
    ((1#64 <<< (count % 64)) - 1#64).toNat = 2 ^ (count % 64) - 1 := by
  have small : 2 ^ (count % 64) < 2 ^ 64 :=
    Nat.pow_lt_pow_right (by decide) (Nat.mod_lt _ (by decide))
  have positive := Nat.two_pow_pos (count % 64)
  simp only [BitVec.toNat_sub, BitVec.toNat_shiftLeft, BitVec.toNat_ofNat, Nat.shiftLeft_eq]
  omega

section Side
variable {queue : ℕ → ℕ → List OrderIndex}
variable (sound : SideStructure book half queue)
include sound

/-- A level counts no orders exactly if nothing is linked into it. -/
theorem SideStructure.orderCount_eq_zero (inside : segment < half.segmentCount)
    (bound : offset < 64) :
    ((half.segments segment).levels offset).orderCount = 0 ↔ queue segment offset = [] := by
  have count := (sound.levels segment inside offset bound).orderCount
  rw [← UInt32.toNat_inj, count, UInt32.toNat_zero, List.length_eq_zero_iff]

/-- The mask that the check rebuilds from the counters is the mask of the segment. -/
theorem SideStructure.expectedMask_eq (inside : segment < half.segmentCount) :
    expectedMask (half.segments segment) = (half.segments segment).activeMask := by
  refine BitVec.eq_of_getLsbD_eq fun i bound => ?_
  rw [Bool.eq_iff_iff, expectedMask, getLsbD_expectedMask bound, sound.mask segment inside i bound]
  simp [bound, sound.orderCount_eq_zero inside bound]

theorem SideStructure.empty_iff (inside : segment < half.segmentCount) :
    (half.segments segment).empty = false ↔ OccupiedSegment queue half.segmentCount segment := by
  rw [PriceSegment.empty, beq_eq_false_iff_ne, ne_zero_iff]
  constructor
  · rintro ⟨i, bound, set⟩
    exact ⟨inside, i, bound, (sound.mask segment inside i bound).mp set⟩
  · rintro ⟨-, i, bound, nonempty⟩
    exact ⟨i, bound, (sound.mask segment inside i bound).mpr nonempty⟩

/-- No bit beyond the last segment is set. -/
theorem SideStructure.no_strayBits : strayBits half = false := by
  by_contra stray
  simp only [strayBits, Bool.and_eq_true, decide_eq_true_eq, Bool.not_eq_false] at stray
  obtain ⟨⟨some_words, some_used⟩, beyond⟩ := stray
  obtain ⟨i, bound, set⟩ := ne_zero_iff.mp beyond
  rw [BitVec.getLsbD_and, Bool.and_eq_true] at set
  obtain ⟨set, free⟩ := set
  rw [← bitAt_in_word bound, sound.occupancy] at set
  have words := sound.words
  have inside := set.1
  have used : i < half.segmentCount % 64 := by omega
  rw [BitVec.getLsbD_not, BitVec.getLsbD, usedBits_toNat, Nat.testBit_two_pow_sub_one] at free
  simp [used] at free

theorem SideStructure.placed {slot : OrderIndex}
    (used : ∀ slot ∈ linkedSlots half.segmentCount queue, book.pool.contains slot)
    (inside : segment < half.segmentCount) (bound : offset < 64)
    (listed : slot ∈ queue segment offset) :
    Placed book side (half.priceFromLocal segment offset) slot :=
  ⟨used slot (mem_linkedSlots.mpr ⟨segment, inside, offset, bound, listed⟩),
    sound.orders segment inside offset bound slot listed⟩

/-- One segment adds its levels to the tally and passes its own checks. -/
theorem SideStructure.validateSegment_eq
    (used : ∀ slot ∈ linkedSlots half.segmentCount queue, book.pool.contains slot)
    (few : (linkedSlots half.segmentCount queue).length ≤ book.config.maxOrders.toNat)
    (inside : segment < half.segmentCount) (orders : List OrderIndex) (prices : List PriceTick) :
    book.validateSegment half (tallied book side orders prices) segment =
      some (tallied book side (orders ++ (List.range 64).flatMap (queue segment))
        (prices ++ (List.range 64).flatMap fun offset =>
          levelPrices (queue segment offset) (half.priceFromLocal segment offset))) := by
  have levels : ∀ offset ∈ List.range 64, ∀ orders prices,
      book.validateLevel half segment (tallied book side orders prices) offset =
        some (tallied book side (orders ++ queue segment offset) (prices ++
          levelPrices (queue segment offset) (half.priceFromLocal segment offset))) := by
    intro offset listed orders prices
    have bound := List.mem_range.mp listed
    have part : (queue segment offset).Sublist (linkedSlots half.segmentCount queue) := by
      have inner := sublist_flatMap (queue segment) listed
      exact inner.trans (sublist_flatMap (fun segment => (List.range 64).flatMap (queue segment))
        (List.mem_range.mpr inside))
    exact validateLevel_eq (sound.levels segment inside offset bound)
      (fun slot member => sound.placed used inside bound member) (part.length_le.trans few)
  have bitmap : bitAt half.segmentOccupancy segment = !(half.segments segment).empty := by
    rw [Bool.eq_iff_iff, sound.occupancy, Bool.not_eq_true', sound.empty_iff inside]
  rw [validateSegment, foldlM_collect (tallied book side) _ _ levels, Option.bind_some, if_neg (by
    rw [sound.expectedMask_eq inside]; exact not_not.mpr rfl), if_neg (not_not.mpr bitmap)]

end Side

theorem betterPrice_asymm {other : PriceTick} (better : betterPrice side price other) : betterPrice side other price = false := by
  cases side <;> simp only [betterPrice, decide_eq_true_eq, decide_eq_false_iff_not] at better ⊢ <;>
    exact UInt32.not_lt.mpr (UInt32.le_of_lt better)

/-- The loop keeps the best price once it has met it. -/
theorem bestOf_eq {prices : List PriceTick} (listed : price ∈ prices)
    (best : ∀ other ∈ prices, other = price ∨ betterPrice side price other) :
    bestOf side prices = some price := by
  have kept (found : Option PriceTick)
      (worse : ∀ other ∈ found, other = price ∨ betterPrice side price other)
      (met : price ∈ prices ∨ found = some price) :
      prices.foldl (fun best price => if best.all (betterPrice side price) then some price
        else best) found = some price := by
    clear listed
    induction prices generalizing found with
    | nil => simpa using met
    | cons first rest ih =>
      rw [List.foldl_cons]
      refine ih (fun other member => best other (by simp [member])) _ ?_ ?_
      · intro other member
        split_ifs at member with better
        · cases member
          exact best first (by simp)
        · exact worse other member
      · rcases best first (by simp) with rfl | behind
        · right
          cases found with
          | none => rfl
          | some other =>
            rcases worse other rfl with rfl | ahead
            · have irreflexive : betterPrice side other other = false := by
                cases side <;> simp [betterPrice]
              simp [irreflexive]
            · simp [ahead]
        · rcases met with listed | rfl
          · rcases List.mem_cons.mp listed with rfl | later
            · exact absurd behind (by cases side <;> simp [betterPrice])
            · exact .inl later
          · right
            simp [betterPrice_asymm behind]
  exact kept none (fun other member => by cases member) (.inl listed)

section Side
variable {queue : ℕ → ℕ → List OrderIndex}
variable (sound : SideStructure book half queue)
include sound

/-- The prices of the non-empty levels, rising. -/
def occupiedPrices (half : SideBook side) (queue : ℕ → ℕ → List OrderIndex) : List PriceTick :=
  (List.range half.segmentCount).flatMap fun segment => (List.range 64).flatMap fun offset =>
    levelPrices (queue segment offset) (half.priceFromLocal segment offset)

omit sound in
theorem mem_occupiedPrices : price ∈ occupiedPrices half queue ↔
    ∃ segment < half.segmentCount, ∃ offset < 64, queue segment offset ≠ [] ∧
      price = half.priceFromLocal segment offset := by
  simp only [occupiedPrices, List.mem_flatMap, List.mem_range, levelPrices]
  refine exists_congr fun segment => and_congr_right fun inside => ?_
  refine exists_congr fun offset => and_congr_right fun bound => ?_
  by_cases empty : queue segment offset = [] <;> simp [empty]

theorem SideStructure.coordinate_lt {other offset' : ℕ} (inside : segment < half.segmentCount)
    (bound : offset < 64) (inside' : other < half.segmentCount) (bound' : offset' < 64)
    (segments : SideBook.NotWorse side segment other)
    (offsets : segment = other → SideBook.NotWorse side offset offset') :
    half.priceFromLocal other offset' = half.priceFromLocal segment offset ∨
      betterPrice side (half.priceFromLocal segment offset) (half.priceFromLocal other offset') := by
  have here := sound.prices segment inside offset bound
  have there := sound.prices other inside' offset' bound'
  rw [← UInt32.toNat_inj, here, there]
  cases side <;> simp only [SideBook.NotWorse] at segments offsets <;>
    simp only [betterPrice, decide_eq_true_eq, gt_iff_lt, UInt32.lt_iff_toNat_lt, here, there] <;>
    omega

/-- The cached best segment leads to the best price of all levels. -/
theorem SideStructure.bestPrice_eq
    (occupied : OccupiedSegment queue half.segmentCount half.bestSegment)
    (extreme : ∀ segment, OccupiedSegment queue half.segmentCount segment →
      SideBook.NotWorse side half.bestSegment segment)
    (valid : half.bestSegment ≠ SideBook.invalidSegment) :
    bestOf side (occupiedPrices half queue) = some half.bestPrice := by
  have inside := occupied.1
  have nonzero : (half.segments half.bestSegment).activeMask ≠ 0 := by
    have held := (sound.empty_iff inside).mpr occupied
    rwa [PriceSegment.empty, beq_eq_false_iff_ne] at held
  obtain ⟨bound, set, first⟩ := SideBook.bestOffset_spec side nonzero
  rw [SideBook.bestPrice, if_neg valid]
  refine bestOf_eq (mem_occupiedPrices.mpr
    ⟨_, inside, _, bound, (sound.mask _ inside _ bound).mp set, rfl⟩) fun other listed => ?_
  obtain ⟨segment, inside', offset, bound', nonempty, rfl⟩ := mem_occupiedPrices.mp listed
  refine sound.coordinate_lt inside bound inside' bound'
    (extreme segment ⟨inside', offset, bound', nonempty⟩) fun same => ?_
  subst same
  exact first offset ((sound.mask _ inside' offset bound').mpr nonempty)

theorem SideStructure.validateSide_true
    (used : ∀ slot ∈ linkedSlots half.segmentCount queue, book.pool.contains slot)
    (few : (linkedSlots half.segmentCount queue).length ≤ book.config.maxOrders.toNat) :
    book.validateSide half := by
  have walked : (List.range half.segmentCount).foldlM (book.validateSegment half)
      (tallied book side [] []) = some (tallied book side (linkedSlots half.segmentCount queue)
        (occupiedPrices half queue)) :=
    foldlM_collect (tallied book side) _ _ (fun segment listed =>
      sound.validateSegment_eq used few (List.mem_range.mp listed)) [] []
  have start : ({} : SideTally) = tallied book side [] [] := rfl
  have counted : (tallied book side (linkedSlots half.segmentCount queue)
      (occupiedPrices half queue)).countedOrders = half.orderCount := by
    rw [tallied, ← sound.orderCount, UInt32.ofNat_toNat]
  have owed : (tallied book side (linkedSlots half.segmentCount queue)
      (occupiedPrices half queue)).countedQuantity = half.totalQuantity := by
    rw [tallied, ← sound.totalQuantity, UInt64.ofNat_toNat]
  have found : (tallied book side (linkedSlots half.segmentCount queue)
      (occupiedPrices half queue)).expectedBest = bestOf side (occupiedPrices half queue) := rfl
  have empty_iff : half.orderCount = 0 ↔ linkedSlots half.segmentCount queue = [] := by
    rw [← UInt32.toNat_inj, sound.orderCount, UInt32.toNat_zero, List.length_eq_zero_iff]
  rw [validateSide, start, walked]
  simp only [counted, owed, found, sound.words, sound.no_strayBits]
  rcases sound.best with ⟨none_linked, invalid⟩ | ⟨occupied, extreme⟩
  · have no_prices : occupiedPrices half queue = [] := by
      refine List.eq_nil_iff_forall_not_mem.mpr fun price listed => ?_
      obtain ⟨segment, inside, offset, bound, nonempty, -⟩ := mem_occupiedPrices.mp listed
      obtain ⟨slot, member⟩ := List.exists_mem_of_ne_nil _ nonempty
      have all := mem_linkedSlots.mpr ⟨segment, inside, offset, bound, member⟩
      rw [none_linked] at all
      cases all
    simp [empty_iff.mpr none_linked, invalid, no_prices, bestOf]
  · have inside := occupied.1
    have some_linked : half.orderCount ≠ 0 := by
      obtain ⟨-, offset, bound, nonempty⟩ := occupied
      obtain ⟨slot, member⟩ := List.exists_mem_of_ne_nil _ nonempty
      rw [Ne, empty_iff]
      exact List.ne_nil_of_mem (mem_linkedSlots.mpr ⟨_, inside, offset, bound, member⟩)
    have valid : half.bestSegment ≠ SideBook.invalidSegment := by
      intro invalid
      have price := sound.prices _ inside 0 (by decide)
      have small := (half.priceFromLocal half.bestSegment 0).toNat_lt
      rw [price, invalid, SideBook.invalidSegment] at small
      omega
    have held := (sound.empty_iff inside).mpr occupied
    simp [some_linked, sound.bestPrice_eq occupied extreme valid, held, inside]

/-- Marking counts how often each slot is linked. -/
theorem SideStructure.markSide_eq
    (used : ∀ slot ∈ linkedSlots half.segmentCount queue, book.pool.contains slot)
    (few : (linkedSlots half.segmentCount queue).length ≤ book.config.maxOrders.toNat)
    (orders : List OrderIndex) :
    book.markSide half (fun slot => UInt8.ofNat (orders.count slot)) =
      some fun slot => UInt8.ofNat ((orders ++ linkedSlots half.segmentCount queue).count slot) := by
  let coordinates := (List.range half.segmentCount).flatMap fun segment =>
    (List.range 64).map fun offset => (segment, offset)
  have levels : levelsOf half = coordinates.map fun at_ => (half.segments at_.1).levels at_.2 := by
    simp only [coordinates, levelsOf, List.map_flatMap, List.map_map]
    rfl
  have linked : linkedSlots half.segmentCount queue =
      coordinates.flatMap fun at_ => queue at_.1 at_.2 := by
    simp only [coordinates, linkedSlots, List.flatMap_assoc, List.flatMap_map]
  have step : ∀ at_ ∈ coordinates, ∀ (orders : List OrderIndex) (rest : List OrderIndex),
      book.markLoop book.config.maxOrders.toNat ((half.segments at_.1).levels at_.2).head
        (fun slot => UInt8.ofNat (orders.count slot)) =
        some fun slot => UInt8.ofNat ((orders ++ queue at_.1 at_.2).count slot) := by
    rintro ⟨segment, offset⟩ listed orders -
    obtain ⟨_, inside, here⟩ := List.mem_flatMap.mp listed
    obtain ⟨_, bound, same⟩ := List.mem_map.mp here
    cases same
    have part := sublist_flatMap (fun at_ => queue at_.1 at_.2) listed
    rw [← linked] at part
    exact markLoop_eq (sound.levels segment (List.mem_range.mp inside) offset
      (List.mem_range.mp bound)).linked (fun slot member => used slot (part.subset member))
      (part.length_le.trans few)
  rw [markSide, levels, linked, List.foldlM_map]
  exact foldlM_collect (fun orders (_ : List OrderIndex) slot => UInt8.ofNat (orders.count slot))
    (fun at_ : ℕ × ℕ => queue at_.1 at_.2) (fun _ => []) step orders []

end Side

/-! ### The whole check -/

/-- Marks of one for every active slot and of none for the others pass the last loop. -/
theorem checkMarks_true {linked : List OrderIndex} (distinct : linked.Nodup)
    (capacity : book.pool.capacity = book.config.maxOrders)
    (used : ∀ slot, slot ∈ linked ↔ book.pool.contains slot)
    (known : ∀ slot, book.pool.contains slot →
      book.index.find (book.pool.orders slot).id = slot)
    (count : book.activeOrderCount = UInt32.ofNat linked.length) :
    book.checkMarks fun slot => UInt8.ofNat (linked.count slot) := by
  have mark : ∀ slot, UInt8.ofNat (linked.count slot) =
      if book.pool.contains slot then 1 else 0 := by
    intro slot
    split_ifs with here
    · rw [List.count_eq_one_of_mem distinct ((used slot).mpr here)]
      rfl
    · rw [List.count_eq_zero_of_not_mem fun member => here ((used slot).mp member)]
      rfl
  have tally (slots : List OrderIndex) (found : OrderCapacity) :
      slots.foldl (fun (count : OrderCapacity) slot =>
        if UInt8.ofNat (linked.count slot) = 1 then count + 1 else count) found =
        found + UInt32.ofNat (slots.filter fun slot => book.pool.contains slot).length := by
    induction slots generalizing found with
    | nil => simp
    | cons slot slots ih =>
      rw [List.foldl_cons, ih, mark slot, List.filter_cons]
      split_ifs with here
      · rw [List.length_cons, UInt32.ofNat_add, UInt32.add_assoc, UInt32.add_comm 1]
        rfl
      · contradiction
      · contradiction
      · rfl
  have all : ((OrderPool.allSlots book.config.maxOrders).filter fun slot =>
      book.pool.contains slot).Perm linked := by
    refine (List.perm_ext_iff_of_nodup ((OrderPool.nodup_allSlots _).filter _) distinct).mpr
      fun slot => ?_
    rw [List.mem_filter, OrderPool.mem_allSlots, used, ← capacity]
    exact ⟨fun both => both.2, fun here => ⟨(OrderPool.contains_iff.mp here).1, here⟩⟩
  have once : ¬ (OrderPool.allSlots book.config.maxOrders).any fun slot =>
      decide (UInt8.ofNat (linked.count slot) > 1) := by
    simp only [List.any_eq_true, decide_eq_true_eq, not_exists, not_and, mark]
    intro slot _
    split_ifs <;> decide
  have counted : (OrderPool.allSlots book.config.maxOrders).foldl
      (fun (count : OrderCapacity) slot =>
        if UInt8.ofNat (linked.count slot) = 1 then count + 1 else count) 0 =
      book.activeOrderCount := by
    rw [tally, all.length_eq, count, UInt32.zero_add]
  have each : (OrderPool.allSlots book.config.maxOrders).all fun slot =>
      if book.pool.contains slot then decide (UInt8.ofNat (linked.count slot) = 1) &&
        decide (book.index.find (book.pool.orders slot).id = slot)
      else decide (UInt8.ofNat (linked.count slot) = 0) := by
    refine List.all_eq_true.mpr fun slot _ => ?_
    rw [mark]
    split_ifs with here
    · simp [known slot here]
    · rfl
  unfold checkMarks
  rw [if_neg once, if_neg (not_not.mpr counted)]
  exact each

/-- The self-check accepts every book that has the structure of a book. -/
theorem Structure.validateInvariants_true (sound : book.Structure) :
    book.validateInvariants true true := by
  obtain ⟨free, chain, distinct, count, idle⟩ := sound.freelist
  obtain ⟨queue, bids, asks, once, used, size⟩ := sound.sides
  have short := OrderPool.length_le_capacity once fun slot member =>
    (OrderPool.contains_iff.mp ((used slot).mp member)).1
  rw [sound.capacity, List.length_append] at short
  have bidsUsed : ∀ slot ∈ linkedSlots book.bids.segmentCount (queue .bid),
      book.pool.contains slot := fun slot member =>
    (used slot).mp (List.mem_append_left _ member)
  have asksUsed : ∀ slot ∈ linkedSlots book.asks.segmentCount (queue .ask),
      book.pool.contains slot := fun slot member =>
    (used slot).mp (List.mem_append_right _ member)
  have active : book.activeOrderCount = UInt32.ofNat (linkedSlots book.bids.segmentCount (queue .bid) ++
      linkedSlots book.asks.segmentCount (queue .ask)).length := by
    rw [activeOrderCount, List.length_append, UInt32.ofNat_add, ← bids.orderCount,
      ← asks.orderCount, UInt32.ofNat_toNat, UInt32.ofNat_toNat]
  have total : book.activeOrderCount.toNat = (linkedSlots book.bids.segmentCount (queue .bid) ++
      linkedSlots book.asks.segmentCount (queue .ask)).length := by
    have most := book.config.maxOrders.toNat_lt
    rw [active, UInt32.toNat_ofNat_of_lt']
    rw [List.length_append]
    change _ < 2 ^ 32
    omega
  have marked : (book.markSide book.bids fun _ => 0).bind (book.markSide book.asks) =
      some fun slot => UInt8.ofNat ((linkedSlots book.bids.segmentCount (queue .bid) ++
        linkedSlots book.asks.segmentCount (queue .ask)).count slot) := by
    have first := bids.markSide_eq bidsUsed (by omega) []
    have second := asks.markSide_eq asksUsed (by omega)
      (linkedSlots book.bids.segmentCount (queue .bid))
    have unmarked : (fun slot : OrderIndex => UInt8.ofNat (([] : List OrderIndex).count slot)) =
        fun _ => 0 := rfl
    rw [unmarked, List.nil_append] at first
    rw [first, Option.bind_some, second]
  have known : ∀ slot, book.pool.contains slot →
      book.index.find (book.pool.orders slot).id = slot := by
    intro slot here
    obtain ⟨_, _, _, found⟩ := sound.indexed slot here
    exact found
  have entries : book.index.forEach fun id slot =>
      book.pool.contains slot && decide ((book.pool.orders slot).id = id) := by
    refine List.all_eq_true.mpr fun pos listed => ?_
    by_cases occupied : (book.index.buckets pos).state = .occupied
    · have entry : book.index.cells pos =
          some ((book.index.buckets pos).id, (book.index.buckets pos).slot) := by
        simp [OrderIdIndex.cells, occupied]
      obtain ⟨here, same⟩ := sound.entries pos (List.mem_range.mp listed) _ _ entry
      simp [here, same]
    · simp [occupied]
  rw [validateInvariants, OrderPool.validateFreelist_true free chain distinct count idle,
    bids.validateSide_true bidsUsed (by omega), asks.validateSide_true asksUsed (by omega), total,
    size, marked]
  simp only [checkMarks_true once sound.capacity used known active]
  simp [entries]

end OrderBook

end Fexma
