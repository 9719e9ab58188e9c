import Fexma.OrderBook.IndexHistory
import Fexma.OrderBook.Operations
import Fexma.OrderBook.ValidationProofs

/-! What the self-check proves of a book whose arrays have the sizes of its constructor and any
contents: its walks end, and what it accepts has the structure of a book, unless the index
stores an order twice while its size counts it once. -/
namespace Fexma

open LinkedQueue ProbeTable WordBitmap

/-! ### The walks -/

/-- A loop that succeeds has taken every step. -/
theorem foldlM_steps {α σ : Type} {step : σ → α → Option σ} {items : List α} {state last : σ}
    (done : items.foldlM step state = some last) {item : α} (listed : item ∈ items) :
    ∃ before after, step before item = some after := by
  induction items generalizing state with
  | nil => cases listed
  | cons first rest ih =>
    rw [List.foldlM_cons] at done
    obtain ⟨next, stepped, done⟩ := Option.bind_eq_some_iff.mp done
    rcases List.mem_cons.mp listed with rfl | later
    · exact ⟨state, next, stepped⟩
    · exact ih done later

/-- A counter below its last value counts on. -/
theorem toNat_counted {count : UInt32} (below : count.toNat + 1 < 2 ^ 32) :
    (count + 1).toNat = count.toNat + 1 := by
  rw [UInt32.toNat_add]
  exact Nat.mod_eq_of_lt below

namespace OrderPool

variable {pool : OrderPool} {current : OrderIndex}

/-- The walk along the freelist without a bound: `none` is a refusal. -/
inductive FreelistWalk (pool : OrderPool) : OrderIndex → (OrderIndex → UInt8) → OrderCapacity →
    Option ((OrderIndex → UInt8) × OrderCapacity) → Prop where
  | ended {seen : OrderIndex → UInt8} {count : OrderCapacity} :
    FreelistWalk pool invalidOrderIndex seen count (some (seen, count))
  | refused {current : OrderIndex} {seen : OrderIndex → UInt8} {count : OrderCapacity}
    (valid : current ≠ invalidOrderIndex)
    (wrong : current ≥ pool.capacity ∨ (pool.orders current).inUse = true ∨ seen current ≠ 0) :
    FreelistWalk pool current seen count none
  | tooMany {current : OrderIndex} {seen : OrderIndex → UInt8} {count : OrderCapacity}
    (valid : current ≠ invalidOrderIndex) (beyond : count + 1 > pool.capacity) :
    FreelistWalk pool current seen count none
  | step {current : OrderIndex} {seen : OrderIndex → UInt8} {count : OrderCapacity}
    {outcome : Option ((OrderIndex → UInt8) × OrderCapacity)}
    (valid : current ≠ invalidOrderIndex)
    (fine : ¬(current ≥ pool.capacity ∨ (pool.orders current).inUse = true ∨ seen current ≠ 0))
    (within : ¬count + 1 > pool.capacity)
    (rest : FreelistWalk pool (pool.orders current).next (Function.update seen current 1) (count + 1)
      outcome) :
    FreelistWalk pool current seen count outcome

/-- The counter ends the walk within the bound of the model. It is compared with the capacity at
every turn, so links that lead in a circle are refused. -/
theorem freelistLoop_walk (small : pool.capacity ≤ maxCapacity) {fuel : ℕ}
    {seen : OrderIndex → UInt8} {count : OrderCapacity} (counted : count ≤ pool.capacity)
    (enough : pool.capacity.toNat + 1 < fuel + count.toNat) :
    FreelistWalk pool current seen count (pool.freelistLoop fuel current seen count) := by
  have most : pool.capacity.toNat ≤ 2 ^ 32 - 2 := UInt32.le_iff_toNat_le.mp small
  induction fuel generalizing current seen count with
  | zero =>
    rw [UInt32.le_iff_toNat_le] at counted
    omega
  | succ fuel ih =>
    rw [UInt32.le_iff_toNat_le] at counted
    have next := toNat_counted (by omega : count.toNat + 1 < 2 ^ 32)
    unfold freelistLoop
    by_cases ended : current = invalidOrderIndex
    · rw [if_pos ended, ended]
      exact .ended
    rw [if_neg ended]
    simp only [Bool.or_eq_true, decide_eq_true_eq, or_assoc]
    by_cases wrong : current ≥ pool.capacity ∨ (pool.orders current).inUse = true ∨ seen current ≠ 0
    · rw [if_pos wrong]
      exact .refused ended wrong
    rw [if_neg wrong]
    by_cases beyond : count + 1 > pool.capacity
    · rw [if_pos beyond]
      exact .tooMany ended beyond
    rw [if_neg beyond]
    refine .step ended wrong beyond (ih (UInt32.not_lt.mp beyond) ?_)
    rw [next]
    omega

/-- A walk that comes to the end has followed a chain of unused slots. -/
theorem freelistLoop_sound {fuel : ℕ} {seen seen' : OrderIndex → UInt8} {count count' : OrderCapacity}
    (walked : pool.freelistLoop fuel current seen count = some (seen', count')) :
    ∃ free, Chain pool.next invalidOrderIndex current free ∧
      (∀ slot ∈ free, slot < pool.capacity ∧ (pool.orders slot).inUse = false) ∧
      (∀ slot, seen' slot = if slot ∈ free then 1 else seen slot) ∧
      count' = count + UInt32.ofNat free.length := by
  induction fuel generalizing current seen count with
  | zero => cases walked
  | succ fuel ih =>
    unfold freelistLoop at walked
    split_ifs at walked with ended wrong beyond
    · cases walked
      refine ⟨[], ended, List.forall_mem_nil _, fun slot => ?_, ?_⟩
      · rw [if_neg List.not_mem_nil]
      · exact (UInt32.add_zero _).symm
    · simp only [Bool.or_eq_true, decide_eq_true_eq, not_or, ge_iff_le, UInt32.not_le,
        Bool.not_eq_true] at wrong
      obtain ⟨⟨bound, unused⟩, -⟩ := wrong
      obtain ⟨free, chain, idle, marked, counted⟩ := ih walked
      refine ⟨current :: free, ⟨rfl, ended, chain⟩, ?_, fun slot => ?_, ?_⟩
      · intro slot member
        rcases List.mem_cons.mp member with rfl | later
        · exact ⟨bound, unused⟩
        · exact idle slot later
      · rw [marked]
        by_cases here : slot = current
        · subst here
          simp
        · simp [here]
      · rw [counted, List.length_cons, UInt32.ofNat_add, UInt32.add_assoc, UInt32.add_comm 1]
        rfl

/-- An accepted freelist holds exactly the unused slots, each once. -/
theorem validateFreelist_sound {scratch : Bool} (accepted : pool.validateFreelist scratch = true) :
    ∃ free, Chain pool.next invalidOrderIndex pool.freeHead free ∧ free.Nodup ∧
      pool.freeCount.toNat = free.length ∧
      ∀ slot, slot ∈ free ↔ slot < pool.capacity ∧ ¬pool.contains slot := by
  unfold validateFreelist at accepted
  split_ifs at accepted with zero _
  · simp only [Bool.and_eq_true, decide_eq_true_eq] at accepted
    obtain ⟨head, none_free⟩ := accepted
    refine ⟨[], head, .nil, ?_, fun slot => ?_⟩
    · rw [none_free]
      rfl
    · rw [zero]
      exact iff_of_false List.not_mem_nil fun both => UInt32.not_lt_zero both.1
  · cases walked : pool.freelistLoop (pool.capacity.toNat + 2) pool.freeHead (fun _ => 0) 0 with
    | none =>
      rw [walked] at accepted
      cases accepted
    | some outcome =>
      obtain ⟨seen, count⟩ := outcome
      rw [walked] at accepted
      simp only [Bool.and_eq_true, decide_eq_true_eq, List.all_eq_true] at accepted
      obtain ⟨counted, marks⟩ := accepted
      obtain ⟨free, chain, idle, marked, total⟩ := freelistLoop_sound walked
      have distinct := chain_nodup chain
      have short := length_le_capacity distinct fun slot member => (idle slot member).1
      refine ⟨free, chain, distinct, ?_, fun slot => ?_⟩
      · have most := pool.capacity.toNat_lt
        rw [← counted, total, UInt32.zero_add, UInt32.toNat_ofNat_of_lt' (by change _ < 2 ^ 32; omega)]
      · constructor
        · intro member
          obtain ⟨bound, unused⟩ := idle slot member
          refine ⟨bound, fun used => ?_⟩
          rw [(contains_iff.mp used).2] at unused
          cases unused
        · rintro ⟨bound, absent⟩
          have mark := marks slot (mem_allSlots.mpr bound)
          have unused : (pool.orders slot).inUse = false := by
            cases used : (pool.orders slot).inUse with
            | false => rfl
            | true => exact absurd (contains_iff.mpr ⟨bound, used⟩) absent
          rw [unused, marked] at mark
          by_contra missing
          rw [if_neg missing] at mark
          exact absurd mark (by decide)

end OrderPool

namespace OrderIdIndex

variable {index : OrderIdIndex} {id : OrderId} {pos fuel : ℕ}

/-- What a search finds is stored, whatever the buckets hold. -/
theorem findLoop_stored (inside : pos < index.bucketCount)
    (found : index.findLoop id fuel pos ≠ invalidOrderIndex) :
    Maps index id (index.findLoop id fuel pos) := by
  induction fuel generalizing pos with
  | zero => exact absurd rfl found
  | succ fuel ih =>
    unfold findLoop at found ⊢
    dsimp only at found ⊢
    split_ifs at found ⊢ with empty here
    · exact absurd rfl found
    · refine ⟨pos, inside, ?_⟩
      rw [cells, if_pos here.1, here.2]
    · refine ih ?_ found
      have below : index.advance pos ≤ index.bucketCount - 1 := Nat.and_le_right
      omega

theorem find_stored (found : index.find id ≠ invalidOrderIndex) : Maps index id (index.find id) := by
  unfold find at found ⊢
  split_ifs at found ⊢ with none_there
  · exact absurd rfl found
  · refine findLoop_stored ?_ found
    have below : index.home id ≤ index.bucketCount - 1 := Nat.and_le_right
    omega

/-- The size counts the buckets exactly when no key is held twice, provided it counts the keys. -/
theorem distinct_iff_length {ids : List OrderId} (distinct : ids.Nodup)
    (same : ∀ id, id ∈ ids ↔ ∃ slot, Maps index id slot) :
    Distinct index.bucketCount index.cells ↔ ids.length = index.storedIds.length := by
  rw [← nodup_keys_iff]
  have stored : ∀ id, id ∈ ids ↔ id ∈ index.storedIds := fun id => (same id).trans mem_storedIds.symm
  constructor
  · intro once
    exact ((List.perm_ext_iff_of_nodup distinct once).mpr stored).length_eq
  · intro long
    have within : ids.Subperm index.storedIds :=
      List.subperm_of_subset distinct fun id member => (stored id).mp member
    exact (within.perm_of_length_le long.ge).nodup_iff.mp distinct

end OrderIdIndex

namespace OrderBook

variable {book : OrderBook} {side : Side} {half : SideBook side} {segment offset : ℕ}
variable {price : PriceTick} {current previous : OrderIndex}

/-- The walk along one FIFO without a bound. -/
inductive LevelWalk (book : OrderBook) (side : Side) (price : PriceTick) :
    OrderIndex → OrderIndex → UInt32 → AggregateQuantity →
      Option (OrderIndex × UInt32 × AggregateQuantity) → Prop where
  | ended {previous : OrderIndex} {count : UInt32} {quantity : AggregateQuantity} :
    LevelWalk book side price invalidOrderIndex previous count quantity
      (some (previous, count, quantity))
  | refused {current previous : OrderIndex} {count : UInt32} {quantity : AggregateQuantity}
    (valid : current ≠ invalidOrderIndex)
    (wrong : ¬(Placed book side price current ∧ (book.pool.orders current).prev = previous)) :
    LevelWalk book side price current previous count quantity none
  | tooMany {current previous : OrderIndex} {count : UInt32} {quantity : AggregateQuantity}
    (valid : current ≠ invalidOrderIndex) (beyond : count + 1 > book.config.maxOrders) :
    LevelWalk book side price current previous count quantity none
  | step {current previous : OrderIndex} {count : UInt32} {quantity : AggregateQuantity}
    {outcome : Option (OrderIndex × UInt32 × AggregateQuantity)}
    (valid : current ≠ invalidOrderIndex)
    (fine : Placed book side price current ∧ (book.pool.orders current).prev = previous)
    (within : ¬count + 1 > book.config.maxOrders)
    (rest : LevelWalk book side price (book.pool.orders current).next current (count + 1)
      (quantity + (book.pool.orders current).remaining.toUInt64) outcome) :
    LevelWalk book side price current previous count quantity outcome

/-- One turn of the walk, with its conditions put together. -/
theorem levelLoop_succ {fuel : ℕ} {count : UInt32} {quantity : AggregateQuantity}
    (valid : current ≠ invalidOrderIndex) :
    (¬(Placed book side price current ∧ (book.pool.orders current).prev = previous) →
      book.levelLoop side price (fuel + 1) current previous count quantity = none) ∧
    (Placed book side price current ∧ (book.pool.orders current).prev = previous →
      book.levelLoop side price (fuel + 1) current previous count quantity =
        if count + 1 > book.config.maxOrders then none
        else book.levelLoop side price fuel (book.pool.orders current).next current (count + 1)
          (quantity + (book.pool.orders current).remaining.toUInt64)) := by
  have unfit : (decide ((book.pool.orders current).remaining = 0) ||
      !book.priceInRange (book.pool.orders current).price ||
      decide ((book.pool.orders current).side ≠ side) ||
      decide ((book.pool.orders current).price ≠ price) ||
      decide ((book.pool.orders current).prev ≠ previous)) = false ↔
      ((book.pool.orders current).side = side ∧ (book.pool.orders current).price = price ∧
        book.priceInRange (book.pool.orders current).price ∧
        (book.pool.orders current).remaining ≠ 0) ∧
      (book.pool.orders current).prev = previous := by
    simp only [Bool.or_eq_false_iff, decide_eq_false_iff_not, Bool.not_eq_false', not_not]
    tauto
  rw [levelLoop, if_neg valid]
  by_cases used : book.pool.contains current = true
  case neg =>
    rw [if_pos (by simp [used])]
    exact ⟨fun _ => rfl, fun fine => absurd fine.1.1 used⟩
  rw [if_neg (by simp [used])]
  dsimp only
  constructor
  · intro wrong
    rw [if_pos]
    by_contra fine
    obtain ⟨placed, back⟩ := unfit.mp (Bool.not_eq_true _ ▸ fine)
    exact wrong ⟨⟨used, placed⟩, back⟩
  · rintro ⟨⟨-, placed⟩, back⟩
    rw [if_neg (by rw [unfit.mpr ⟨placed, back⟩]; exact Bool.false_ne_true)]

/-- The counter ends the walk within the bound of the model, as it does for the freelist. -/
theorem levelLoop_walk (small : book.config.maxOrders ≤ OrderPool.maxCapacity) {fuel : ℕ}
    {count : UInt32} {quantity : AggregateQuantity} (counted : count ≤ book.config.maxOrders)
    (enough : book.config.maxOrders.toNat + 1 < fuel + count.toNat) :
    LevelWalk book side price current previous count quantity
      (book.levelLoop side price fuel current previous count quantity) := by
  have most : book.config.maxOrders.toNat ≤ 2 ^ 32 - 2 := UInt32.le_iff_toNat_le.mp small
  induction fuel generalizing current previous count quantity with
  | zero =>
    rw [UInt32.le_iff_toNat_le] at counted
    omega
  | succ fuel ih =>
    rw [UInt32.le_iff_toNat_le] at counted
    have next := toNat_counted (by omega : count.toNat + 1 < 2 ^ 32)
    by_cases ended : current = invalidOrderIndex
    · rw [levelLoop, if_pos ended, ended]
      exact .ended
    obtain ⟨refused, onward⟩ := @levelLoop_succ book side price current previous fuel count quantity ended
    by_cases fine : Placed book side price current ∧ (book.pool.orders current).prev = previous
    case neg =>
      rw [refused fine]
      exact .refused ended fine
    rw [onward fine]
    by_cases beyond : count + 1 > book.config.maxOrders
    · rw [if_pos beyond]
      exact .tooMany ended beyond
    rw [if_neg beyond]
    refine .step ended fine beyond (ih (UInt32.not_lt.mp beyond) ?_)
    rw [next]
    omega

/-- A walk that comes to the end has followed the links of a FIFO of the level. -/
theorem levelLoop_sound {fuel : ℕ} {count count' : UInt32} {quantity quantity' : AggregateQuantity}
    {last : OrderIndex}
    (walked : book.levelLoop side price fuel current previous count quantity =
      some (last, count', quantity')) :
    ∃ queue, Segment book.pool.prev book.pool.next previous current queue last invalidOrderIndex ∧
      (∀ slot ∈ queue, Placed book side price slot) ∧ queue.length < fuel ∧
      count' = count + UInt32.ofNat queue.length ∧
      quantity' = quantity + UInt64.ofNat (SideBook.aggregate book.pool queue) := by
  induction fuel generalizing current previous count quantity with
  | zero => cases walked
  | succ fuel ih =>
    by_cases ended : current = invalidOrderIndex
    · rw [levelLoop, if_pos ended] at walked
      cases walked
      exact ⟨[], ⟨ended, rfl⟩, List.forall_mem_nil _, Nat.succ_pos _, (UInt32.add_zero _).symm,
        (UInt64.add_zero _).symm⟩
    obtain ⟨refused, onward⟩ := @levelLoop_succ book side price current previous fuel count quantity ended
    by_cases fine : Placed book side price current ∧ (book.pool.orders current).prev = previous
    case neg =>
      rw [refused fine] at walked
      cases walked
    rw [onward fine] at walked
    split_ifs at walked
    obtain ⟨queue, run, placed, short, counted, owed⟩ := ih walked
    refine ⟨current :: queue, ⟨rfl, fine.2, run⟩, ?_, Nat.succ_lt_succ short, ?_, ?_⟩
    · intro slot member
      rcases List.mem_cons.mp member with rfl | later
      · exact fine.1
      · exact placed slot later
    · rw [counted, List.length_cons, UInt32.ofNat_add, UInt32.add_assoc, UInt32.add_comm 1]
      rfl
    · rw [owed, SideBook.aggregate, SideBook.aggregate, List.map_cons, List.sum_cons, UInt64.ofNat_add,
        UInt64.add_assoc, UInt64.ofNat_uInt32ToNat]

/-! ### Levels -/

/-- The sizes of a book that its constructor has made, with any contents of its arrays: no word
lies behind the last one of a bitmap. -/
structure Constructed (book : OrderBook) : Prop where
  small : book.config.maxOrders ≤ OrderPool.maxCapacity
  capacity : book.pool.capacity = book.config.maxOrders
  shaped : ∀ side, (book.half side).Shaped
  words : ∀ side word, (book.half side).segmentOccupancyWordCount ≤ word →
    (book.half side).segmentOccupancy word = 0

/-- The slots that the links of a level lead to. -/
def fifo (book : OrderBook) (level : PriceLevel) : List OrderIndex :=
  follow book.pool.next invalidOrderIndex (book.config.maxOrders.toNat + 2) level.head

/-- An accepted level is a FIFO of orders that belong there. -/
structure SoundLevel (book : OrderBook) (half : SideBook side) (segment offset : ℕ) : Prop where
  held : LevelStructure book.pool ((half.segments segment).levels offset)
    (book.fifo ((half.segments segment).levels offset))
  placed : ∀ slot ∈ book.fifo ((half.segments segment).levels offset),
    Placed book side (half.priceFromLocal segment offset) slot
  distinct : (book.fifo ((half.segments segment).levels offset)).Nodup

/-- An accepted level is sound: its links, its counter and its total agree. -/
theorem validateLevel_sound {tally tally' : SideTally}
    (accepted : book.validateLevel half segment tally offset = some tally') :
    SoundLevel book half segment offset := by
  unfold validateLevel at accepted
  dsimp only at accepted
  by_cases empty : ((half.segments segment).levels offset).orderCount = 0
  · rw [if_pos empty] at accepted
    split_ifs at accepted with clear
    simp only [Bool.or_eq_true, decide_eq_true_eq, not_or, ne_eq, not_not] at clear
    obtain ⟨⟨head, tail⟩, owed⟩ := clear
    have none_linked : book.fifo ((half.segments segment).levels offset) = [] := if_pos head
    refine ⟨?_, ?_, ?_⟩
    · rw [none_linked]
      refine ⟨⟨head, tail⟩, ?_, ?_⟩
      · rw [empty]
        rfl
      · rw [owed]
        rfl
    · rw [none_linked]
      exact nofun
    · rw [none_linked]
      exact .nil
  · rw [if_neg empty] at accepted
    split at accepted
    · cases accepted
    split at accepted
    · cases accepted
    obtain ⟨⟨last, count, quantity⟩, walked, ends⟩ := Option.bind_eq_some_iff.mp accepted
    clear accepted
    dsimp only at ends
    split at ends
    · cases ends
    next totals =>
    simp only [Bool.or_eq_true, decide_eq_true_eq, not_or, ne_eq, not_not] at totals
    obtain ⟨⟨tail, counted⟩, owed⟩ := totals
    obtain ⟨queue, run, placed, short, count_eq, quantity_eq⟩ := levelLoop_sound walked
    have valid : invalidOrderIndex ∉ queue := fun member =>
      OrderPool.contains_valid (placed _ member).1 rfl
    have chain := chain_of_segment run valid
    have distinct := chain_nodup chain
    have same : book.fifo ((half.segments segment).levels offset) = queue := follow_chain chain short
    have few := OrderPool.length_le_capacity distinct fun slot member =>
      (OrderPool.contains_iff.mp (placed slot member).1).1
    have most := book.pool.capacity.toNat_lt
    have total := @aggregate_lt queue book.pool distinct valid
    refine ⟨?_, ?_, ?_⟩
    · rw [same]
      refine ⟨tail ▸ run, ?_, ?_⟩
      · rw [← counted, count_eq, UInt32.zero_add,
          UInt32.toNat_ofNat_of_lt' (by change _ < 2 ^ 32; omega)]
      · rw [← owed, quantity_eq, UInt64.zero_add, UInt64.toNat_ofNat_of_lt' total]
    · rw [same]
      exact placed
    · rw [same]
      exact distinct

/-! ### Segments and sides -/

/-- An accepted segment. -/
structure SoundSegment (book : OrderBook) (half : SideBook side) (segment : ℕ) : Prop where
  levels : ∀ offset < 64, SoundLevel book half segment offset
  mask : (half.segments segment).activeMask = expectedMask (half.segments segment)
  occupancy : bitAt half.segmentOccupancy segment = !(half.segments segment).empty

theorem validateSegment_sound {tally tally' : SideTally}
    (accepted : book.validateSegment half tally segment = some tally') :
    SoundSegment book half segment := by
  obtain ⟨counted, levels, checks⟩ := Option.bind_eq_some_iff.mp accepted
  split_ifs at checks with mask occupancy
  refine ⟨fun offset bound => ?_, not_not.mp mask, not_not.mp occupancy⟩
  obtain ⟨before, after, level⟩ := foldlM_steps levels (List.mem_range.mpr bound)
  exact validateLevel_sound level

/-- The queues that the links of a side lead to. -/
def fifos (book : OrderBook) (half : SideBook side) (segment offset : ℕ) : List OrderIndex :=
  book.fifo ((half.segments segment).levels offset)

theorem SoundLevel.few (level : SoundLevel book half segment offset)
    (capacity : book.pool.capacity = book.config.maxOrders) :
    (book.fifos half segment offset).length ≤ book.config.maxOrders.toNat := by
  rw [← capacity]
  exact OrderPool.length_le_capacity level.distinct fun slot member =>
    (OrderPool.contains_iff.mp (level.placed slot member).1).1

/-- An accepted segment adds its levels to any tally. -/
theorem SoundSegment.validateSegment_eq (sound : SoundSegment book half segment)
    (capacity : book.pool.capacity = book.config.maxOrders) (orders : List OrderIndex)
    (prices : List PriceTick) :
    book.validateSegment half (tallied book side orders prices) segment =
      some (tallied book side (orders ++ (List.range 64).flatMap (book.fifos half segment))
        (prices ++ (List.range 64).flatMap fun offset =>
          levelPrices (book.fifos half segment offset) (half.priceFromLocal segment offset))) := by
  have levels : ∀ offset ∈ List.range 64, ∀ orders prices,
      book.validateLevel half segment (tallied book side orders prices) offset =
        some (tallied book side (orders ++ book.fifos half segment offset) (prices ++
          levelPrices (book.fifos half segment offset) (half.priceFromLocal segment offset))) := by
    intro offset listed orders prices
    have level := sound.levels offset (List.mem_range.mp listed)
    exact validateLevel_eq level.held level.placed (level.few capacity)
  rw [validateSegment, foldlM_collect (tallied book side) _ _ levels, Option.bind_some,
    if_neg (not_not.mpr sound.mask), if_neg (not_not.mpr sound.occupancy)]

/-! ### The best price -/

theorem betterPrice_trans {first second third : PriceTick} (better : betterPrice side first second)
    (further : betterPrice side second third) : betterPrice side first third := by
  cases side <;> simp only [betterPrice, decide_eq_true_eq] at better further ⊢
  · exact UInt32.lt_trans further better
  · exact UInt32.lt_trans better further

theorem betterPrice_total {first second : PriceTick} (worse : betterPrice side first second = false) :
    first = second ∨ betterPrice side second first := by
  cases side <;>
    simp only [betterPrice, decide_eq_true_eq, decide_eq_false_iff_not, UInt32.lt_iff_toNat_lt,
      ← UInt32.toNat_inj, gt_iff_lt] at worse ⊢ <;> omega

/-- The loop ends with the best price it has met. -/
theorem bestOf_sound (prices : List PriceTick) :
    (bestOf side prices = none → prices = []) ∧
      ∀ best, bestOf side prices = some best →
        ∀ other ∈ prices, other = best ∨ betterPrice side best other := by
  induction prices using List.reverseRecOn with
  | nil =>
    refine ⟨fun _ => rfl, fun best met => ?_⟩
    cases met
  | append_singleton prices last ih =>
    obtain ⟨none_met, best_met⟩ := ih
    have turn : bestOf side (prices ++ [last]) =
        if (bestOf side prices).all (betterPrice side last) then some last
        else bestOf side prices := by
      rw [bestOf, List.foldl_append]
      rfl
    rw [turn]
    cases before : bestOf side prices with
    | none =>
      rw [none_met before]
      refine ⟨fun missed => (by cases missed), fun best same other member => ?_⟩
      cases same
      exact .inl (List.mem_singleton.mp member)
    | some held =>
      simp only [Option.all_some]
      by_cases better : betterPrice side last held = true
      case pos =>
        rw [if_pos better]
        refine ⟨fun missed => (by cases missed), fun best same other member => ?_⟩
        cases same
        rcases List.mem_append.mp member with earlier | here
        · rcases best_met held before other earlier with rfl | behind
          · exact .inr better
          · exact .inr (betterPrice_trans better behind)
        · exact .inl (List.mem_singleton.mp here)
      case neg =>
        rw [if_neg better]
        refine ⟨fun missed => (by cases missed), fun best same other member => ?_⟩
        cases same
        rcases List.mem_append.mp member with earlier | here
        · exact best_met _ before other earlier
        · rw [List.mem_singleton.mp here]
          exact betterPrice_total (Bool.not_eq_true _ ▸ better)

/-- What the checks after the loop over the segments have compared. -/
theorem validateSide_checks {tally : SideTally} (accepted : book.validateSide half = true)
    (walked : (List.range half.segmentCount).foldlM (book.validateSegment half) {} = some tally) :
    half.segmentOccupancyWordCount = (half.segmentCount + 63) / 64 ∧ strayBits half = false ∧
      tally.countedOrders = half.orderCount ∧ tally.countedQuantity = half.totalQuantity ∧
      (half.orderCount = 0 → half.bestSegment = SideBook.invalidSegment) ∧
      (half.orderCount ≠ 0 → half.bestSegment < half.segmentCount ∧
        (half.segments half.bestSegment).empty = false) ∧
      (tally.expectedBest.isSome ↔ half.orderCount ≠ 0) ∧
      ∀ best, tally.expectedBest = some best → half.bestPrice = best := by
  rw [validateSide, walked] at accepted
  dsimp only at accepted
  split at accepted
  · cases accepted
  next words =>
  split at accepted
  · cases accepted
  next stray =>
  split at accepted
  · cases accepted
  next totals =>
  split at accepted
  · cases accepted
  next idle =>
  split at accepted
  · cases accepted
  next busy =>
  split at accepted
  · cases accepted
  next met =>
  simp only [Bool.or_eq_true, Bool.and_eq_true, decide_eq_true_eq, not_or, not_and, ne_eq, not_not,
    Bool.not_eq_true', decide_eq_false_iff_not, ge_iff_le, Nat.not_le, Bool.not_eq_true]
    at words stray totals idle busy met
  refine ⟨words, stray, totals.1, totals.2, idle, busy, ?_, fun best same => ?_⟩
  · rw [met]
    simp
  · rw [same] at accepted
    exact of_decide_eq_true accepted

section Side
variable (constructed : Constructed book) (side)
variable (segments : ∀ segment < (book.half side).segmentCount,
  SoundSegment book (book.half side) segment)
include constructed segments

/-- The loop over the segments of an accepted side counts what is linked. -/
theorem tallied_side :
    (List.range (book.half side).segmentCount).foldlM (book.validateSegment (book.half side)) {} =
      some (tallied book side
        (linkedSlots (book.half side).segmentCount (book.fifos (book.half side)))
        (occupiedPrices (book.half side) (book.fifos (book.half side)))) :=
  foldlM_collect (tallied book side) _ _ (fun segment listed orders prices =>
    (segments segment (List.mem_range.mp listed)).validateSegment_eq constructed.capacity orders
      prices) [] []

omit segments in
/-- Different coordinates have different prices. -/
theorem price_toNat (inside : segment < (book.half side).segmentCount) (bound : offset < 64) :
    ((book.half side).priceFromLocal segment offset).toNat =
      ((book.half side).baseSegment + segment) * 64 + offset := by
  have value := @priceAt_toNat _ _ (segment * 64 + offset) (constructed.shaped side) (by omega)
  have word : (segment * 64 + offset) / 64 = segment := by omega
  have bit : (segment * 64 + offset) % 64 = offset := by omega
  rw [word, bit] at value
  omega

/-- A slot is linked once, at the level of its price. -/
theorem nodup_linkedSlots :
    (linkedSlots (book.half side).segmentCount (book.fifos (book.half side))).Nodup := by
  have level (n : ℕ) (listed : n ∈ List.range ((book.half side).segmentCount * 64)) :
      SoundLevel book (book.half side) (n / 64) (n % 64) :=
    (segments (n / 64) (by have := List.mem_range.mp listed; omega)).levels (n % 64)
      (Nat.mod_lt _ (by decide))
  rw [linkedSlots_eq, List.nodup_flatMap]
  refine ⟨fun n listed => (level n listed).distinct, ?_⟩
  refine List.nodup_range.pairwise_of_forall_ne fun n listed other listed' apart slot here there => ?_
  have first := ((level n listed).placed slot here).2.2.1
  have second := ((level other listed').placed slot there).2.2.1
  have value := @priceAt_toNat _ _ n (constructed.shaped side) (List.mem_range.mp listed)
  have value' := @priceAt_toNat _ _ other (constructed.shaped side) (List.mem_range.mp listed')
  rw [← first, second, value'] at value
  omega

omit constructed in
theorem used_linkedSlots : ∀ slot ∈ linkedSlots (book.half side).segmentCount
    (book.fifos (book.half side)), book.pool.contains slot ∧ (book.pool.orders slot).side = side := by
  intro slot member
  obtain ⟨segment, inside, offset, bound, here⟩ := mem_linkedSlots.mp member
  have placed := ((segments segment inside).levels offset bound).placed slot here
  exact ⟨placed.1, placed.2.1⟩

omit constructed in
theorem fifo_eq_nil_iff (inside : segment < (book.half side).segmentCount) (bound : offset < 64) :
    (((book.half side).segments segment).levels offset).orderCount = 0 ↔
      book.fifos (book.half side) segment offset = [] := by
  have count := ((segments segment inside).levels offset bound).held.orderCount
  rw [← UInt32.toNat_inj, count, UInt32.toNat_zero, List.length_eq_zero_iff]
  rfl

omit constructed in
theorem mask_iff (inside : segment < (book.half side).segmentCount) (bound : offset < 64) :
    ((book.half side).segments segment).activeMask.getLsbD offset = true ↔
      book.fifos (book.half side) segment offset ≠ [] := by
  rw [(segments segment inside).mask, expectedMask, getLsbD_expectedMask bound, Ne,
    fifo_eq_nil_iff side segments inside bound]
  simp [bound]

omit constructed in
/-- A segment whose mask is not empty has a level that is not. -/
theorem occupied_iff (inside : segment < (book.half side).segmentCount) :
    ((book.half side).segments segment).empty = false ↔
      OccupiedSegment (book.fifos (book.half side)) (book.half side).segmentCount segment := by
  rw [PriceSegment.empty, beq_eq_false_iff_ne, ne_zero_iff]
  constructor
  · rintro ⟨offset, bound, set⟩
    exact ⟨inside, offset, bound, (mask_iff side segments inside bound).mp set⟩
  · rintro ⟨-, offset, bound, nonempty⟩
    exact ⟨offset, bound, (mask_iff side segments inside bound).mpr nonempty⟩

omit segments in
/-- No bit stands for a segment that is not there. -/
theorem bitAt_beyond (clear : strayBits (book.half side) = false)
    (beyond : (book.half side).segmentCount ≤ segment) :
    bitAt (book.half side).segmentOccupancy segment = false := by
  have words : (book.half side).segmentOccupancyWordCount =
      ((book.half side).segmentCount + 63) / 64 := (constructed.shaped side).words
  by_cases outside : (book.half side).segmentOccupancyWordCount ≤ segment / 64
  · rw [bitAt, constructed.words side _ outside]
    exact BitVec.getLsbD_zero
  · have last : segment / 64 = (book.half side).segmentOccupancyWordCount - 1 := by omega
    have some_words : (book.half side).segmentOccupancyWordCount ≠ 0 := by omega
    have some_used : (book.half side).segmentCount % 64 ≠ 0 := by omega
    have above : (book.half side).segmentCount % 64 ≤ segment % 64 := by omega
    have bound := Nat.mod_lt segment (by decide : 64 > 0)
    have masked : (book.half side).segmentOccupancy ((book.half side).segmentOccupancyWordCount - 1) &&&
        ~~~((1#64 <<< ((book.half side).segmentCount % 64)) - 1#64) = 0 := by
      by_contra stray
      simp [strayBits, some_words, some_used] at clear
      exact stray clear
    have bit := congrArg (BitVec.getLsbD · (segment % 64)) masked
    have free : ((1#64 <<< ((book.half side).segmentCount % 64)) - 1#64).getLsbD (segment % 64) =
        false := by
      rw [BitVec.getLsbD, usedBits_toNat, Nat.testBit_two_pow_sub_one]
      exact decide_eq_false (Nat.not_lt.mpr above)
    rw [BitVec.getLsbD_and, BitVec.getLsbD_not, free] at bit
    rw [bitAt, last]
    simpa [bound] using bit

/-- The best segment of an accepted side is the best of the occupied ones. -/
theorem best_extreme (inside : (book.half side).bestSegment < (book.half side).segmentCount)
    (occupied : ((book.half side).segments (book.half side).bestSegment).empty = false)
    (found : bestOf side (occupiedPrices (book.half side) (book.fifos (book.half side))) =
      some (book.half side).bestPrice)
    (other : OccupiedSegment (book.fifos (book.half side)) (book.half side).segmentCount segment) :
    SideBook.NotWorse side (book.half side).bestSegment segment := by
  obtain ⟨inside', offset, bound, nonempty⟩ := other
  have nonzero : ((book.half side).segments (book.half side).bestSegment).activeMask ≠ 0 := by
    rwa [PriceSegment.empty, beq_eq_false_iff_ne] at occupied
  obtain ⟨best_bound, -, -⟩ := SideBook.bestOffset_spec side nonzero
  have wide := ((book.half side).priceFromLocal (book.half side).bestSegment 0).toNat_lt
  rw [price_toNat side constructed inside (by decide)] at wide
  have valid : (book.half side).bestSegment ≠ SideBook.invalidSegment := by
    intro invalid
    rw [invalid, SideBook.invalidSegment] at wide
    omega
  have listed := mem_occupiedPrices.mpr ⟨segment, inside', offset, bound, nonempty, rfl⟩
  have behind := (bestOf_sound _).2 _ found _ listed
  rw [SideBook.bestPrice, if_neg valid] at behind
  have here := price_toNat side constructed inside best_bound
  have there := price_toNat side constructed inside' bound
  cases side <;>
    simp only [betterPrice, decide_eq_true_eq, gt_iff_lt, UInt32.lt_iff_toNat_lt, ← UInt32.toNat_inj,
      here, there, SideBook.NotWorse] at behind ⊢ <;> omega

omit constructed segments in
theorem validateSide_segments (accepted : book.validateSide (book.half side) = true) :
    ∀ segment < (book.half side).segmentCount, SoundSegment book (book.half side) segment := by
  intro segment inside
  unfold validateSide at accepted
  cases walked : (List.range (book.half side).segmentCount).foldlM
      (book.validateSegment (book.half side)) {} with
  | none =>
    rw [walked] at accepted
    cases accepted
  | some tally =>
    obtain ⟨before, after, step⟩ := foldlM_steps walked (List.mem_range.mpr inside)
    exact validateSegment_sound step

/-- An accepted side has the structure of a side. -/
theorem validateSide_sound (accepted : book.validateSide (book.half side) = true) :
    SideStructure book (book.half side) (book.fifos (book.half side)) := by
  have distinct := nodup_linkedSlots side constructed segments
  have used := used_linkedSlots side segments
  have valid : invalidOrderIndex ∉ linkedSlots (book.half side).segmentCount
      (book.fifos (book.half side)) := fun member => OrderPool.contains_valid (used _ member).1 rfl
  have few := SideBook.length_lt distinct valid
  have owed := @aggregate_lt _ book.pool distinct valid
  obtain ⟨words, stray, counted, quantity, idle, busy, met, best⟩ :=
    validateSide_checks accepted (tallied_side side constructed segments)
  dsimp only [tallied] at counted quantity met best
  have empty_iff : (book.half side).orderCount = 0 ↔
      linkedSlots (book.half side).segmentCount (book.fifos (book.half side)) = [] := by
    rw [← counted, ← UInt32.toNat_inj, UInt32.toNat_ofNat_of_lt' few, UInt32.toNat_zero,
      List.length_eq_zero_iff]
  refine
    { levels := fun segment inside offset bound => ((segments segment inside).levels offset bound).held
      orders := fun segment inside offset bound slot listed =>
        (((segments segment inside).levels offset bound).placed slot listed).2
      prices := fun segment inside offset bound => price_toNat side constructed inside bound
      mask := fun segment inside offset bound => mask_iff side segments inside bound
      words := words
      occupancy := fun segment => ?_
      best := ?_
      orderCount := by rw [← counted, UInt32.toNat_ofNat_of_lt' few]
      totalQuantity := by rw [← quantity, UInt64.toNat_ofNat_of_lt' owed] }
  · by_cases inside : segment < (book.half side).segmentCount
    · rw [(segments segment inside).occupancy, Bool.not_eq_true', occupied_iff side segments inside]
    · rw [bitAt_beyond side constructed stray (Nat.not_lt.mp inside)]
      exact iff_of_false Bool.false_ne_true fun occupied => inside occupied.1
  · by_cases empty : (book.half side).orderCount = 0
    · exact .inl ⟨empty_iff.mp empty, idle empty⟩
    · obtain ⟨inside, occupied⟩ := busy empty
      obtain ⟨found, listed⟩ := Option.isSome_iff_exists.mp (met.mpr empty)
      rw [← best found listed] at listed
      exact .inr ⟨(occupied_iff side segments inside).mp occupied, fun segment other =>
        best_extreme side constructed segments inside occupied listed other⟩

end Side

/-! ### The whole check -/

/-- Marks that pass have met every active slot, and the index finds it. -/
theorem checkMarks_sound {linked : List OrderIndex}
    (capacity : book.pool.capacity = book.config.maxOrders)
    (accepted : book.checkMarks fun slot => UInt8.ofNat (linked.count slot)) :
    ∀ slot, book.pool.contains slot → slot ∈ linked ∧
      book.index.find (book.pool.orders slot).id = slot := by
  intro slot used
  unfold checkMarks at accepted
  dsimp only at accepted
  split at accepted
  · cases accepted
  split at accepted
  · cases accepted
  have listed : slot ∈ OrderPool.allSlots book.config.maxOrders :=
    OrderPool.mem_allSlots.mpr (capacity ▸ (OrderPool.contains_iff.mp used).1)
  have checked := List.all_eq_true.mp accepted slot listed
  rw [if_pos used, Bool.and_eq_true, decide_eq_true_eq, decide_eq_true_eq] at checked
  obtain ⟨mark, known⟩ := checked
  refine ⟨?_, known⟩
  by_contra missing
  rw [List.count_eq_zero_of_not_mem missing] at mark
  exact absurd mark (by decide)

/-- What the three passes of an accepted book have compared. -/
theorem validateInvariants_checks {freelist fifo : Bool}
    (accepted : book.validateInvariants freelist fifo = true) :
    book.pool.validateFreelist freelist = true ∧ book.validateSide book.bids = true ∧
      book.validateSide book.asks = true ∧ book.index.size = book.activeOrderCount.toNat ∧
      ∃ seen, (book.markSide book.bids fun _ => 0).bind (book.markSide book.asks) = some seen ∧
        book.checkMarks seen = true ∧
        ∀ pos < book.index.bucketCount, ∀ id slot, book.index.cells pos = some (id, slot) →
          book.pool.contains slot ∧ (book.pool.orders slot).id = id := by
  unfold validateInvariants at accepted
  split at accepted
  · cases accepted
  next parts =>
  split at accepted
  · cases accepted
  next size =>
  split at accepted
  · cases accepted
  split at accepted
  · cases accepted
  next seen marked =>
  split at accepted
  · cases accepted
  next marks =>
  simp only [Bool.or_eq_true, Bool.not_eq_true', not_or, Bool.not_eq_false] at parts marks
  refine ⟨parts.1.1, parts.1.2, parts.2, not_not.mp size, seen, marked, marks, ?_⟩
  intro pos inside id slot entry
  have named := List.all_eq_true.mp accepted pos (List.mem_range.mpr inside)
  rw [OrderIdIndex.cells] at entry
  split_ifs at entry with occupied
  cases entry
  simpa [occupied] using named

section Accepted
variable (constructed : Constructed book) {freelist fifo : Bool}
variable (accepted : book.validateInvariants freelist fifo = true)
include constructed accepted

/-- The slots that the links of both sides lead to. -/
def linked (book : OrderBook) : List OrderIndex :=
  linkedSlots book.bids.segmentCount (book.fifos book.bids) ++
    linkedSlots book.asks.segmentCount (book.fifos book.asks)

theorem nodup_linked : book.linked.Nodup := by
  obtain ⟨-, bids, asks, -⟩ := validateInvariants_checks accepted
  have bid_segments := @validateSide_segments book .bid bids
  have ask_segments := @validateSide_segments book .ask asks
  refine List.nodup_append.mpr ⟨nodup_linkedSlots .bid constructed bid_segments,
    nodup_linkedSlots .ask constructed ask_segments, ?_⟩
  intro slot here other there same
  subst same
  have first := (used_linkedSlots .bid bid_segments slot here).2
  rw [(used_linkedSlots .ask ask_segments slot there).2] at first
  cases first

omit accepted in
/-- The links of a side lead to as many slots as the pool holds at most. -/
theorem linkedSlots_few (side : Side) (segments : ∀ segment < (book.half side).segmentCount,
    SoundSegment book (book.half side) segment) :
    (linkedSlots (book.half side).segmentCount (book.fifos (book.half side))).length ≤
      book.config.maxOrders.toNat := by
  rw [← constructed.capacity]
  exact OrderPool.length_le_capacity (nodup_linkedSlots side constructed segments) fun slot member =>
    (OrderPool.contains_iff.mp (used_linkedSlots side segments slot member).1).1

/-- The FIFOs hold the active slots, and the index finds each. -/
theorem linked_active (slot : OrderIndex) :
    (slot ∈ book.linked ↔ book.pool.contains slot) ∧
      (book.pool.contains slot → book.index.find (book.pool.orders slot).id = slot) := by
  obtain ⟨-, bids, asks, -, seen, marked, marks, -⟩ := validateInvariants_checks accepted
  have bid_segments := @validateSide_segments book .bid bids
  have ask_segments := @validateSide_segments book .ask asks
  have bid_used := used_linkedSlots .bid bid_segments
  have ask_used := used_linkedSlots .ask ask_segments
  have first := (validateSide_sound .bid constructed bid_segments bids).markSide_eq
    (fun slot member => (bid_used slot member).1) (linkedSlots_few constructed .bid bid_segments) []
  have second := (validateSide_sound .ask constructed ask_segments asks).markSide_eq
    (fun slot member => (ask_used slot member).1) (linkedSlots_few constructed .ask ask_segments)
    (linkedSlots (book.half .bid).segmentCount (book.fifos (book.half .bid)))
  have unmarked : (fun slot : OrderIndex => UInt8.ofNat (([] : List OrderIndex).count slot)) =
      fun _ => 0 := rfl
  rw [unmarked, List.nil_append] at first
  change book.markSide book.bids _ = _ at first
  change book.markSide book.asks _ = _ at second
  have together : seen = fun slot => UInt8.ofNat (book.linked.count slot) :=
    Option.some.inj (marked.symm.trans (by rw [first]; exact second))
  rw [together] at marks
  have checked := checkMarks_sound constructed.capacity marks
  refine ⟨⟨fun member => ?_, fun used => (checked slot used).1⟩, fun used => (checked slot used).2⟩
  rcases List.mem_append.mp member with bid | ask
  · exact (bid_used slot bid).1
  · exact (ask_used slot ask).1

theorem size_linked : book.index.size = book.linked.length := by
  obtain ⟨-, bids, asks, size, -⟩ := validateInvariants_checks accepted
  have bid_count := (validateSide_sound .bid constructed
    (@validateSide_segments book .bid bids) bids).orderCount
  have ask_count := (validateSide_sound .ask constructed
    (@validateSide_segments book .ask asks) asks).orderCount
  have short := OrderPool.length_le_capacity (nodup_linked constructed accepted) fun slot member =>
    (OrderPool.contains_iff.mp ((linked_active constructed accepted slot).1.mp member)).1
  have most := book.pool.capacity.toNat_lt
  rw [linked, List.length_append] at short
  rw [size, activeOrderCount, UInt32.toNat_add, linked, List.length_append]
  change book.bids.orderCount.toNat = _ at bid_count
  change book.asks.orderCount.toNat = _ at ask_count
  rw [bid_count, ask_count]
  exact Nat.mod_eq_of_lt (short.trans_lt most)

/-- Everything but the buckets that no order needs. They are the one thing that an accepted book
may have too many of. -/
theorem validateInvariants_sound :
    book.Structure ↔ book.index.size = book.index.storedIds.length := by
  obtain ⟨freelist, bids, asks, -, seen, -, -, entries⟩ := validateInvariants_checks accepted
  have active := linked_active constructed accepted
  have known : ∀ slot, book.pool.contains slot →
      book.index.Maps (book.pool.orders slot).id slot := by
    intro slot used
    have found := (active slot).2 used
    have maps := @OrderIdIndex.find_stored book.index (book.pool.orders slot).id
    rw [found] at maps
    exact maps (OrderPool.contains_valid used)
  have ids_distinct : (book.linked.map fun slot => (book.pool.orders slot).id).Nodup := by
    refine (nodup_linked constructed accepted).map_on fun slot here other there same => ?_
    rw [← (active slot).2 ((active slot).1.mp here), same]
    exact (active other).2 ((active other).1.mp there)
  have ids_stored (id : OrderId) : id ∈ book.linked.map (fun slot => (book.pool.orders slot).id) ↔
      ∃ slot, book.index.Maps id slot := by
    constructor
    · intro listed
      obtain ⟨slot, member, rfl⟩ := List.mem_map.mp listed
      exact ⟨slot, known slot ((active slot).1.mp member)⟩
    · rintro ⟨slot, pos, inside, entry⟩
      obtain ⟨used, same⟩ := entries pos inside id slot entry
      exact List.mem_map.mpr ⟨slot, (active slot).1.mpr used, same⟩
  rw [size_linked constructed accepted, ← List.length_map (fun slot => (book.pool.orders slot).id),
    ← OrderIdIndex.distinct_iff_length ids_distinct ids_stored]
  constructor
  · exact Structure.unique
  · intro once
    refine
      { freelist := OrderPool.validateFreelist_sound freelist
        capacity := constructed.capacity
        indexed := fun slot used => ?_
        entries := entries
        unique := once
        sides := ⟨fun side => book.fifos (book.half side),
          validateSide_sound .bid constructed (@validateSide_segments book .bid bids) bids,
          validateSide_sound .ask constructed (@validateSide_segments book .ask asks) asks,
          nodup_linked constructed accepted, fun slot => (active slot).1,
          size_linked constructed accepted⟩ }
    obtain ⟨pos, inside, entry⟩ := known slot used
    exact ⟨pos, inside, entry, (active slot).2 used⟩

end Accepted

/-- The constructor makes these sizes, and no operation changes them. -/
theorem Reachable.constructed {config : OrderBookConfig} (reachable : Reachable config book) :
    Constructed book := by
  obtain ⟨abstract, -, slots, free, rep, -, -⟩ := reachable.represented
  refine ⟨rep.capacity ▸ rep.freeList.small, rep.capacity, fun side => (rep.holds side).shaped, ?_⟩
  intro side word beyond
  have shaped := (rep.holds side).shaped
  by_contra set
  obtain ⟨segment, rfl, bit⟩ := word_ne_zero_iff.mp set
  obtain ⟨slot, member, same⟩ := ((rep.holds side).occupancy segment).mp bit
  have inside := SideBook.localSegment_lt shaped ((rep.holds side).inside slot member)
  rw [same] at inside
  have words : (book.half side).segmentOccupancyWordCount =
      ((book.half side).segmentCount + 63) / 64 := shaped.words
  omega

/-- The self-check ends on every book of constructed sizes, and a book that it accepts has the
structure of a book exactly when no bucket of its index is left uncounted. -/
theorem validation_sound_iff (constructed : Constructed book) :
    book.pool.FreelistWalk book.pool.freeHead (fun _ => 0) 0
      (book.pool.freelistLoop (book.pool.capacity.toNat + 2) book.pool.freeHead (fun _ => 0) 0) ∧
    (∀ side segment offset,
      LevelWalk book side ((book.half side).priceFromLocal segment offset)
        (((book.half side).segments segment).levels offset).head invalidOrderIndex 0 0
        (book.levelLoop side ((book.half side).priceFromLocal segment offset)
          (book.config.maxOrders.toNat + 2)
          (((book.half side).segments segment).levels offset).head invalidOrderIndex 0 0)) ∧
    ∀ freelist fifo, book.validateInvariants freelist fifo = true →
      (book.Structure ↔ book.index.size = book.index.storedIds.length) := by
  refine ⟨?_, fun side segment offset => ?_, fun freelist fifo accepted => ?_⟩
  · refine OrderPool.freelistLoop_walk (constructed.capacity ▸ constructed.small) ?_ ?_
    · exact UInt32.le_iff_toNat_le.mpr (Nat.zero_le _)
    · rw [UInt32.toNat_zero]
      omega
  · refine levelLoop_walk constructed.small ?_ ?_
    · exact UInt32.le_iff_toNat_le.mpr (Nat.zero_le _)
    · rw [UInt32.toNat_zero]
      omega
  · exact validateInvariants_sound constructed accepted

/-- A book with one order. -/
def oneOrder : Option OrderBook :=
  (create ⟨64, 64, 1⟩).map fun book => (book.insert ⟨1, 7, .bid, 64, 5⟩).2

/-- Every bucket of the index holds what the home bucket of an id holds. -/
def fillBuckets (book : OrderBook) (id : OrderId) : OrderBook :=
  { book with index :=
    { book.index with buckets := fun _ => book.index.buckets (book.index.home id) } }

theorem oneOrder_reachable : ∃ book, oneOrder = some book ∧ Reachable ⟨64, 64, 1⟩ book := by
  obtain ⟨fresh, created, -⟩ := create_represents ⟨64, 64, 1⟩ (by decide)
  exact ⟨_, by rw [oneOrder, created]; rfl, fresh, created, [.call (.insert ⟨1, 7, .bid, 64, 5⟩)], rfl⟩

theorem validation_sound_iff_one_order : ∃ book, oneOrder = some book ∧
    (∀ freelist fifo, book.validateInvariants freelist fifo = true →
      (book.Structure ↔ book.index.size = book.index.storedIds.length)) := by
  obtain ⟨book, made, reachable⟩ := oneOrder_reachable
  exact ⟨book, made, (validation_sound_iff reachable.constructed).2.2⟩

/-- The self-check accepts an order that the index holds four times. -/
theorem validation_accepts_repeated_entry : ∃ book, oneOrder = some book ∧
    Constructed (fillBuckets book 1) ∧ (fillBuckets book 1).validateInvariants true true = true ∧
    ¬(fillBuckets book 1).Structure := by
  obtain ⟨book, made, reachable⟩ := oneOrder_reachable
  have sizes := reachable.constructed
  have evaluated : oneOrder.all (fun book =>
      (fillBuckets book 1).validateInvariants true true &&
        decide ((fillBuckets book 1).index.bucketCount = 4) &&
        decide ((fillBuckets book 1).index.cells 0 = some (1, 0)) &&
        decide ((fillBuckets book 1).index.cells 1 = some (1, 0))) = true := by decide +kernel
  rw [made, Option.all_some, Bool.and_eq_true, Bool.and_eq_true, Bool.and_eq_true] at evaluated
  obtain ⟨⟨⟨accepted, buckets⟩, first⟩, second⟩ := evaluated
  have count := of_decide_eq_true buckets
  refine ⟨book, made, ⟨sizes.small, sizes.capacity, ?_, ?_⟩, accepted, fun sound => ?_⟩
  · intro side
    cases side
    · exact sizes.shaped .bid
    · exact sizes.shaped .ask
  · intro side
    cases side
    · exact sizes.words .bid
    · exact sizes.words .ask
  · have same := sound.unique 0 (by omega) 1 (by omega) 1 0 0 (of_decide_eq_true first)
      (of_decide_eq_true second)
    exact absurd same (by decide)

end OrderBook

end Fexma
