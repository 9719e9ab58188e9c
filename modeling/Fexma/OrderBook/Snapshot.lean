import Fexma.OrderBook.Refinement

/-! A snapshot copies every resting order in side, price and FIFO order, and
restoring that copy rebuilds the same book, priorities included. -/
namespace Fexma.OrderBook

open LinkedQueue StableOrder

variable {book : OrderBook} {slots : Side → List OrderIndex} {free queue : List OrderIndex}
variable {side : Side} {abstract : PriceTimeBook} {head : OrderIndex} {room : ℕ}
variable {copied : List OrderView}

/-! ### Copying -/

/-- Walking the links from `head` visits exactly `queue`. -/
structure Walks (book : OrderBook) (head : OrderIndex) (queue : List OrderIndex) : Prop where
  linked : ∃ before tail, Segment book.pool.prev book.pool.next before head queue tail
    invalidOrderIndex
  valid : invalidOrderIndex ∉ queue
  short : queue.length ≤ book.pool.capacity.toNat

theorem snapshotLevel_eq {before tail : OrderIndex} {fuel : ℕ}
    (linked : Segment book.pool.prev book.pool.next before head queue tail invalidOrderIndex)
    (valid : invalidOrderIndex ∉ queue) (enough : queue.length < fuel)
    (fits : copied.length + queue.length ≤ room) :
    book.snapshotLevel room fuel head copied = (.ok, copied ++ queue.map book.viewFor) := by
  induction queue generalizing head before fuel copied with
  | nil =>
    obtain ⟨rfl, -⟩ := linked
    cases fuel <;> simp [snapshotLevel]
  | cons slot rest ih =>
    obtain ⟨rfl, -, linked⟩ := linked
    obtain ⟨fuel, rfl⟩ := Nat.exists_eq_succ_of_ne_zero (by omega : fuel ≠ 0)
    simp only [List.mem_cons, not_or] at valid
    simp only [List.length_cons] at enough fits
    have present : head ≠ invalidOrderIndex := fun same => valid.1 same.symm
    have space : copied.length ≠ room := by omega
    simp only [snapshotLevel, present, space, ↓reduceIte]
    have follow : (book.pool.orders head).next = book.pool.next head := rfl
    rw [follow, ih linked valid.2 (by omega) (by simp; omega)]
    simp

/-- A list of levels is copied level by level. -/
theorem snapshotLevels_eq {coords : List ℕ} {levelAt : ℕ → PriceLevel}
    {queueAt : ℕ → List OrderIndex}
    (walks : ∀ n ∈ coords, book.Walks (levelAt n).head (queueAt n))
    (fits : copied.length + (coords.flatMap queueAt).length ≤ room) :
    book.snapshotLevels room (coords.map levelAt) copied =
      (.ok, copied ++ (coords.flatMap queueAt).map book.viewFor) := by
  induction coords generalizing copied with
  | nil => simp [snapshotLevels]
  | cons n rest ih =>
    obtain ⟨⟨before, tail, linked⟩, valid, short⟩ := walks n (by simp)
    simp only [List.flatMap_cons, List.length_append] at fits
    rw [List.map_cons, snapshotLevels, snapshotLevel_eq linked valid (by omega) (by omega)]
    simp only
    have rest_fits : (copied ++ (queueAt n).map book.viewFor).length +
        (rest.flatMap queueAt).length ≤ room := by
      rw [List.length_append, List.length_map]
      omega
    rw [ih (fun m member => walks m (by simp [member])) rest_fits]
    simp

theorem range_flatMap (count : ℕ) :
    ((List.range count).flatMap fun segment => (List.range 64).map fun offset =>
      segment * 64 + offset) = List.range (count * 64) := by
  induction count with
  | zero => rfl
  | succ count ih =>
    have last : List.range (count + 1) = List.range count ++ [count] := List.range_succ
    rw [last, List.flatMap_append, ih, Nat.succ_mul, List.range_add]
    simp

/-- The copy loop reads the levels by rising price. -/
theorem levelsOf_eq (sideBook : SideBook side) : levelsOf sideBook =
    (List.range (sideBook.segmentCount * 64)).map fun n =>
      (sideBook.segments (n / 64)).levels (n % 64) := by
  rw [← range_flatMap, levelsOf, List.map_flatMap]
  refine List.flatMap_congr fun segment _ => ?_
  rw [List.map_map]
  refine List.map_congr_left fun offset bound => ?_
  rw [List.mem_range] at bound
  have word : (segment * 64 + offset) / 64 = segment := by omega
  have bit : (segment * 64 + offset) % 64 = offset := by omega
  simp [word, bit]

section Coordinates
variable {sideBook : SideBook side} {pool : OrderPool} {n : ℕ}

/-- The price at the `n`-th level of a side. -/
theorem priceAt_toNat (shaped : sideBook.Shaped) (inside : n < sideBook.segmentCount * 64) :
    (sideBook.priceFromLocal (n / 64) (n % 64)).toNat = sideBook.baseSegment * 64 + n := by
  have most := sideBook.maxPriceTick.toNat_lt
  have count := shaped.count
  rw [SideBook.segmentCountFor] at count
  split at count
  · omega
  · simp only [UInt32.toNat_shiftRight, UInt32.reduceToNat, Nat.reduceMod,
      Nat.shiftRight_eq_div_pow, Nat.reducePow] at count
    have base := shaped.base
    have least := sideBook.minPriceTick.toNat_lt
    rename_i ordered
    rw [UInt32.not_lt, UInt32.le_iff_toNat_le] at ordered
    have whole : (sideBook.baseSegment + n / 64) * 64 + n % 64 = sideBook.baseSegment * 64 + n := by
      omega
    rw [SideBook.priceFromLocal, whole, UInt32.toNat_ofNat_of_lt']
    unfold UInt32.size
    omega

/-- The level at a coordinate is the FIFO of its price, which is empty at the
prices of the outer segments that are out of range. -/
theorem level_holds {segment offset : ℕ} (rep : Rep book slots free)
    (inside : segment < (book.half side).segmentCount) (bound : offset < 64) :
    SideBook.LevelHolds book.pool (((book.half side).segments segment).levels offset)
      (group (SideBook.priority side book.pool)
        (rank side ((book.half side).priceFromLocal segment offset)) (slots side)) := by
  have holds := rep.holds side
  have word : (segment * 64 + offset) / 64 = segment := by omega
  have bit : (segment * 64 + offset) % 64 = offset := by omega
  have price := @priceAt_toNat _ _ (segment * 64 + offset) holds.shaped (by omega)
  rw [word, bit] at price
  by_cases contained : (book.half side).containsPrice
      ((book.half side).priceFromLocal segment offset)
  · have held := holds.levels _ contained
    have segment_eq : (book.half side).localSegment
        ((book.half side).priceFromLocal segment offset) = segment := by
      rw [SideBook.localSegment_eq, price]
      omega
    have offset_eq : SideBook.priceOffset
        ((book.half side).priceFromLocal segment offset) = offset := by
      rw [SideBook.priceOffset_eq, price]
      omega
    rwa [SideBook.level, segment_eq, offset_eq] at held
  · have empty : group (SideBook.priority side book.pool)
        (rank side ((book.half side).priceFromLocal segment offset)) (slots side) = [] := by
      refine group_eq_nil.mpr fun slot member same => contained ?_
      rw [← rank_injective side same]
      exact holds.inside slot member
    have unused := holds.unused segment offset fun other held same => contained (by
      have whole := SideBook.priceFromLocal_coordinates holds.shaped held
      rw [same.1, same.2] at whole
      rwa [whole])
    rw [empty, unused]
    exact ⟨⟨rfl, rfl⟩, rfl, rfl⟩

theorem walks_level (rep : Rep book slots free) (inside : n < (book.half side).segmentCount * 64) :
    book.Walks (((book.half side).segments (n / 64)).levels (n % 64)).head
      (group (SideBook.priority side book.pool)
        (rank side ((book.half side).priceFromLocal (n / 64) (n % 64))) (slots side)) := by
  have fewer := List.length_filter_le (fun slot => decide (SideBook.priority side book.pool slot =
    rank side ((book.half side).priceFromLocal (n / 64) (n % 64)))) (slots side)
  have short : (slots side).length ≤ book.pool.capacity.toNat := by
    have count := rep.count
    rw [← rep.capacity, active, List.length_append] at count
    cases side <;> omega
  exact ⟨⟨_, _, (level_holds rep (by omega) (Nat.mod_lt _ (by decide))).linked⟩,
    fun member => (rep.holds side).valid (mem_group.mp member).1, fewer.trans short⟩

/-- The queues of a side by rising price are a stable sort of its slots. For the asks this is the
list itself, and for the bids its levels come in reverse. -/
theorem queues_sorted (rep : Rep book slots free) (side : Side) :
    ((List.range ((book.half side).segmentCount * 64)).flatMap fun n =>
      group (SideBook.priority side book.pool)
        (rank side ((book.half side).priceFromLocal (n / 64) (n % 64))) (slots side)) =
      sort (SideBook.priority .ask book.pool) (slots side) := by
  have holds := rep.holds side
  let prices : List ℤ := (List.range ((book.half side).segmentCount * 64)).map fun n =>
    (((book.half side).baseSegment * 64 + n : ℕ) : ℤ)
  have ascending : prices.Pairwise (· < ·) := by
    refine List.pairwise_map.mpr (List.pairwise_lt_range.imp fun less => ?_)
    omega
  have covered : ∀ slot ∈ sort (SideBook.priority .ask book.pool) (slots side),
      SideBook.priority .ask book.pool slot ∈ prices := by
    intro slot member
    have inside := holds.inside slot (sort_perm.mem_iff.mp member)
    have below := SideBook.localSegment_lt holds.shaped inside
    obtain ⟨least, -⟩ := SideBook.containsPrice_iff.mp inside
    have base := holds.shaped.base
    rw [SideBook.localSegment_eq] at below
    refine List.mem_map.mpr ⟨(book.pool.orders slot).price.toNat -
      (book.half side).baseSegment * 64, List.mem_range.mpr (by omega), ?_⟩
    simp only [SideBook.priority, rank]
    omega
  rw [← flatMap_group ascending ordered_sort covered, List.flatMap_map]
  refine List.flatMap_congr fun n inside => ?_
  rw [List.mem_range] at inside
  have price := priceAt_toNat holds.shaped inside
  rw [group_sort]
  refine List.filter_congr fun slot _ => ?_
  have same : SideBook.priority side book.pool slot =
      rank side ((book.half side).priceFromLocal (n / 64) (n % 64)) ↔
      SideBook.priority .ask book.pool slot = (((book.half side).baseSegment * 64 + n : ℕ) : ℤ) := by
    rw [SideBook.priority, (rank_injective side).eq_iff, ← UInt32.toNat_inj, price]
    simp only [SideBook.priority, rank]
    omega
  simp only [same]

/-- Reading the levels of a side by rising price is a stable sort. -/
theorem levels_sorted (rep : Rep book slots free)
    (sides : ∀ side, abstract.orders side = (slots side).map book.viewFor) (side : Side) :
    ((List.range ((book.half side).segmentCount * 64)).flatMap fun n =>
      group (SideBook.priority side book.pool)
        (rank side ((book.half side).priceFromLocal (n / 64) (n % 64))) (slots side)).map
      book.viewFor = sort (viewRank .ask) (abstract.orders side) := by
  have keys : ∀ slot, viewRank .ask (book.viewFor slot) = SideBook.priority .ask book.pool slot :=
    fun slot => rfl
  rw [queues_sorted rep side, sides]
  refine (sort_eq (ordered_map (fun slot _ => keys slot) ordered_sort) fun k => ?_).symm
  rw [group_map fun slot _ => keys slot, group_map fun slot _ => keys slot, group_sort]

end Coordinates

/-- Copying one side appends its orders by rising price. -/
theorem snapshotSide_eq (rep : Rep book slots free)
    (sides : ∀ side, abstract.orders side = (slots side).map book.viewFor) (room : ℕ)
    (copied : List OrderView) (side : Side) (fits : copied.length + (slots side).length ≤ room) :
    book.snapshotLevels room (levelsOf (book.half side)) copied =
      (.ok, copied ++ sort (viewRank .ask) (abstract.orders side)) := by
  have sorted := levels_sorted rep sides side
  have length := congrArg List.length sorted
  rw [List.length_map, length_sort, sides, List.length_map] at length
  rw [levelsOf_eq, snapshotLevels_eq (fun n member => walks_level rep (List.mem_range.mp member))
    (by rw [length]; exact fits), sorted]

theorem activeOrderCount_eq (rep : Rep book slots free) :
    book.activeOrderCount.toNat = (active slots).length := by
  have bids := (rep.holds .bid).count
  have asks := (rep.holds .ask).count
  have count := rep.count
  have most := book.config.maxOrders.toNat_lt
  have total : book.activeOrderCount = UInt32.ofNat (active slots).length := by
    rw [activeOrderCount, active, List.length_append, UInt32.ofNat_add, ← bids, ← asks]
    rfl
  rw [total, UInt32.toNat_ofNat_of_lt']
  unfold UInt32.size
  omega

/-- `order_count` counts the resting orders. -/
theorem orderCount_eq (represents : book.Represents abstract) :
    book.orderCount.toNat = abstract.all.length := by
  obtain ⟨slots, free, rep, -, sides⟩ := represents
  rw [orderCount, activeOrderCount_eq rep, all_length sides]

/-- A snapshot copies the whole book, if the destination has room for it: the bids and then the
asks, each by rising price. Without room it copies nothing. -/
theorem snapshotInto_eq (represents : book.Represents abstract) (room : ℕ) :
    book.snapshotInto room =
      if room < abstract.all.length then (.capacityExceeded, []) else (.ok, abstract.snapshot) := by
  obtain ⟨slots, free, rep, -, sides⟩ := represents
  rw [snapshotInto, activeOrderCount_eq rep, all_length sides]
  split
  · rfl
  · rename_i fits
    rw [active, List.length_append] at fits
    have length : (sort (viewRank .ask) (abstract.orders .bid)).length = (slots .bid).length := by
      rw [length_sort, sides, List.length_map]
    have bids := snapshotSide_eq rep sides room [] .bid (by rw [List.length_nil]; omega)
    have asks := snapshotSide_eq rep sides room
      (sort (viewRank .ask) (abstract.orders .bid)) .ask (by omega)
    have sorted : sort (viewRank .ask) (abstract.orders .ask) = abstract.orders .ask :=
      sort_eq (abstract.ordered .ask) fun _ => rfl
    simp only [half] at bids asks
    rw [bids]
    simp only [List.nil_append]
    rw [asks, sorted]
    rfl

/-! ### Restoring -/

theorem restoreLoop_represents (represents : book.Represents abstract) (restored : OrderCapacity)
    (orders : List OrderView) :
    (book.restoreLoop restored orders).1 = (abstract.restoreLoop restored orders).1 ∧
      (book.restoreLoop restored orders).2.Represents
        (abstract.restoreLoop restored orders).2 := by
  induction orders generalizing book abstract restored with
  | nil => exact ⟨rfl, represents⟩
  | cons order orders ih =>
    have step := insert_represents represents
      { id := order.id, ownerId := order.ownerId, side := order.side, price := order.price
        quantity := order.remaining }
    rw [restoreLoop, PriceTimeBook.restoreLoop]
    cases concrete : book.insert { id := order.id, ownerId := order.ownerId, side := order.side
                                   price := order.price, quantity := order.remaining } with
    | mk status next =>
      cases model : abstract.insert { id := order.id, ownerId := order.ownerId, side := order.side
                                      price := order.price, quantity := order.remaining } with
      | mk status' next' =>
        rw [concrete, model] at step
        obtain ⟨rfl, represents'⟩ := step
        cases status with
        | ok => exact ih represents' (restored + 1)
        | _ => exact ⟨rfl, represents'⟩

/-- `restore` answers and changes the book as the abstract one does, also where it fails
halfway. -/
theorem restore_represents (represents : book.Represents abstract) (orders : List OrderView) :
    (book.restore orders).1 = (abstract.restore orders).1 ∧
      (book.restore orders).2.Represents (abstract.restore orders).2 := by
  have config : abstract.config = book.config := by
    obtain ⟨_, _, _, config, _⟩ := represents
    exact config
  rw [restore, PriceTimeBook.restore, config]
  split
  · exact ⟨rfl, represents⟩
  · exact restoreLoop_represents (clear_represents represents) 0 orders

end Fexma.OrderBook

namespace Fexma.PriceTimeBook

open StableOrder

variable {book other : PriceTimeBook} {orders : List OrderView}

/-- Restoring fresh, acceptable orders inserts them all, side by side. -/
theorem restoreLoop_ok (restored : OrderCapacity)
    (distinct : (orders.map OrderView.id).Nodup)
    (fresh : ∀ order ∈ orders, book.find order.id = none)
    (ranged : ∀ order ∈ orders, book.config.contains order.price)
    (positive : ∀ order ∈ orders, order.remaining ≠ 0)
    (room : book.all.length + orders.length ≤ book.config.maxOrders.toNat) :
    (book.restoreLoop restored orders).1 =
        { status := .ok, restored := restored + UInt32.ofNat orders.length } ∧
      (book.restoreLoop restored orders).2.config = book.config ∧
      ∀ side, (book.restoreLoop restored orders).2.orders side =
        (orders.filter (·.side = side)).foldl
          (fun sorted order => insertLast (viewRank side) order sorted) (book.orders side) := by
  induction orders generalizing book restored with
  | nil => exact ⟨by simp [restoreLoop], rfl, fun _ => rfl⟩
  | cons order orders ih =>
    obtain ⟨apart, distinct⟩ := List.nodup_cons.mp distinct
    have vacant : book.find order.id = none := fresh order (by simp)
    have inside := ranged order (by simp)
    have nonzero := positive order (by simp)
    have space : book.all.length < book.config.maxOrders.toNat := by
      rw [List.length_cons] at room
      omega
    have inserted : book.insert { id := order.id, ownerId := order.ownerId, side := order.side
                                  price := order.price, quantity := order.remaining } =
        (.ok, book.add order vacant inside nonzero space) := by
      simp only [insert, nonzero, inside, vacant, space, ↓reduceDIte]
      rfl
    have perm : (book.add order vacant inside nonzero space).all.Perm (order :: book.all) :=
      addTo_perm book.orders order
    have vacant' : ∀ next ∈ orders, (book.add order vacant inside nonzero space).find next.id =
        none := by
      intro next member
      refine find_eq_none.mpr fun held listed same => ?_
      rcases List.mem_cons.mp (perm.mem_iff.mp listed) with rfl | listed
      · exact apart (List.mem_map.mpr ⟨next, member, same.symm⟩)
      · exact find_eq_none.mp (fresh next (by simp [member])) held listed same
    have room' : (book.add order vacant inside nonzero space).all.length + orders.length ≤
        book.config.maxOrders.toNat := by
      rw [perm.length_eq]
      simp only [List.length_cons] at room ⊢
      omega
    obtain ⟨result, config, sides⟩ := ih (restored + 1) distinct vacant'
      (fun next member => ranged next (by simp [member]))
      (fun next member => positive next (by simp [member])) room'
    rw [restoreLoop, inserted]
    refine ⟨?_, config, fun side => ?_⟩
    · rw [result, List.length_cons, Nat.add_comm, UInt32.ofNat_add, ← UInt32.add_assoc]
      rfl
    · rw [sides]
      by_cases same : order.side = side
      · subst same
        simp [add, addTo]
      · simp [add, addTo, same, Ne.symm same]

/-- A snapshot keeps the FIFO of every price, whichever side ranks it. Only the order between
prices is that of the copy loop. -/
theorem group_snapshot (book : PriceTimeBook) (side : Side) (k : ℤ) :
    group (viewRank side) k book.snapshot = group (viewRank side) k book.all := by
  have rising (xs : List OrderView) : group (viewRank side) k xs =
      group (viewRank .ask) (if side = .bid then -k else k) xs := by
    refine List.filter_congr fun order _ => ?_
    cases side
    · refine decide_eq_decide.mpr ?_
      simp only [viewRank, rank, if_true]
      omega
    · rfl
  rw [snapshot, all, group_append, group_append, rising, rising (book.orders .bid), group_sort]

/-- Restoring a snapshot gives back the book it was taken from, with the turn of every order. -/
theorem restore_snapshot (same : other.config = book.config) :
    other.restore book.snapshot =
      ({ status := .ok, restored := UInt32.ofNat book.all.length }, book) := by
  have perm : book.snapshot.Perm book.all := sort_perm.append_right _
  have fits : ¬ book.snapshot.length > other.config.maxOrders.toNat := by
    rw [perm.length_eq, same]
    have := book.fits
    simp only [all]
    omega
  have vacant : ∀ order ∈ book.snapshot, other.clear.find order.id = none :=
    fun order _ => find_eq_none.mpr (by simp [all, clear, empty])
  obtain ⟨result, config, sides⟩ := restoreLoop_ok 0
    ((perm.map OrderView.id).nodup_iff.mpr book.distinct) vacant
    (fun order member => by
      have listed := mem_all.mp (perm.mem_iff.mp member)
      have inside := book.ranged _ _ listed
      rwa [← same] at inside)
    (fun order member => book.positive _ _ (mem_all.mp (perm.mem_iff.mp member)))
    (by
      rw [perm.length_eq]
      have := book.fits
      simp only [all, clear, empty, same, List.append_nil, List.length_nil] at this ⊢
      omega)
  rw [restore, if_neg fits]
  refine Prod.ext ?_ (PriceTimeBook.ext (config.trans same) (funext fun side => ?_))
  · rw [result, perm.length_eq]
    simp
  · rw [sides]
    have mine (side' : Side) : (book.orders side').filter (·.side = side) =
        if side' = side then book.orders side' else [] := by
      split
      · rename_i same
        exact List.filter_eq_self.mpr fun order member => by
          simpa [same] using book.sided side' order member
      · rename_i other
        refine List.filter_eq_nil_iff.mpr fun order member => ?_
        simpa [book.sided side' order member] using other
    have whole : book.all.filter (·.side = side) = book.orders side := by
      cases side <;> simp [all, mine]
    refine sort_eq (book.ordered side) fun k => ?_
    rw [group_filter, group_snapshot, ← group_filter, whole]

end Fexma.PriceTimeBook
