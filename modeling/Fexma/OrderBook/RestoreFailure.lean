import Fexma.OrderBook.Operations

/-! A restore that fails. It clears the book before it inserts the first order, so what is
left behind a refused order is what the orders in front of it build. -/
namespace Fexma

open StableOrder Transducer

namespace PriceTimeBook

variable {book other : PriceTimeBook} {order : OrderView} {orders : List OrderView}
variable {restored : OrderCapacity} {seen : List OrderId}

/-- The orders of an image in front of the first one that is refused, when the book holds
the ids `seen` and has room for the image. -/
def accepted (config : OrderBookConfig) : List OrderId → List OrderView → List OrderView
  | _, [] => []
  | seen, order :: orders =>
    if order.remaining = 0 ∨ ¬ config.contains order.price ∨ order.id ∈ seen then []
    else order :: accepted config (order.id :: seen) orders

/-- Orders as a snapshot lists them: both sides in rising price order, list order within a
price. -/
def listed (orders : List OrderView) : List OrderView :=
  sort (viewRank .ask) (orders.filter (·.side = .bid)) ++
    sort (viewRank .ask) (orders.filter (·.side = .ask))

/-- The order as a restore inserts it. -/
def restoring (order : OrderView) : RestingOrderData :=
  { id := order.id, ownerId := order.ownerId, side := order.side, price := order.price
    quantity := order.remaining }

theorem restoreLoop_inserted (inserted : (book.insert (restoring order)).1 = .ok) :
    book.restoreLoop restored (order :: orders) =
      (book.insert (restoring order)).2.restoreLoop (restored + 1) orders := by
  rw [restoreLoop]
  unfold restoring at inserted ⊢
  revert inserted
  cases book.insert _ with
  | mk status next =>
    intro inserted
    cases inserted
    rfl

/-- The loop stops at the first order that is refused, and leaves the book as it is by then. -/
theorem restoreLoop_refused (refused : (book.insert (restoring order)).1 ≠ .ok) :
    (book.restoreLoop restored (order :: orders)).2 = book := by
  have same := insert_failed refused
  rw [restoreLoop]
  unfold restoring at refused same
  revert refused same
  cases book.insert _ with
  | mk status next =>
    intro refused same
    cases status with
    | ok => exact absurd rfl refused
    | _ => exact same

/-- The loop builds what the accepted orders build. -/
theorem restoreLoop_accepted (known : ∀ id, id ∈ seen ↔ book.find id ≠ none)
    (room : book.all.length + orders.length ≤ book.config.maxOrders.toNat) :
    (book.restoreLoop restored orders).2 =
      (book.restoreLoop restored (accepted book.config seen orders)).2 := by
  induction orders generalizing book restored seen with
  | nil => rfl
  | cons order orders ih =>
    rw [List.length_cons] at room
    by_cases inserted : (book.insert (restoring order)).1 = .ok
    · obtain ⟨positive, inside, fresh, -⟩ := insert_ok_iff.mp inserted
      obtain ⟨added, config⟩ := insert_orders inserted
      have new : order.id ∉ seen := fun member => (known order.id).mp member fresh
      have taken : accepted book.config seen (order :: orders) =
          order :: accepted book.config (order.id :: seen) orders := by
        rw [accepted, if_neg]
        exact not_or.mpr ⟨positive, not_or.mpr ⟨not_not.mpr inside, new⟩⟩
      have perm : (book.insert (restoring order)).2.all.Perm ((restoring order).view :: book.all) := by
        rw [all, added]
        exact addTo_perm book.orders _
      rw [taken, restoreLoop_inserted inserted, restoreLoop_inserted inserted, ← config]
      apply ih
      · intro id
        have member : (book.insert (restoring order)).2.find id ≠ none ↔
            order.id = id ∨ book.find id ≠ none := by
          simp only [ne_eq, find_eq_none, perm.mem_iff, not_forall, not_not]
          constructor
          · rintro ⟨held, among, same⟩
            rcases List.mem_cons.mp among with rfl | old
            · exact .inl same
            · exact .inr ⟨held, old, same⟩
          · rintro (same | ⟨held, old, same⟩)
            · exact ⟨_, List.mem_cons_self, same⟩
            · exact ⟨held, List.mem_cons_of_mem _ old, same⟩
        rw [List.mem_cons, member, known id, eq_comm]
      · rw [perm.length_eq, List.length_cons, config]
        omega
    · rw [restoreLoop_refused inserted]
      have none_taken : accepted book.config seen (order :: orders) = [] := by
        rw [accepted]
        split_ifs with refused
        · rfl
        · obtain ⟨positive, rest⟩ := not_or.mp refused
          obtain ⟨inside, new⟩ := not_or.mp rest
          refine absurd (insert_ok_iff.mpr ⟨positive, not_not.mp inside, ?_, ?_⟩) inserted
          · exact not_not.mp fun found => new ((known order.id).mpr found)
          · omega
      rw [none_taken, restoreLoop]

/-- The accepted orders are a beginning of the image. Their ids are fresh and differ, their
prices are in range, and none of them is empty. -/
theorem accepted_spec (config : OrderBookConfig) (seen : List OrderId) (orders : List OrderView) :
    accepted config seen orders <+: orders ∧
      ((accepted config seen orders).map OrderView.id).Nodup ∧
      ∀ order ∈ accepted config seen orders,
        order.id ∉ seen ∧ config.contains order.price ∧ order.remaining ≠ 0 := by
  induction orders generalizing seen with
  | nil => exact ⟨List.prefix_rfl, List.nodup_nil, fun _ member => by cases member⟩
  | cons order orders ih =>
    rw [accepted]
    split_ifs with refused
    · exact ⟨List.nil_prefix, List.nodup_nil, fun _ member => by cases member⟩
    · obtain ⟨positive, rest⟩ := not_or.mp refused
      obtain ⟨inside, new⟩ := not_or.mp rest
      obtain ⟨early, distinct, each⟩ := ih (order.id :: seen)
      refine ⟨(List.prefix_cons_inj order).mpr early, ?_, ?_⟩
      · refine List.nodup_cons.mpr ⟨fun member => ?_, distinct⟩
        obtain ⟨later, among, same⟩ := List.mem_map.mp member
        exact (each later among).1 (same ▸ List.mem_cons_self)
      · intro taken member
        rcases List.mem_cons.mp member with rfl | later
        · exact ⟨new, not_not.mp inside, positive⟩
        · obtain ⟨apart, rest⟩ := each taken later
          exact ⟨fun old => apart (List.mem_cons_of_mem _ old), rest⟩

/-- Sorting by the rank of a side and then by rising price is sorting by rising price. -/
theorem sort_sort (side : Side) (orders : List OrderView) :
    sort (viewRank .ask) (sort (viewRank side) orders) = sort (viewRank .ask) orders := by
  refine sort_eq ordered_sort fun k => ?_
  have ranked (xs : List OrderView) : group (viewRank .ask) k xs =
      group (viewRank side) (if side = .bid then -k else k) xs := by
    refine List.filter_congr fun order _ => decide_eq_decide.mpr ?_
    cases side with
    | bid =>
      simp only [viewRank, rank, if_true]
      omega
    | ask => rfl
  rw [ranked, group_sort, group_sort, ← ranked]

/-- What a restore leaves when the image is not too long. -/
theorem restore_snapshot_accepted (fits : orders.length ≤ book.config.maxOrders.toNat) :
    (book.restore orders).2.snapshot = listed (accepted book.config [] orders) := by
  have nothing : ∀ id, id ∈ ([] : List OrderId) ↔ book.clear.find id ≠ none := by
    intro id
    simp [find_eq_none, all, clear, empty]
  obtain ⟨early, distinct, each⟩ := accepted_spec book.config [] orders
  have short := early.length_le
  obtain ⟨-, -, sides⟩ := @restoreLoop_ok book.clear (accepted book.config [] orders) 0 distinct
    (fun order _ => not_not.mp (mt (nothing order.id).mpr List.not_mem_nil))
    (fun order member => (each order member).2.1) (fun order member => (each order member).2.2)
    (by simpa [all, clear, empty] using short.trans fits)
  have room : book.clear.all.length + orders.length ≤ book.clear.config.maxOrders.toNat := by
    simpa [all, clear, empty] using fits
  have built : (book.restore orders).2 = (book.clear.restoreLoop 0 (accepted book.config [] orders)).2 := by
    rw [restore, if_neg (Nat.not_lt.mpr fits)]
    exact restoreLoop_accepted nothing room
  rw [built, snapshot, sides, sides]
  exact congrArg (· ++ _) (sort_sort .bid _)

/-- A snapshot tells books of one configuration apart: it has every order and keeps the FIFO of
every price. -/
theorem snapshot_inj (config : book.config = other.config) (same : book.snapshot = other.snapshot) :
    book = other := by
  have mine := @restore_snapshot book book rfl
  have theirs := @restore_snapshot other book config
  rw [same] at mine
  exact congrArg Prod.snd (mine.symm.trans theirs)

end PriceTimeBook

namespace OrderBook

variable {config : OrderBookConfig} {book other : OrderBook} {abstract abstract' : PriceTimeBook}
variable {orders : List OrderView}

/-- The books show the same: orders with their quantities and priorities, counts and bests. -/
structure LooksLike (book other : OrderBook) : Prop where
  snapshots : ∀ room, book.snapshotInto room = other.snapshotInto room
  count : book.orderCount = other.orderCount
  best : ∀ side, book.best side = other.best side

theorem Represents.snapshot_eq (represents : book.Represents abstract) :
    book.snapshotInto abstract.config.maxOrders.toNat = (.ok, abstract.snapshot) := by
  have fits : ¬ abstract.config.maxOrders.toNat < abstract.all.length := Nat.not_lt.mpr abstract.fits
  rw [snapshotInto_eq represents, if_neg fits]

/-- Books look alike when they stand for one abstract book, and only then. -/
theorem looksLike_iff (represents : book.Represents abstract) (represents' : other.Represents abstract')
    (config : abstract.config = abstract'.config) : book.LooksLike other ↔ abstract = abstract' := by
  constructor
  · intro alike
    have snapshots := alike.snapshots abstract.config.maxOrders.toNat
    rw [represents.snapshot_eq, config, represents'.snapshot_eq] at snapshots
    exact PriceTimeBook.snapshot_inj config (congrArg Prod.snd snapshots)
  · rintro rfl
    refine ⟨fun room => ?_, UInt32.toNat_inj.mp ?_, fun side => ?_⟩
    · rw [snapshotInto_eq represents, snapshotInto_eq represents']
    · rw [orderCount_eq represents, orderCount_eq represents']
    · rw [best_eq represents, best_eq represents']

/-- A failed restore leaves the book as it was exactly if the image is too long, or if the
book held, with the same priorities, the orders in front of the refused one. -/
theorem failed_restore_unchanged_iff (reachable : Reachable config book) :
    (book.restore orders).1.status ≠ .ok →
      (book.LooksLike (book.restore orders).2 ↔
        config.maxOrders.toNat < orders.length ∨
          book.snapshotInto config.maxOrders.toNat =
            (.ok, PriceTimeBook.listed (PriceTimeBook.accepted config [] orders))) := by
  intro _
  obtain ⟨abstract, rfl, represents⟩ := reachable.represented
  have behind := (restore_represents represents orders).2
  have config := abstract.restore_config orders
  rw [looksLike_iff represents behind config.symm, represents.snapshot_eq]
  by_cases long : abstract.config.maxOrders.toNat < orders.length
  · refine ⟨fun _ => .inl long, fun _ => ?_⟩
    rw [PriceTimeBook.restore, if_pos long]
  · rw [← PriceTimeBook.restore_snapshot_accepted (Nat.not_lt.mp long)]
    constructor
    · intro same
      exact .inr (congrArg (fun shown => (SnapshotStatus.ok, PriceTimeBook.snapshot shown)) same)
    · rintro (more | same)
      · exact absurd more long
      · exact PriceTimeBook.snapshot_inj config.symm (congrArg Prod.snd same)

/-- An order without a quantity is refused, and the order that rested is gone. -/
private theorem zero_quantity_refused : ∃ fresh, create ⟨100, 200, 2⟩ = some fresh ∧
    let book := final operate fresh [.call (.insert ⟨1, 7, .bid, 150, 5⟩)]
    (book.restore [⟨2, 7, .ask, 160, 0⟩]).1.status = .invalidQuantity ∧ book.orderCount = 1 ∧
      (book.restore [⟨2, 7, .ask, 160, 0⟩]).2.orderCount = 0 := by
  obtain ⟨fresh, created, -⟩ := create_represents ⟨100, 200, 2⟩ (by decide)
  have runs : ((create ⟨100, 200, 2⟩).map fun fresh =>
      let book := final operate fresh [.call (.insert ⟨1, 7, .bid, 150, 5⟩)]
      let restored := book.restore [⟨2, 7, .ask, 160, 0⟩]
      (restored.1.status, book.orderCount, restored.2.orderCount)) =
        some (.invalidQuantity, 1, 0) := by decide +kernel
  rw [created, Option.map_some, Option.some_inj, Prod.mk.injEq, Prod.mk.injEq] at runs
  exact ⟨fresh, created, runs⟩

theorem failed_restore_unchanged_iff_zero_quantity : ∃ fresh, create ⟨100, 200, 2⟩ = some fresh ∧
    let book := final operate fresh [.call (.insert ⟨1, 7, .bid, 150, 5⟩)]
    let orders : List OrderView := [⟨2, 7, .ask, 160, 0⟩]
    book.LooksLike (book.restore orders).2 ↔
      (2 : OrderCapacity).toNat < orders.length ∨
        book.snapshotInto (2 : OrderCapacity).toNat =
          (.ok, PriceTimeBook.listed (PriceTimeBook.accepted ⟨100, 200, 2⟩ [] orders)) := by
  obtain ⟨fresh, created, refused, -⟩ := zero_quantity_refused
  refine ⟨fresh, created, failed_restore_unchanged_iff ⟨fresh, created, _, rfl⟩ fun ok => ?_⟩
  rw [refused] at ok
  cases ok

/-- A failed restore can empty a book in use. -/
theorem failed_restore_empties_book : ∃ fresh, create ⟨100, 200, 2⟩ = some fresh ∧
    let book := final operate fresh [.call (.insert ⟨1, 7, .bid, 150, 5⟩)]
    let after := book.restore [⟨2, 7, .ask, 160, 0⟩]
    Reachable ⟨100, 200, 2⟩ book ∧ after.1.status ≠ .ok ∧ ¬ book.LooksLike after.2 := by
  obtain ⟨fresh, created, refused, before, after⟩ := zero_quantity_refused
  refine ⟨fresh, created, ⟨fresh, created, _, rfl⟩, fun ok => ?_, fun alike => ?_⟩
  · rw [refused] at ok
    cases ok
  · have count := alike.count
    rw [before, after] at count
    cases count

end OrderBook

end Fexma
