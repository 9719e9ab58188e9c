import Fexma.OrderBook.Snapshot

/-! An order book with the evidence that its parts are in step. The matcher holds
one of these and reads it through its contents. -/
namespace Fexma

/-- A facade some abstract book describes. -/
structure Book where
  facade : OrderBook
  represented : ∃ contents, facade.Represents contents

namespace Book

/-- What rests in the book, read back from a full snapshot. -/
def contents (book : Book) : PriceTimeBook :=
  ((PriceTimeBook.empty book.facade.config).restore
    (book.facade.snapshotInto book.facade.config.maxOrders.toNat).2).2

/-- A facade stands for one abstract book only, so its contents may be spoken of. -/
theorem contents_eq {book : Book} {abstract : PriceTimeBook}
    (represents : book.facade.Represents abstract) : book.contents = abstract := by
  have config : abstract.config = book.facade.config := by
    obtain ⟨_, _, _, config, _⟩ := represents
    exact config
  have fits : ¬ book.facade.config.maxOrders.toNat < abstract.all.length := by
    have := abstract.fits
    rw [config] at this
    exact Nat.not_lt.mpr this
  rw [contents, OrderBook.snapshotInto_eq represents, if_neg fits]
  exact congrArg Prod.snd (PriceTimeBook.restore_snapshot (by simp [PriceTimeBook.empty, config]))

/-- The facade of a book stands for its contents, in every state that the operations can
build. -/
theorem represents (book : Book) : book.facade.Represents book.contents := by
  obtain ⟨abstract, represents⟩ := book.represented
  rwa [contents_eq represents]

/-- Construction fails where the facade's constructor throws. -/
def create (config : OrderBookConfig) : Option Book :=
  if small : config.maxOrders ≤ OrderPool.maxCapacity then
    match created : OrderBook.create config with
    | none => none
    | some facade => some ⟨facade, by
        obtain ⟨book, made, represents⟩ := OrderBook.create_represents config small
        rw [created] at made
        cases made
        exact ⟨_, represents⟩⟩
  else none

def insert (book : Book) (order : RestingOrderData) : InsertStatus × Book :=
  ((book.facade.insert order).1, ⟨(book.facade.insert order).2, _,
    (OrderBook.insert_represents book.represents order).2⟩)

def best (book : Book) (side : Side) : Option OrderView := book.facade.best side

def erase (book : Book) (id : OrderId) : EraseResult × Book :=
  ((book.facade.erase id).1, ⟨(book.facade.erase id).2, _,
    (OrderBook.erase_represents book.represents id).2⟩)

def setRemaining (book : Book) (id : OrderId) (newRemaining : Quantity) :
    SetRemainingResult × Book :=
  ((book.facade.setRemaining id newRemaining).1, ⟨(book.facade.setRemaining id newRemaining).2, _,
    (OrderBook.setRemaining_represents book.represents id newRemaining).2⟩)

def snapshotInto (book : Book) (room : ℕ) : SnapshotStatus × List OrderView :=
  book.facade.snapshotInto room

def restore (book : Book) (orders : List OrderView) : RestoreResult × Book :=
  ((book.facade.restore orders).1, ⟨(book.facade.restore orders).2, _,
    (OrderBook.restore_represents book.represents orders).2⟩)

variable (book : Book)

theorem insert_status (order : RestingOrderData) :
    (book.insert order).1 = (book.contents.insert order).1 :=
  (OrderBook.insert_represents book.represents order).1

/-- An insertion acts on the contents as it does on the abstract book. The matcher reasons about
contents only. -/
theorem insert_contents (order : RestingOrderData) :
    (book.insert order).2.contents = (book.contents.insert order).2 :=
  contents_eq (OrderBook.insert_represents book.represents order).2

/-- The cached best order is the head of the priority list of its side. -/
theorem best_eq (side : Side) : book.best side = book.contents.best side :=
  OrderBook.best_eq book.represents side

theorem erase_status (id : OrderId) : (book.erase id).1 = (book.contents.erase id).1 :=
  (OrderBook.erase_represents book.represents id).1

theorem erase_contents (id : OrderId) :
    (book.erase id).2.contents = (book.contents.erase id).2 :=
  contents_eq (OrderBook.erase_represents book.represents id).2

theorem setRemaining_status (id : OrderId) (newRemaining : Quantity) :
    (book.setRemaining id newRemaining).1 = (book.contents.setRemaining id newRemaining).1 :=
  (OrderBook.setRemaining_represents book.represents id newRemaining).1

theorem setRemaining_contents (id : OrderId) (newRemaining : Quantity) :
    (book.setRemaining id newRemaining).2.contents =
      (book.contents.setRemaining id newRemaining).2 :=
  contents_eq (OrderBook.setRemaining_represents book.represents id newRemaining).2

/-- A snapshot copies the whole contents or, without room for them, nothing. -/
theorem snapshotInto_eq (room : ℕ) : book.snapshotInto room =
    if room < book.contents.all.length then (.capacityExceeded, [])
    else (.ok, book.contents.snapshot) :=
  OrderBook.snapshotInto_eq book.represents room

theorem restore_status (orders : List OrderView) :
    (book.restore orders).1 = (book.contents.restore orders).1 :=
  (OrderBook.restore_represents book.represents orders).1

/-- A restore acts on the contents as it does on the abstract book, also where it fails. -/
theorem restore_contents (orders : List OrderView) :
    (book.restore orders).2.contents = (book.contents.restore orders).2 :=
  contents_eq (OrderBook.restore_represents book.represents orders).2

theorem create_contents {config : OrderBookConfig} {book : Book}
    (created : create config = some book) : book.contents = PriceTimeBook.empty config := by
  unfold create at created
  split at created
  · rename_i small
    obtain ⟨facade, made, represents⟩ := OrderBook.create_represents config small
    split at created
    · cases created
    · rename_i same
      cases created
      rw [made] at same
      cases same
      exact contents_eq represents
  · cases created

theorem exists_create {config : OrderBookConfig} (small : config.maxOrders ≤ OrderPool.maxCapacity) :
    ∃ book, create config = some book := by
  obtain ⟨facade, made, -⟩ := OrderBook.create_represents config small
  unfold create
  rw [dif_pos small]
  split
  · rename_i absent
    rw [made] at absent
    cases absent
  · exact ⟨_, rfl⟩

end Book

end Fexma
