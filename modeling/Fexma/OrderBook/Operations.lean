import Fexma.OrderBook.Calls
import Fexma.OrderBook.ValidationProofs

/-! Runs of all public operations, snapshots and restores included. What one operation
keeps, every run keeps: the structure of the book, and the abstract book it stands for. -/
namespace Fexma

open Transducer

inductive BookOperation where
  | call (call : BookCall)
  | orderCount
  | snapshotInto (room : ℕ)
  | restore (orders : List OrderView)
  deriving DecidableEq, Repr

inductive BookReply where
  | answered (answer : BookAnswer)
  | counted (orders : OrderCapacity)
  | copied (status : SnapshotStatus) (orders : List OrderView)
  | restored (result : RestoreResult)
  deriving DecidableEq, Repr

namespace OrderBook

def operate (book : OrderBook) : BookOperation → BookReply × OrderBook
  | .call call => (.answered (book.call call).1, (book.call call).2)
  | .orderCount => (.counted book.orderCount, book)
  | .snapshotInto room => (.copied (book.snapshotInto room).1 (book.snapshotInto room).2, book)
  | .restore orders => (.restored (book.restore orders).1, (book.restore orders).2)

/-- The books that runs of operations lead to. -/
def Reachable (config : OrderBookConfig) (book : OrderBook) : Prop :=
  ∃ fresh, create config = some fresh ∧ ∃ operations, book = final operate fresh operations

end OrderBook

def PriceTimeBook.operate (book : PriceTimeBook) : BookOperation → BookReply × PriceTimeBook
  | .call call => (.answered (book.call call).1, (book.call call).2)
  | .orderCount => (.counted (UInt32.ofNat book.all.length), book)
  | .snapshotInto room =>
    (if room < book.all.length then .copied .capacityExceeded [] else .copied .ok book.snapshot, book)
  | .restore orders => (.restored (book.restore orders).1, (book.restore orders).2)

/-- Every operation of the facade is answered as on the abstract book and leads to related
states. -/
theorem operations_simulate :
    Simulates OrderBook.operate PriceTimeBook.operate OrderBook.Represents where
  output book abstract operation represents := by
    cases operation with
    | call call => exact congrArg BookReply.answered (order_book_simulates.output _ _ call represents)
    | orderCount =>
      have count := OrderBook.orderCount_eq represents
      refine congrArg BookReply.counted ?_
      rw [← count, UInt32.ofNat_toNat]
    | snapshotInto room =>
      have copied := OrderBook.snapshotInto_eq represents room
      simp only [OrderBook.operate, PriceTimeBook.operate, copied]
      split <;> rfl
    | restore orders =>
      exact congrArg BookReply.restored (OrderBook.restore_represents represents orders).1
  related book abstract operation represents := by
    cases operation with
    | call call => exact order_book_simulates.related _ _ call represents
    | orderCount => exact represents
    | snapshotInto room => exact represents
    | restore orders => exact (OrderBook.restore_represents represents orders).2

namespace PriceTimeBook

variable {book : PriceTimeBook}

/-- No operation changes the configuration. -/
theorem operate_config (operation : BookOperation) :
    (book.operate operation).2.config = book.config := by
  cases operation with
  | orderCount => rfl
  | snapshotInto room => rfl
  | restore orders =>
    exact restore_config book orders
  | call call =>
    cases call with
    | insert order => exact insert_config book order
    | best side => rfl
    | clear => rfl
    | erase id =>
      simp only [operate, PriceTimeBook.call, erase]
      split <;> rfl
    | setRemaining id newRemaining =>
      simp only [operate, PriceTimeBook.call, setRemaining]
      split_ifs
      · rfl
      · split <;> rfl

end PriceTimeBook

namespace OrderBook

variable {config : OrderBookConfig} {book : OrderBook}

theorem create_represented (created : create config = some book) :
    book.Represents (.empty config) := by
  have small : config.maxOrders ≤ OrderPool.maxCapacity := by
    by_contra large
    rw [create, OrderPool.create, if_pos (UInt32.not_le.mp large)] at created
    cases created
  obtain ⟨fresh, made, represents⟩ := create_represents config small
  rw [made] at created
  cases created
  exact represents

/-- A book that is reached by operations stands for some abstract book, so what is proved of
those holds of it. -/
theorem Reachable.represented (reachable : Reachable config book) :
    ∃ abstract, abstract.config = config ∧ book.Represents abstract := by
  obtain ⟨fresh, created, operations, rfl⟩ := reachable
  refine ⟨final PriceTimeBook.operate (.empty config) operations, ?_,
    operations_simulate.final (create_represented created)⟩
  refine final_invariant (P := fun abstract : PriceTimeBook => abstract.config = config) ?_ rfl
  intro abstract operation kept
  exact (PriceTimeBook.operate_config operation).trans kept

/-- A book that stands for an abstract one has the structure of a book, down to its links and
bitmaps. -/
theorem Represents.structured {abstract : PriceTimeBook} (represents : book.Represents abstract) :
    book.Structure := by
  obtain ⟨slots, free, rep, -, -⟩ := represents
  exact rep.structured

/-- Behind every run of operations from a fresh book, failed ones included, the book has its
structure, and its self-check says so. -/
theorem structure_kept (created : create config = some book) (operations : List BookOperation) :
    (final operate book operations).Structure ∧
      (final operate book operations).validateInvariants true true := by
  have sound := (operations_simulate.final (create_represented created) :
    (final operate book operations).Represents _).structured
  exact ⟨sound, sound.validateInvariants_true⟩

/-- So behind a duplicate, a restore that does not fit and an erase of the only order. -/
theorem structure_kept_full_book : ∃ book, create ⟨100, 200, 1⟩ = some book ∧
    (final operate book [.call (.insert ⟨1, 7, .bid, 150, 5⟩), .call (.insert ⟨1, 8, .ask, 151, 2⟩),
      .restore [⟨3, 7, .ask, 120, 4⟩, ⟨3, 7, .ask, 121, 4⟩], .call (.erase 1)]).Structure := by
  obtain ⟨book, created, -⟩ := create_represents ⟨100, 200, 1⟩ (by decide)
  exact ⟨book, created, (structure_kept created _).1⟩

end OrderBook

end Fexma
