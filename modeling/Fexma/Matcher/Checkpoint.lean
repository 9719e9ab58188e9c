import Fexma.Matcher.ReplayPersistence
import Fexma.OrderBook.Operations

/-! Checkpoints of the matcher state (`replay.cpp`), and what a restored snapshot keeps: the
restored book and its original answer alike for ever, checkpoints included. -/
namespace Fexma

open Transducer

structure MatcherStateCheckpoint where
  lastOrderId : OrderId := 0
  nextEventSequence : EventSequence := 0
  orderCount : UInt32 := 0
  canonicalHash : UInt64 := 0
  deriving DecidableEq, Repr

namespace Checkpoint

def fnvOffset : UInt64 := 14695981039346656037
def fnvPrime : UInt64 := 1099511628211

def hashU8 (hash : UInt64) (value : UInt8) : UInt64 := (hash ^^^ value.toUInt64) * fnvPrime

def hashU32 (hash : UInt64) (value : UInt32) : UInt64 :=
  (List.range 4).foldl (fun hash index =>
    hashU8 hash (value >>> UInt32.ofNat (index * 8)).toUInt8) hash

def hashU64 (hash : UInt64) (value : UInt64) : UInt64 :=
  (List.range 8).foldl (fun hash index =>
    hashU8 hash (value >>> UInt64.ofNat (index * 8)).toUInt8) hash

/-- The value of a side in its enumeration. -/
def sideCode : Side → UInt8
  | .bid => 0
  | .ask => 1

def hashOrder (hash : UInt64) (order : OrderView) : UInt64 :=
  let hash := hashU64 hash order.id
  let hash := hashU64 hash order.ownerId
  let hash := hashU8 hash (sideCode order.side)
  let hash := hashU32 hash order.price
  hashU32 hash order.remaining

end Checkpoint

open Checkpoint

def hashOrderBookConfig (config : OrderBookConfig) : UInt64 :=
  let hash := hashU32 fnvOffset config.minPriceTick
  let hash := hashU32 hash config.maxPriceTick
  hashU32 hash config.maxOrders

/-- `scratch` is the length of the scratch buffer; a failure leaves the checkpoint as it is. -/
def makeMatcherStateCheckpoint (book : OrderBook) (bookConfig : OrderBookConfig)
    (lastOrderId : OrderId) (nextEventSequence : EventSequence) (scratch : ℕ)
    (checkpoint : MatcherStateCheckpoint) : ReplayResult × MatcherStateCheckpoint :=
  if scratch < book.orderCount.toNat then ({ status := .checkpointCapacityExceeded }, checkpoint)
  else match book.snapshotInto scratch with
    | (.capacityExceeded, _) => ({ status := .checkpointCapacityExceeded }, checkpoint)
    | (.ok, orders) =>
      let copied := UInt32.ofNat orders.length
      let hash := hashU64 fnvOffset lastOrderId
      let hash := hashU64 hash nextEventSequence
      let hash := hashU64 hash (hashOrderBookConfig bookConfig)
      let hash := hashU32 hash copied
      let canonicalHash := orders.foldl hashOrder hash
      ({ status := .ok, sequence := copied.toUInt64 },
        { lastOrderId, nextEventSequence, orderCount := copied, canonicalHash })

namespace OrderBook

variable {config : OrderBookConfig} {book restored : OrderBook} {abstract : PriceTimeBook}

/-- Books that stand for the same abstract book have the same checkpoints. -/
theorem Represents.checkpoint_eq (represents : book.Represents abstract)
    (represents' : restored.Represents abstract) :
    makeMatcherStateCheckpoint restored = makeMatcherStateCheckpoint book := by
  funext bookConfig lastOrderId nextEventSequence scratch checkpoint
  have counts : restored.orderCount.toNat = book.orderCount.toNat :=
    (orderCount_eq represents').trans (orderCount_eq represents).symm
  rw [makeMatcherStateCheckpoint, makeMatcherStateCheckpoint, counts,
    snapshotInto_eq represents' scratch, snapshotInto_eq represents scratch]

/-- A snapshot with room for all orders copies them all, and any book of the configuration
that restores the copy is then the same as the original to every run of operations. -/
theorem snapshot_restore_indistinguishable (reachable : Reachable config book)
    (other : Reachable config restored) (room : ℕ) :
    (room < book.orderCount.toNat → book.snapshotInto room = (.capacityExceeded, [])) ∧
    (book.orderCount.toNat ≤ room → ∃ orders, book.snapshotInto room = (.ok, orders)) ∧
    ∀ orders, book.snapshotInto room = (.ok, orders) →
      orders.length = book.orderCount.toNat ∧
      (restored.restore orders).1 = { status := .ok, restored := book.orderCount } ∧
      ∀ operations,
        outputs operate (restored.restore orders).2 operations = outputs operate book operations ∧
        makeMatcherStateCheckpoint (final operate (restored.restore orders).2 operations) =
          makeMatcherStateCheckpoint (final operate book operations) := by
  obtain ⟨abstract, same, represents⟩ := reachable.represented
  obtain ⟨abstract', same', represents'⟩ := other.represented
  have count := orderCount_eq represents
  have copied := snapshotInto_eq represents room
  rw [← count] at copied
  have length : abstract.snapshot.length = abstract.all.length :=
    (StableOrder.sort_perm.append_right _).length_eq
  have whole := PriceTimeBook.restore_snapshot (same'.trans same.symm)
  have back := restore_represents represents' abstract.snapshot
  rw [whole] at back
  refine ⟨fun short => ?_, fun fits => ?_, fun orders filled => ?_⟩
  · rw [copied, if_pos short]
  · exact ⟨abstract.snapshot, by rw [copied, if_neg (Nat.not_lt.mpr fits)]⟩
  · rw [copied] at filled
    split_ifs at filled
    · cases filled
    · obtain rfl : abstract.snapshot = orders := congrArg Prod.snd filled
      refine ⟨length.trans count.symm, ?_, fun operations => ⟨?_, ?_⟩⟩
      · rw [back.1, ← count, UInt32.ofNat_toNat]
      · rw [operations_simulate.outputs back.2, operations_simulate.outputs represents]
      · exact (operations_simulate.final represents).checkpoint_eq (operations_simulate.final back.2)

/-- Two orders at one price, restored into a book that another run has left in use. -/
theorem snapshot_restore_indistinguishable_fifo :
    ∃ book restored, Reachable ⟨100, 200, 3⟩ book ∧ Reachable ⟨100, 200, 3⟩ restored ∧
      book.snapshotInto 2 = (.ok, [⟨2, 7, .bid, 150, 5⟩, ⟨1, 8, .bid, 150, 2⟩]) ∧
      (restored.restore [⟨2, 7, .bid, 150, 5⟩, ⟨1, 8, .bid, 150, 2⟩]).1 =
        { status := .ok, restored := book.orderCount } := by
  obtain ⟨fresh, created, represents⟩ := create_represents ⟨100, 200, 3⟩ (by decide)
  let history : List BookOperation :=
    [.call (.insert ⟨2, 7, .bid, 150, 5⟩), .call (.insert ⟨1, 8, .bid, 150, 2⟩)]
  have reachable : Reachable ⟨100, 200, 3⟩ (final operate fresh history) :=
    ⟨fresh, created, history, rfl⟩
  have other : Reachable ⟨100, 200, 3⟩ (final operate fresh [.call (.insert ⟨9, 9, .ask, 120, 1⟩)]) :=
    ⟨fresh, created, _, rfl⟩
  have filled : (final operate fresh history).snapshotInto 2 =
      (.ok, [⟨2, 7, .bid, 150, 5⟩, ⟨1, 8, .bid, 150, 2⟩]) := by
    rw [snapshotInto_eq (operations_simulate.final represents)]
    decide
  obtain ⟨-, -, same⟩ := snapshot_restore_indistinguishable reachable other 2
  exact ⟨_, _, reachable, other, filled, (same _ filled).2.1⟩

end OrderBook

end Fexma
