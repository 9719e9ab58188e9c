import Fexma.OrderBook.Types

/-! Commands, events and result codes of the matcher (`types.hpp`). A tagged
union is an inductive type; `unknown` is a tag outside the enumeration. -/
namespace Fexma

abbrev ClientId := UInt64
abbrev CommandSequence := UInt64
abbrev EventSequence := UInt64
abbrev EventIndex := UInt32
abbrev EpochId := UInt64

structure NewLimitOrder where
  id : OrderId
  ownerId : OwnerId
  side : Side
  price : PriceTick
  quantity : Quantity
  deriving DecidableEq, Repr

structure LoadSnapshotCommand where
  saveSnapshotCommandSequence : CommandSequence
  snapshotEpochId : EpochId
  deriving DecidableEq, Repr

inductive Command where
  | none
  | newLimit (order : NewLimitOrder)
  | saveSnapshot
  | loadSnapshot (command : LoadSnapshotCommand)
  | shutdown
  | startReplay
  | stopReplay
  | unknown (tag : UInt8)
  deriving DecidableEq, Repr

structure CommandWalPayload where
  clientId : ClientId := 0
  message : Command := .none
  deriving DecidableEq, Repr

structure CommandEnvelope where
  commandSequence : CommandSequence := 0
  payload : CommandWalPayload := {}
  deriving DecidableEq, Repr

inductive CheckDecision where
  | pending
  | accepted
  | rejected
  | skipped
  deriving DecidableEq, Repr

inductive ReplayMode where
  | live
  | replay
  | restoring
  deriving DecidableEq, Repr

structure RiskResult where
  decision : CheckDecision := .pending
  reasonCode : UInt32 := 0
  deriving DecidableEq, Repr

structure ReserveResult where
  decision : CheckDecision := .pending
  reasonCode : UInt32 := 0
  deriving DecidableEq, Repr

structure CommandRingSlot where
  command : CommandEnvelope := {}
  risk : RiskResult := {}
  reserve : ReserveResult := {}
  deriving DecidableEq, Repr

structure MatcherSnapshotImage where
  saveSnapshotCommandSequence : CommandSequence := 0
  epochId : EpochId := 0
  lastOrderId : OrderId := 0
  nextEventSequence : EventSequence := 0
  bookConfig : OrderBookConfig := {}
  orders : List OrderView := []
  deriving DecidableEq, Repr

inductive SnapshotOperationStatus where
  | ok
  | unavailable
  | invalid
  | capacityExceeded
  | fatal
  deriving DecidableEq, Repr

inductive PublishStatus where
  | ok
  | fatal
  deriving DecidableEq, Repr

inductive FatalReason where
  | none
  | commandReaderFatal
  | eventWriterFatal
  | commandProducedNoEvent
  | nonMonotonicOrderId
  | bookEraseFailedAfterExecution
  | bookUpdateFailedAfterExecution
  | bookInsertFailedAfterExecution
  | snapshotCaptureFailed
  | snapshotLoadUnavailable
  | snapshotLoadInvalid
  deriving DecidableEq, Repr

inductive ProcessStatus where
  | continue
  | stop
  | fatal
  deriving DecidableEq, Repr

structure ProcessResult where
  status : ProcessStatus := .continue
  fatalReason : FatalReason := .none
  deriving DecidableEq, Repr

inductive RejectReason where
  | none
  | invalidQuantity
  | bookInsertFailed
  | unknownCommand
  deriving DecidableEq, Repr

structure TradeEvent where
  takerOrderId : OrderId
  makerOrderId : OrderId
  takerOwnerId : OwnerId
  makerOwnerId : OwnerId
  price : PriceTick
  quantity : Quantity
  deriving DecidableEq, Repr

structure OrderRestedEvent where
  id : OrderId
  ownerId : OwnerId
  side : Side
  price : PriceTick
  remaining : Quantity
  deriving DecidableEq, Repr

inductive Event where
  | none
  | accepted (id : OrderId)
  | rejected (id : OrderId) (reason : RejectReason)
  | trade (trade : TradeEvent)
  | rested (order : OrderRestedEvent)
  | done (id : OrderId)
  | saveSnapshot
  | loadSnapshot (saveSnapshotCommandSequence : CommandSequence) (snapshotEpochId : EpochId)
  | shutdown
  | fatal (reason : FatalReason) (offendingOrderId lastOrderId : OrderId)
  | startReplay
  | stopReplay
  deriving DecidableEq, Repr

structure EventWalPayload where
  clientId : ClientId
  causedByCommandSequence : CommandSequence
  indexInCommand : EventIndex
  isLastForCommand : Bool
  message : Event
  deriving DecidableEq, Repr

structure EventEnvelope where
  eventSequence : EventSequence
  payload : EventWalPayload
  deriving DecidableEq, Repr

end Fexma
