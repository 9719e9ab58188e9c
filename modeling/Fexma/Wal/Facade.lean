import Fexma.Wal.Core
import Fexma.Wal.Persistence

/-! The composition of the log string, the persistence module and its slider (`wal.cpp`). The
slider owns the durable progress. -/
namespace Fexma.Wal

structure CloseResult where
  status : CloseStatus := .alreadyClosed
  deriving DecidableEq, Repr

structure WalFacade (δ : Type) where
  core : WalCore := {}
  persistenceSlider :
    Slider (PersistenceModule δ) BoundedRangeAcquire PersistenceBatchPublish :=
      { module := {}, acquirePolicy := {}, publishPolicy := .policy }
  config : WalConfig := {}
  isOpen : Bool := false

namespace WalFacade

variable {δ : Type} [Device δ]

/-- The durable frontier. -/
def durable (wal : WalFacade δ) : Position := wal.persistenceSlider.own

def persistence (wal : WalFacade δ) : PersistenceModule δ := wal.persistenceSlider.module

def runtimeConfig (config : WalConfig) : WalRuntimeConfig where
  payloadSize := config.payloadSize
  capacity := config.capacity
  alignment := config.alignment
  firstSequence := config.firstSequence

def physicalConfig (config : WalConfig) : PhysicalWalConfig where
  payloadSize := config.payloadSize
  alignment := config.alignment
  payloadSchemaVersion := config.payloadSchemaVersion
  streamKind := config.streamKind
  streamId := config.streamId
  epochId := config.epochId
  firstSequence := config.firstSequence
  manifestId := config.manifestId

/-- Whether the blocks and the adapter could be allocated, and the device of the file. -/
structure OpenAnswers (δ : Type) where
  blocks : Bool := true
  adapter : Bool := true
  device : δ

def open_ (wal : WalFacade δ) (config : WalConfig) (answers : OpenAnswers δ) : OpenStatus × WalFacade δ :=
  if wal.isOpen then (.alreadyOpen, wal)
  else if !validConfig config then (.invalidConfig, wal)
  else
    let core := wal.core.open_ (runtimeConfig config) answers.blocks
    if core.1 ≠ .ok then (core.1, { wal with core := core.2 })
    else
      let persistence :=
        wal.persistence.open_ (physicalConfig config) answers.adapter answers.device
      let slider := { wal.persistenceSlider with module := persistence.2 }
      if persistence.1 ≠ .ok then
        (persistence.1, { wal with core := core.2.close, persistenceSlider := slider })
      else
        (.ok,
          { core := core.2, persistenceSlider := slider.resetQuiescent 0, config, isOpen := true })

def tryPublish (wal : WalFacade δ) (payload : List UInt8) : PublishResult × WalFacade δ :=
  if !wal.isOpen then ({ status := .closed }, wal)
  else if payload.length ≠ wal.config.payloadSize.toNat then
    ({ status := .invalidPayloadSize }, wal)
  else if wal.core.sequenceExhausted then ({ status := .sequenceExhausted }, wal)
  else if wal.persistence.failed then ({ status := .ioError }, wal)
  else ((wal.core.tryPublish payload).1, { wal with core := (wal.core.tryPublish payload).2 })

/-- `set_maximum_count` of the slider's policy. -/
def setMaximumCount (wal : WalFacade δ) (batchSize : UInt32) :
    Slider (PersistenceModule δ) BoundedRangeAcquire PersistenceBatchPublish :=
  { wal.persistenceSlider with acquirePolicy := { maximumCount := batchSize.toUInt64 } }

def advanceDurable (wal : WalFacade δ) (batchSize : UInt32) : DurabilityResult × WalFacade δ :=
  if !wal.isOpen then ({ status := .closed, durableFrontier := wal.durable }, wal)
  else if wal.persistence.failed then
    ({ status := .ioError, durableFrontier := wal.durable }, wal)
  else
    let answer := (wal.setMaximumCount batchSize).processAvailable wal.core.tryView wal.core.head
    let wal' := { wal with persistenceSlider := answer.2 }
    if !answer.1.ok then ({ status := .ioError, durableFrontier := wal.durable }, wal')
    else
      ({ status := .ok, durableFrontier := wal'.durable
         records := answer.1.processedCount.toUInt32 }, wal')

/-- The result, and what the buffer holds then. -/
def tryConsume (wal : WalFacade δ) (buffer : List UInt8) : ConsumeResult × List UInt8 × WalFacade δ :=
  if !wal.isOpen then ({ status := .closed }, buffer, wal)
  else if buffer.length ≠ wal.config.payloadSize.toNat then
    ({ status := .invalidPayloadSize }, buffer, wal)
  else if wal.core.tail = wal.durable then ({ status := .empty }, buffer, wal)
  else
    let access := wal.core.tryView wal.core.tail
    if access.status ≠ .ok then ({ status := .empty }, buffer, wal)
    else
      ({ status := .ok, sequence := access.record.sequence },
        access.record.payload.take buffer.length,
        { wal with core := (wal.core.reclaim (wal.core.tail + 1)).2 })

def tryView (wal : WalFacade δ) (position : Position) : AccessResult :=
  if !wal.isOpen then { status := .closed } else wal.core.tryView position

def close (wal : WalFacade δ) : CloseResult × WalFacade δ :=
  if !wal.isOpen then ({ status := .alreadyClosed }, wal)
  else if wal.core.tail ≠ wal.durable then ({ status := .pendingConsumption }, wal)
  else if !wal.persistence.failed && wal.durable ≠ wal.core.head then
    ({ status := .pendingDurability }, wal)
  else
    let closed := wal.persistence.close
    let wal' :=
      { wal with
        isOpen := false
        persistenceSlider := { wal.persistenceSlider with module := closed.2 }
        core := wal.core.close }
    if !closed.1 || wal.persistence.failed then ({ status := .ioError }, wal')
    else if wal.core.sequenceExhausted then ({ status := .sequenceExhausted }, wal')
    else ({ status := .ok }, wal')

def snapshot (wal : WalFacade δ) : WalSnapshot :=
  { tail := wal.core.tail, durable := wal.durable, head := wal.core.head }

/-! ### Runs -/

/-- A call of a user. -/
inductive Call where
  | tryPublish (payload : List UInt8)
  | advanceDurable (batchSize : UInt32)
  | tryConsume (buffer : List UInt8)
  | tryView (position : Position)
  | close
  deriving DecidableEq, Repr

inductive Answer where
  | published (result : PublishResult)
  | advanced (result : DurabilityResult)
  | consumed (result : ConsumeResult) (buffer : List UInt8)
  | viewed (result : AccessResult)
  | closed (result : CloseResult)
  deriving DecidableEq, Repr

def perform (wal : WalFacade δ) : Call → Answer × WalFacade δ
  | .tryPublish payload => (.published (wal.tryPublish payload).1, (wal.tryPublish payload).2)
  | .advanceDurable batchSize =>
    (.advanced (wal.advanceDurable batchSize).1, (wal.advanceDurable batchSize).2)
  | .tryConsume buffer =>
    (.consumed (wal.tryConsume buffer).1 (wal.tryConsume buffer).2.1, (wal.tryConsume buffer).2.2)
  | .tryView position => (.viewed (wal.tryView position), wal)
  | .close => (.closed wal.close.1, wal.close.2)

/-- The calls of a run with their answers, and the state behind it. -/
inductive Runs (start : WalFacade δ) : List (Call × Answer) → WalFacade δ → Prop
  | start : Runs start [] start
  | step {log : List (Call × Answer)} {wal : WalFacade δ} (run : Runs start log wal) (call : Call) :
    Runs start (log ++ [(call, (wal.perform call).1)]) (wal.perform call).2

/-- The payloads that were accepted. -/
def published (log : List (Call × Answer)) : List (List UInt8) :=
  log.filterMap fun
    | (.tryPublish payload, .published result) => if result.status = .ok then some payload else none
    | _ => none

/-- The records that were consumed: their sequences and payloads. -/
def consumed (log : List (Call × Answer)) : List (UInt64 × List UInt8) :=
  log.filterMap fun
    | (.tryConsume _, .consumed result buffer) =>
      if result.status = .ok then some (result.sequence, buffer) else none
    | _ => none

end WalFacade

end Fexma.Wal
