import Fexma.Matcher.Types
import Fexma.Library.SlotRing
import Fexma.Library.Transducer

/-! The command pipeline (`command_pipeline.hpp`): a ring of slots and five
frontiers, each moved by one role. -/
namespace Fexma

structure CommandPipelineConfig where
  capacity : UInt32 := 0
  firstSequence : CommandSequence := 1
  deriving DecidableEq, Repr

inductive CommandPipelineStatus where
  | ok
  | empty
  | full
  | invalidConfig
  | allocationFailed
  | invalidCount
  | invalidDecision
  | sequenceExhausted
  | invalidSequence
  | persistenceFailed
  | closed
  | alreadyOpen
  deriving DecidableEq, Repr

structure CommandPipelineResult where
  status : CommandPipelineStatus := .closed
  sequence : CommandSequence := 0
  frontier : UInt64 := 0
  deriving DecidableEq, Repr

structure CommandPipeline where
  slots : ℕ → CommandRingSlot := fun _ => {}
  tail : UInt64 := 0
  reserveChecked : UInt64 := 0
  riskChecked : UInt64 := 0
  durable : UInt64 := 0
  head : UInt64 := 0
  persistenceFailed : Bool := false
  config : CommandPipelineConfig := {}
  nextLiveSequence : CommandSequence := 0
  sequenceExhausted : Bool := false
  isOpen : Bool := false

namespace CommandPipeline

/-- The largest command sequence. -/
def maxSequence : CommandSequence := 0xFFFFFFFFFFFFFFFF

def slotAt (pipeline : CommandPipeline) (position : UInt64) : CommandRingSlot :=
  SlotRing.read pipeline.config.capacity.toNat pipeline.slots position.toNat

def setSlotAt (pipeline : CommandPipeline) (position : UInt64) (slot : CommandRingSlot) :
    CommandPipeline :=
  { pipeline with
    slots := SlotRing.write pipeline.config.capacity.toNat pipeline.slots position.toNat slot }

/-- `allocated` says whether the slots and the control block could be allocated. -/
def «open» (pipeline : CommandPipeline) (config : CommandPipelineConfig) (allocated : Bool) :
    CommandPipelineStatus × CommandPipeline :=
  if pipeline.isOpen then (.alreadyOpen, pipeline)
  else if config.capacity = 0 || config.firstSequence = 0 then (.invalidConfig, pipeline)
  else if !allocated then (.allocationFailed, pipeline)
  else (.ok, { config, nextLiveSequence := config.firstSequence, isOpen := true })

def tryPublishEnvelope (pipeline : CommandPipeline) (command : CommandEnvelope) :
    CommandPipelineResult × CommandPipeline :=
  if !pipeline.isOpen then ({ status := .closed }, pipeline)
  else if pipeline.persistenceFailed then ({ status := .persistenceFailed }, pipeline)
  else if pipeline.head - pipeline.tail = pipeline.config.capacity.toUInt64 then
    ({ status := .full }, pipeline)
  else
    ({ status := .ok, sequence := command.commandSequence, frontier := pipeline.head + 1 },
      { pipeline.setSlotAt pipeline.head { command } with head := pipeline.head + 1 })

def tryPublish (pipeline : CommandPipeline) (payload : CommandWalPayload) :
    CommandPipelineResult × CommandPipeline :=
  if !pipeline.isOpen then ({ status := .closed }, pipeline)
  else if pipeline.persistenceFailed then ({ status := .persistenceFailed }, pipeline)
  else if pipeline.sequenceExhausted then ({ status := .sequenceExhausted }, pipeline)
  else
    let sequence := pipeline.nextLiveSequence
    let (published, pipeline) := pipeline.tryPublishEnvelope ⟨sequence, payload⟩
    if published.status ≠ .ok then (published, pipeline)
    else if sequence = maxSequence then (published, { pipeline with sequenceExhausted := true })
    else (published, { pipeline with nextLiveSequence := sequence + 1 })

def tryReplay (pipeline : CommandPipeline) (command : CommandEnvelope) :
    CommandPipelineResult × CommandPipeline :=
  if !pipeline.isOpen then ({ status := .closed }, pipeline)
  else if pipeline.persistenceFailed then ({ status := .persistenceFailed }, pipeline)
  else if command.commandSequence = 0 then ({ status := .invalidSequence }, pipeline)
  else pipeline.tryPublishEnvelope command

def restoreLiveSequence (pipeline : CommandPipeline) (nextSequence : CommandSequence) :
    CommandPipelineStatus × CommandPipeline :=
  if !pipeline.isOpen then (.closed, pipeline)
  else if nextSequence = 0 then (.invalidSequence, pipeline)
  else (.ok, { pipeline with nextLiveSequence := nextSequence, sequenceExhausted := false })

/-- The second part is what the caller's command is set to, if it is. -/
def copyPendingForPersistence (pipeline : CommandPipeline) (batchOffset : UInt32) :
    CommandPipelineResult × Option CommandEnvelope :=
  if !pipeline.isOpen then ({ status := .closed }, none)
  else if pipeline.persistenceFailed then ({ status := .persistenceFailed }, none)
  else
    let position := pipeline.durable + batchOffset.toUInt64
    if position < pipeline.durable || pipeline.head ≤ position then ({ status := .empty }, none)
    else
      let command := (pipeline.slotAt position).command
      ({ status := .ok, sequence := command.commandSequence, frontier := position }, some command)

def publishDurable (pipeline : CommandPipeline) (count : UInt32) :
    CommandPipelineResult × CommandPipeline :=
  if !pipeline.isOpen then ({ status := .closed }, pipeline)
  else if pipeline.persistenceFailed then ({ status := .persistenceFailed }, pipeline)
  else if count = 0 then ({ status := .invalidCount }, pipeline)
  else if pipeline.head - pipeline.durable < count.toUInt64 then
    ({ status := .invalidCount }, pipeline)
  else
    let next := pipeline.durable + count.toUInt64
    ({ status := .ok, sequence := (pipeline.slotAt (next - 1)).command.commandSequence,
       frontier := next }, { pipeline with durable := next })

def failPersistence (pipeline : CommandPipeline) : CommandPipeline :=
  if !pipeline.isOpen then pipeline else { pipeline with persistenceFailed := true }

def tryReadForRisk (pipeline : CommandPipeline) : CommandPipelineResult × Option CommandEnvelope :=
  if !pipeline.isOpen then ({ status := .closed }, none)
  else if pipeline.riskChecked = pipeline.durable then ({ status := .empty }, none)
  else
    let command := (pipeline.slotAt pipeline.riskChecked).command
    ({ status := .ok, sequence := command.commandSequence, frontier := pipeline.riskChecked },
      some command)

def publishRisk (pipeline : CommandPipeline) (result : RiskResult) :
    CommandPipelineResult × CommandPipeline :=
  if !pipeline.isOpen then ({ status := .closed }, pipeline)
  else if result.decision = .pending then ({ status := .invalidDecision }, pipeline)
  else if pipeline.riskChecked = pipeline.durable then ({ status := .empty }, pipeline)
  else
    let risk := pipeline.riskChecked
    let slot := { pipeline.slotAt risk with risk := result }
    ({ status := .ok, sequence := slot.command.commandSequence, frontier := risk + 1 },
      { pipeline.setSlotAt risk slot with riskChecked := risk + 1 })

def tryReadForReserve (pipeline : CommandPipeline) :
    CommandPipelineResult × Option (CommandEnvelope × RiskResult) :=
  if !pipeline.isOpen then ({ status := .closed }, none)
  else if pipeline.reserveChecked = pipeline.riskChecked then ({ status := .empty }, none)
  else
    let slot := pipeline.slotAt pipeline.reserveChecked
    ({ status := .ok, sequence := slot.command.commandSequence, frontier := pipeline.reserveChecked },
      some (slot.command, slot.risk))

def publishReserve (pipeline : CommandPipeline) (result : ReserveResult) :
    CommandPipelineResult × CommandPipeline :=
  if !pipeline.isOpen then ({ status := .closed }, pipeline)
  else if result.decision = .pending then ({ status := .invalidDecision }, pipeline)
  else if pipeline.reserveChecked = pipeline.riskChecked then ({ status := .empty }, pipeline)
  else
    let reserve := pipeline.reserveChecked
    let slot := { pipeline.slotAt reserve with reserve := result }
    ({ status := .ok, sequence := slot.command.commandSequence, frontier := reserve + 1 },
      { pipeline.setSlotAt reserve slot with reserveChecked := reserve + 1 })

def tryConsume (pipeline : CommandPipeline) :
    CommandPipelineResult × Option CommandRingSlot × CommandPipeline :=
  if !pipeline.isOpen then ({ status := .closed }, none, pipeline)
  else if pipeline.tail = pipeline.reserveChecked then ({ status := .empty }, none, pipeline)
  else
    let slot := pipeline.slotAt pipeline.tail
    ({ status := .ok, sequence := slot.command.commandSequence, frontier := pipeline.tail + 1 },
      some slot, { pipeline with tail := pipeline.tail + 1 })

end CommandPipeline

/-! ### Calls in any order -/

inductive PipelineCall where
  | open (config : CommandPipelineConfig) (allocated : Bool)
  | tryPublish (payload : CommandWalPayload)
  | tryReplay (command : CommandEnvelope)
  | restoreLiveSequence (nextSequence : CommandSequence)
  | copyPendingForPersistence (batchOffset : UInt32)
  | publishDurable (count : UInt32)
  | failPersistence
  | tryReadForRisk
  | publishRisk (result : RiskResult)
  | tryReadForReserve
  | publishReserve (result : ReserveResult)
  | tryConsume

inductive PipelineAnswer where
  | status (status : CommandPipelineStatus)
  | result (result : CommandPipelineResult)
  | command (result : CommandPipelineResult) (command : Option CommandEnvelope)
  | checked (result : CommandPipelineResult) (checked : Option (CommandEnvelope × RiskResult))
  | slot (result : CommandPipelineResult) (slot : Option CommandRingSlot)
  | none
  deriving DecidableEq, Repr

/-- One call of one role, taken as one step. -/
def CommandPipeline.call (pipeline : CommandPipeline) : PipelineCall → PipelineAnswer × CommandPipeline
  | .open config allocated =>
    (.status (pipeline.open config allocated).1, (pipeline.open config allocated).2)
  | .tryPublish payload => (.result (pipeline.tryPublish payload).1, (pipeline.tryPublish payload).2)
  | .tryReplay command => (.result (pipeline.tryReplay command).1, (pipeline.tryReplay command).2)
  | .restoreLiveSequence nextSequence =>
    (.status (pipeline.restoreLiveSequence nextSequence).1,
      (pipeline.restoreLiveSequence nextSequence).2)
  | .copyPendingForPersistence batchOffset =>
    (.command (pipeline.copyPendingForPersistence batchOffset).1
      (pipeline.copyPendingForPersistence batchOffset).2, pipeline)
  | .publishDurable count =>
    (.result (pipeline.publishDurable count).1, (pipeline.publishDurable count).2)
  | .failPersistence => (.none, pipeline.failPersistence)
  | .tryReadForRisk => (.command pipeline.tryReadForRisk.1 pipeline.tryReadForRisk.2, pipeline)
  | .publishRisk result => (.result (pipeline.publishRisk result).1, (pipeline.publishRisk result).2)
  | .tryReadForReserve =>
    (.checked pipeline.tryReadForReserve.1 pipeline.tryReadForReserve.2, pipeline)
  | .publishReserve result =>
    (.result (pipeline.publishReserve result).1, (pipeline.publishReserve result).2)
  | .tryConsume => (.slot pipeline.tryConsume.1 pipeline.tryConsume.2.1, pipeline.tryConsume.2.2)

/-- What the callers know: the commands published, the results published for them and
the slots consumed, in order. -/
structure PipelineHistory where
  published : List CommandEnvelope := []
  risks : List RiskResult := []
  reserves : List ReserveResult := []
  consumed : List CommandRingSlot := []

/-- A call and its answer, noted. -/
def PipelineHistory.note (history : PipelineHistory) :
    PipelineCall → PipelineAnswer → PipelineHistory
  | .tryPublish payload, .result result =>
    if result.status = .ok then
      { history with published := history.published ++ [⟨result.sequence, payload⟩] }
    else history
  | .tryReplay command, .result result =>
    if result.status = .ok then { history with published := history.published ++ [command] }
    else history
  | .publishRisk risk, .result result =>
    if result.status = .ok then { history with risks := history.risks ++ [risk] } else history
  | .publishReserve reserve, .result result =>
    if result.status = .ok then { history with reserves := history.reserves ++ [reserve] }
    else history
  | .tryConsume, .slot _ (some slot) => { history with consumed := history.consumed ++ [slot] }
  | _, _ => history

/-- The pipeline with its history. -/
structure NotedPipeline where
  pipeline : CommandPipeline
  history : PipelineHistory := {}

def NotedPipeline.call (noted : NotedPipeline) (call : PipelineCall) : PipelineAnswer × NotedPipeline :=
  ((noted.pipeline.call call).1,
    { pipeline := (noted.pipeline.call call).2
      history := noted.history.note call (noted.pipeline.call call).1 })

end Fexma
