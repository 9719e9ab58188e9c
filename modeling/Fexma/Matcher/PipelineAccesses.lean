import Fexma.Library.Interleaving
import Fexma.Matcher.PipelineSafety

/-! The calls of the command pipeline as the memory accesses they consist of. Each role runs on a
thread of its own; a frontier or the failure flag that another role writes may be read as it was
some time ago, but a frontier never as it was before the value last read. -/
namespace Fexma

open Interleaving

inductive PipelineRole where
  | producer
  | persistence
  | risk
  | reserve
  | matcher
  deriving DecidableEq, Repr

/-- An access to the flag, to a frontier, to the live cursor or to a part of a slot. -/
inductive PipelineAccess where
  | loadFailed
  | storeFailed
  | loadOwn
  | loadUpstream
  | storeOwn (frontier : UInt64)
  | loadCursor
  | storeCursor (nextLiveSequence : CommandSequence) (sequenceExhausted : Bool)
  | readCommand (position : UInt64)
  | readRisk (position : UInt64)
  | readReserve (position : UInt64)
  | readSequence (position : UInt64)
  | writeCommand (position : UInt64) (command : CommandEnvelope)
  | writeRisk (position : UInt64) (risk : RiskResult)
  | writeReserve (position : UInt64) (reserve : ReserveResult)
  deriving DecidableEq, Repr

abbrev PipelineAccess.Answer : PipelineAccess → Type
  | loadFailed => Bool
  | loadOwn | loadUpstream => UInt64
  | loadCursor => CommandSequence × Bool
  | readCommand _ => CommandEnvelope
  | readRisk _ => RiskResult
  | readReserve _ => ReserveResult
  | readSequence _ => CommandSequence
  | storeFailed | storeOwn _ | storeCursor _ _ | writeCommand _ _ | writeRisk _ _
  | writeReserve _ _ => Unit

abbrev PipelineProgram (α : Type) : Type := Program PipelineAccess PipelineAccess.Answer α

/-! ### The calls -/

namespace PipelineProgram

variable (config : CommandPipelineConfig)

def tryPublishEnvelope (command : CommandEnvelope) : PipelineProgram CommandPipelineResult :=
  .access .loadFailed fun failed =>
  if failed then .done { status := .persistenceFailed }
  else
    .access .loadOwn fun head =>
    .access .loadUpstream fun tail =>
    if head - tail = config.capacity.toUInt64 then .done { status := .full }
    else
      .access (.writeCommand head command) fun _ =>
      .access (.writeRisk head {}) fun _ =>
      .access (.writeReserve head {}) fun _ =>
      .access (.storeOwn (head + 1)) fun _ =>
      .done { status := .ok, sequence := command.commandSequence, frontier := head + 1 }

def tryPublish (payload : CommandWalPayload) : PipelineProgram CommandPipelineResult :=
  .access .loadFailed fun failed =>
  if failed then .done { status := .persistenceFailed }
  else
    .access .loadCursor fun (sequence, exhausted) =>
    if exhausted then .done { status := .sequenceExhausted }
    else
      (tryPublishEnvelope config ⟨sequence, payload⟩).bind fun published =>
      if published.status ≠ .ok then .done published
      else if sequence = CommandPipeline.maxSequence then
        .access (.storeCursor sequence true) fun _ => .done published
      else .access (.storeCursor (sequence + 1) exhausted) fun _ => .done published

def tryReplay (command : CommandEnvelope) : PipelineProgram CommandPipelineResult :=
  .access .loadFailed fun failed =>
  if failed then .done { status := .persistenceFailed }
  else if command.commandSequence = 0 then .done { status := .invalidSequence }
  else tryPublishEnvelope config command

def restoreLiveSequence (nextSequence : CommandSequence) : PipelineProgram CommandPipelineStatus :=
  if nextSequence = 0 then .done .invalidSequence
  else .access (.storeCursor nextSequence false) fun _ => .done .ok

def copyPendingForPersistence (batchOffset : UInt32) :
    PipelineProgram (CommandPipelineResult × Option CommandEnvelope) :=
  .access .loadFailed fun failed =>
  if failed then .done ({ status := .persistenceFailed }, none)
  else
    .access .loadOwn fun durable =>
    .access .loadUpstream fun head =>
    if durable + batchOffset.toUInt64 < durable || head ≤ durable + batchOffset.toUInt64 then
      .done ({ status := .empty }, none)
    else
      .access (.readCommand (durable + batchOffset.toUInt64)) fun command =>
      .done ({ status := .ok, sequence := command.commandSequence,
               frontier := durable + batchOffset.toUInt64 }, some command)

def publishDurable (count : UInt32) : PipelineProgram CommandPipelineResult :=
  .access .loadFailed fun failed =>
  if failed then .done { status := .persistenceFailed }
  else if count = 0 then .done { status := .invalidCount }
  else
    .access .loadOwn fun durable =>
    .access .loadUpstream fun head =>
    if head - durable < count.toUInt64 then .done { status := .invalidCount }
    else
      .access (.readSequence (durable + count.toUInt64 - 1)) fun sequence =>
      .access (.storeOwn (durable + count.toUInt64)) fun _ =>
      .done { status := .ok, sequence, frontier := durable + count.toUInt64 }

def failPersistence : PipelineProgram Unit := .access .storeFailed .done

def tryReadForRisk : PipelineProgram (CommandPipelineResult × Option CommandEnvelope) :=
  .access .loadOwn fun risk =>
  .access .loadUpstream fun durable =>
  if risk = durable then .done ({ status := .empty }, none)
  else
    .access (.readCommand risk) fun command =>
    .done ({ status := .ok, sequence := command.commandSequence, frontier := risk }, some command)

/-- The sequence is read behind the publication. -/
def publishRisk (result : RiskResult) : PipelineProgram CommandPipelineResult :=
  if result.decision = .pending then .done { status := .invalidDecision }
  else
    .access .loadOwn fun risk =>
    .access .loadUpstream fun durable =>
    if risk = durable then .done { status := .empty }
    else
      .access (.writeRisk risk result) fun _ =>
      .access (.storeOwn (risk + 1)) fun _ =>
      .access (.readSequence risk) fun sequence =>
      .done { status := .ok, sequence, frontier := risk + 1 }

def tryReadForReserve :
    PipelineProgram (CommandPipelineResult × Option (CommandEnvelope × RiskResult)) :=
  .access .loadOwn fun reserve =>
  .access .loadUpstream fun risk =>
  if reserve = risk then .done ({ status := .empty }, none)
  else
    .access (.readCommand reserve) fun command =>
    .access (.readRisk reserve) fun result =>
    .done
      ({ status := .ok, sequence := command.commandSequence, frontier := reserve },
        some (command, result))

/-- The sequence is read behind the publication. -/
def publishReserve (result : ReserveResult) : PipelineProgram CommandPipelineResult :=
  if result.decision = .pending then .done { status := .invalidDecision }
  else
    .access .loadOwn fun reserve =>
    .access .loadUpstream fun risk =>
    if reserve = risk then .done { status := .empty }
    else
      .access (.writeReserve reserve result) fun _ =>
      .access (.storeOwn (reserve + 1)) fun _ =>
      .access (.readSequence reserve) fun sequence =>
      .done { status := .ok, sequence, frontier := reserve + 1 }

def tryConsume : PipelineProgram (CommandPipelineResult × Option CommandRingSlot) :=
  .access .loadOwn fun tail =>
  .access .loadUpstream fun reserve =>
  if tail = reserve then .done ({ status := .empty }, none)
  else
    .access (.readCommand tail) fun command =>
    .access (.readRisk tail) fun risk =>
    .access (.readReserve tail) fun reserve =>
    .access (.storeOwn (tail + 1)) fun _ =>
    .done
      ({ status := .ok, sequence := command.commandSequence, frontier := tail + 1 },
        some { command, risk, reserve })

/-- A call of an open pipeline. -/
def ofCall : PipelineCall → PipelineProgram PipelineAnswer
  | .open _ _ => .done (.status .alreadyOpen)
  | .tryPublish payload => (tryPublish config payload).map .result
  | .tryReplay command => (tryReplay config command).map .result
  | .restoreLiveSequence nextSequence => (restoreLiveSequence nextSequence).map .status
  | .copyPendingForPersistence batchOffset =>
    (copyPendingForPersistence batchOffset).map fun answer => .command answer.1 answer.2
  | .publishDurable count => (publishDurable count).map .result
  | .failPersistence => failPersistence.map fun _ => .none
  | .tryReadForRisk => tryReadForRisk.map fun answer => .command answer.1 answer.2
  | .publishRisk result => (publishRisk result).map .result
  | .tryReadForReserve => tryReadForReserve.map fun answer => .checked answer.1 answer.2
  | .publishReserve result => (publishReserve result).map .result
  | .tryConsume => tryConsume.map fun answer => .slot answer.1 answer.2

end PipelineProgram

/-- The one role that makes a call; to restore the live cursor is left to the producer, which must
be quiet then. -/
def PipelineCall.role : PipelineCall → PipelineRole
  | .open _ _ | .tryPublish _ | .tryReplay _ | .restoreLiveSequence _ => .producer
  | .copyPendingForPersistence _ | .publishDurable _ | .failPersistence => .persistence
  | .tryReadForRisk | .publishRisk _ => .risk
  | .tryReadForReserve | .publishReserve _ => .reserve
  | .tryConsume => .matcher

/-! ### The memory -/

/-- The pipeline in memory, with what has been published and consumed and the value of the
frontier in front of it that each role has read last. -/
structure SharedPipeline where
  pipeline : CommandPipeline
  history : PipelineHistory := {}
  seen : PipelineRole → UInt64 := fun _ => 0

namespace PipelineRole

/-- The frontier that a role writes. -/
def frontier (pipeline : CommandPipeline) : PipelineRole → UInt64
  | producer => pipeline.head
  | persistence => pipeline.durable
  | risk => pipeline.riskChecked
  | reserve => pipeline.reserveChecked
  | matcher => pipeline.tail

/-- The role whose frontier a role follows; the producer follows the matcher around the ring. -/
def ahead : PipelineRole → PipelineRole
  | producer => matcher
  | persistence => producer
  | risk => persistence
  | reserve => risk
  | matcher => reserve

def withFrontier (pipeline : CommandPipeline) (frontier : UInt64) : PipelineRole → CommandPipeline
  | producer => { pipeline with head := frontier }
  | persistence => { pipeline with durable := frontier }
  | risk => { pipeline with riskChecked := frontier }
  | reserve => { pipeline with reserveChecked := frontier }
  | matcher => { pipeline with tail := frontier }

/-- What a role has done when it moves its frontier, as its slot has it. -/
def note (shared : SharedPipeline) : PipelineRole → PipelineHistory
  | producer =>
    { shared.history with
      published := shared.history.published ++
        [(shared.pipeline.slotAt shared.pipeline.head).command] }
  | persistence => shared.history
  | risk =>
    { shared.history with
      risks := shared.history.risks ++
        [(shared.pipeline.slotAt shared.pipeline.riskChecked).risk] }
  | reserve =>
    { shared.history with
      reserves := shared.history.reserves ++
        [(shared.pipeline.slotAt shared.pipeline.reserveChecked).reserve] }
  | matcher =>
    { shared.history with
      consumed := shared.history.consumed ++ [shared.pipeline.slotAt shared.pipeline.tail] }

end PipelineRole

namespace SharedPipeline

/-- An access that reads what is there now. -/
def perform (role : PipelineRole) (shared : SharedPipeline) :
    (access : PipelineAccess) → access.Answer × SharedPipeline
  | .loadFailed => (shared.pipeline.persistenceFailed, shared)
  | .storeFailed => ((), { shared with pipeline.persistenceFailed := true })
  | .loadOwn => (role.frontier shared.pipeline, shared)
  | .loadUpstream =>
    (role.ahead.frontier shared.pipeline,
      { shared with
        seen := Function.update shared.seen role (role.ahead.frontier shared.pipeline) })
  | .storeOwn frontier =>
    ((), { shared with
      pipeline := role.withFrontier shared.pipeline frontier, history := role.note shared })
  | .loadCursor =>
    ((shared.pipeline.nextLiveSequence, shared.pipeline.sequenceExhausted), shared)
  | .storeCursor nextLiveSequence sequenceExhausted =>
    ((), { shared with pipeline := { shared.pipeline with nextLiveSequence, sequenceExhausted } })
  | .readCommand position => ((shared.pipeline.slotAt position).command, shared)
  | .readRisk position => ((shared.pipeline.slotAt position).risk, shared)
  | .readReserve position => ((shared.pipeline.slotAt position).reserve, shared)
  | .readSequence position => ((shared.pipeline.slotAt position).command.commandSequence, shared)
  | .writeCommand position command =>
    ((), { shared with pipeline :=
      shared.pipeline.setSlotAt position { shared.pipeline.slotAt position with command } })
  | .writeRisk position risk =>
    ((), { shared with pipeline :=
      shared.pipeline.setSlotAt position { shared.pipeline.slotAt position with risk } })
  | .writeReserve position reserve =>
    ((), { shared with pipeline :=
      shared.pipeline.setSlotAt position { shared.pipeline.slotAt position with reserve } })

/-- An access as another thread's stores may reach it late. The producer stays below `2 ^ 64`
commands. -/
def Does (role : PipelineRole) (before : SharedPipeline) :
    (access : PipelineAccess) → access.Answer → SharedPipeline → Prop
  | .loadFailed, failed, after =>
    (failed = true → before.pipeline.persistenceFailed = true) ∧
      (role = .persistence → failed = before.pipeline.persistenceFailed) ∧ after = before
  | .loadUpstream, upstream, after =>
    before.seen role ≤ upstream ∧ upstream ≤ role.ahead.frontier before.pipeline ∧
      after = { before with seen := Function.update before.seen role upstream }
  | .storeOwn frontier, _, after =>
    after = (before.perform role (.storeOwn frontier)).2 ∧
      after.history.published.length < 2 ^ 64
  | access, answer, after => (answer, after) = before.perform role access

end SharedPipeline

/-! ### A call alone -/

namespace CommandPipeline

variable {pipeline : CommandPipeline} {position : UInt64} {slot other : CommandRingSlot}

@[simp] theorem slotAt_setSlotAt : (pipeline.setSlotAt position slot).slotAt position = slot :=
  SlotRing.read_write

@[simp] theorem setSlotAt_setSlotAt :
    (pipeline.setSlotAt position slot).setSlotAt position other =
      pipeline.setSlotAt position other := by
  simp [setSlotAt, SlotRing.write]

@[simp] theorem setSlotAt_head : (pipeline.setSlotAt position slot).head = pipeline.head := rfl

@[simp] theorem setSlotAt_riskChecked :
    (pipeline.setSlotAt position slot).riskChecked = pipeline.riskChecked := rfl

@[simp] theorem setSlotAt_reserveChecked :
    (pipeline.setSlotAt position slot).reserveChecked = pipeline.reserveChecked := rfl

@[simp] theorem setSlotAt_sequenceExhausted :
    (pipeline.setSlotAt position slot).sequenceExhausted = pipeline.sequenceExhausted := rfl

end CommandPipeline

namespace PipelineProgram

/-- How a program ends that no other role gets in between, next to the atomic call. -/
def Agrees {α : Type} (program : PipelineProgram α) (role : PipelineRole) (shared : SharedPipeline)
    (answer : α) (pipeline : CommandPipeline) (history : PipelineHistory) : Prop :=
  ∃ seen, program.alone (SharedPipeline.perform role) shared = (answer, { pipeline, history, seen })

attribute [local simp] SharedPipeline.perform PipelineRole.frontier PipelineRole.ahead
  PipelineRole.withFrontier PipelineRole.note Program.alone

section Alone
variable {shared : SharedPipeline} (isOpen : shared.pipeline.isOpen = true)
include isOpen

theorem tryPublishEnvelope_alone (command : CommandEnvelope) :
    Agrees (tryPublishEnvelope shared.pipeline.config command) .producer shared
      (shared.pipeline.tryPublishEnvelope command).1 (shared.pipeline.tryPublishEnvelope command).2
      (if (shared.pipeline.tryPublishEnvelope command).1.status = .ok then
        { shared.history with published := shared.history.published ++ [command] }
      else shared.history) := by
  by_cases failed : shared.pipeline.persistenceFailed = true
  · exact ⟨shared.seen, by
      simp [tryPublishEnvelope, CommandPipeline.tryPublishEnvelope, isOpen, failed]⟩
  · refine ⟨Function.update shared.seen .producer shared.pipeline.tail, ?_⟩
    by_cases full : shared.pipeline.head - shared.pipeline.tail =
        shared.pipeline.config.capacity.toUInt64
    · simp [tryPublishEnvelope, CommandPipeline.tryPublishEnvelope, isOpen, failed, full]
    · simp [tryPublishEnvelope, CommandPipeline.tryPublishEnvelope, isOpen, failed, full]

theorem tryReplay_alone (command : CommandEnvelope) :
    Agrees (tryReplay shared.pipeline.config command) .producer shared
      (shared.pipeline.tryReplay command).1 (shared.pipeline.tryReplay command).2
      (if (shared.pipeline.tryReplay command).1.status = .ok then
        { shared.history with published := shared.history.published ++ [command] }
      else shared.history) := by
  by_cases failed : shared.pipeline.persistenceFailed = true
  · exact ⟨shared.seen, by simp [tryReplay, CommandPipeline.tryReplay, isOpen, failed]⟩
  by_cases zero : command.commandSequence = 0
  · exact ⟨shared.seen, by simp [tryReplay, CommandPipeline.tryReplay, isOpen, failed, zero]⟩
  obtain ⟨seen, agrees⟩ := tryPublishEnvelope_alone isOpen command
  refine ⟨seen, ?_⟩
  simp [tryReplay, CommandPipeline.tryReplay, isOpen, failed, zero, agrees]

theorem tryPublish_alone (payload : CommandWalPayload) :
    Agrees (tryPublish shared.pipeline.config payload) .producer shared
      (shared.pipeline.tryPublish payload).1 (shared.pipeline.tryPublish payload).2
      (if (shared.pipeline.tryPublish payload).1.status = .ok then
        { shared.history with published := shared.history.published ++
          [⟨(shared.pipeline.tryPublish payload).1.sequence, payload⟩] }
      else shared.history) := by
  by_cases failed : shared.pipeline.persistenceFailed = true
  · exact ⟨shared.seen, by simp [tryPublish, CommandPipeline.tryPublish, isOpen, failed]⟩
  by_cases exhausted : shared.pipeline.sequenceExhausted = true
  · exact ⟨shared.seen, by simp [tryPublish, CommandPipeline.tryPublish, isOpen, failed, exhausted]⟩
  obtain ⟨seen, agrees⟩ :=
    tryPublishEnvelope_alone isOpen ⟨shared.pipeline.nextLiveSequence, payload⟩
  refine ⟨seen, ?_⟩
  rw [tryPublish, CommandPipeline.tryPublish, if_neg (by simp [isOpen]), if_neg failed,
    if_neg exhausted]
  rcases shared.pipeline.tryPublishEnvelope_cases ⟨shared.pipeline.nextLiveSequence, payload⟩ with
    ⟨refused, same⟩ | ⟨-, taken⟩
  · simp [failed, exhausted, Program.alone_bind, agrees, refused, same]
  · rw [taken, if_pos rfl] at agrees
    by_cases last : shared.pipeline.nextLiveSequence = CommandPipeline.maxSequence
    · have kept : shared.pipeline.nextLiveSequence =
          (shared.pipeline.setSlotAt shared.pipeline.head
            { command := ⟨shared.pipeline.nextLiveSequence, payload⟩ }).nextLiveSequence := rfl
      rw [last] at agrees taken kept
      simp [failed, exhausted, Program.alone_bind, agrees, taken, last, ← kept]
    · simp [failed, exhausted, Program.alone_bind, agrees, taken, last]

theorem restoreLiveSequence_alone (nextSequence : CommandSequence) :
    Agrees (restoreLiveSequence nextSequence) .producer shared
      (shared.pipeline.restoreLiveSequence nextSequence).1
      (shared.pipeline.restoreLiveSequence nextSequence).2 shared.history := by
  by_cases zero : nextSequence = 0
  · exact ⟨shared.seen, by
      simp [restoreLiveSequence, CommandPipeline.restoreLiveSequence, isOpen, zero]⟩
  · exact ⟨shared.seen, by
      simp [restoreLiveSequence, CommandPipeline.restoreLiveSequence, isOpen, zero]⟩

theorem copyPendingForPersistence_alone (batchOffset : UInt32) :
    Agrees (copyPendingForPersistence batchOffset) .persistence shared
      (shared.pipeline.copyPendingForPersistence batchOffset) shared.pipeline shared.history := by
  by_cases failed : shared.pipeline.persistenceFailed = true
  · exact ⟨shared.seen, by
      simp [copyPendingForPersistence, CommandPipeline.copyPendingForPersistence, isOpen, failed]⟩
  · refine ⟨Function.update shared.seen .persistence shared.pipeline.head, ?_⟩
    by_cases outside : shared.pipeline.durable + batchOffset.toUInt64 < shared.pipeline.durable ∨
        shared.pipeline.head ≤ shared.pipeline.durable + batchOffset.toUInt64
    · simp [copyPendingForPersistence, CommandPipeline.copyPendingForPersistence, isOpen, failed,
        outside]
    · simp [copyPendingForPersistence, CommandPipeline.copyPendingForPersistence, isOpen, failed,
        outside]

theorem publishDurable_alone (count : UInt32) :
    Agrees (publishDurable count) .persistence shared
      (shared.pipeline.publishDurable count).1 (shared.pipeline.publishDurable count).2
      shared.history := by
  by_cases failed : shared.pipeline.persistenceFailed = true
  · exact ⟨shared.seen, by simp [publishDurable, CommandPipeline.publishDurable, isOpen, failed]⟩
  by_cases zero : count = 0
  · exact ⟨shared.seen, by
      simp [publishDurable, CommandPipeline.publishDurable, isOpen, failed, zero]⟩
  refine ⟨Function.update shared.seen .persistence shared.pipeline.head, ?_⟩
  by_cases short : shared.pipeline.head - shared.pipeline.durable < count.toUInt64
  · simp [publishDurable, CommandPipeline.publishDurable, isOpen, failed, zero, short]
  · simp [publishDurable, CommandPipeline.publishDurable, isOpen, failed, zero, short]

theorem failPersistence_alone :
    Agrees failPersistence .persistence shared () shared.pipeline.failPersistence shared.history :=
  ⟨shared.seen, by simp [failPersistence, CommandPipeline.failPersistence, isOpen]⟩

theorem tryReadForRisk_alone :
    Agrees tryReadForRisk .risk shared shared.pipeline.tryReadForRisk shared.pipeline
      shared.history := by
  refine ⟨Function.update shared.seen .risk shared.pipeline.durable, ?_⟩
  by_cases none_due : shared.pipeline.riskChecked = shared.pipeline.durable
  · simp [tryReadForRisk, CommandPipeline.tryReadForRisk, isOpen, none_due]
  · simp [tryReadForRisk, CommandPipeline.tryReadForRisk, isOpen, none_due]

theorem publishRisk_alone (result : RiskResult) :
    Agrees (publishRisk result) .risk shared
      (shared.pipeline.publishRisk result).1 (shared.pipeline.publishRisk result).2
      (if (shared.pipeline.publishRisk result).1.status = .ok then
        { shared.history with risks := shared.history.risks ++ [result] } else shared.history) := by
  by_cases pending : result.decision = .pending
  · exact ⟨shared.seen, by simp [publishRisk, CommandPipeline.publishRisk, isOpen, pending]⟩
  refine ⟨Function.update shared.seen .risk shared.pipeline.durable, ?_⟩
  by_cases none_due : shared.pipeline.riskChecked = shared.pipeline.durable
  · simp [publishRisk, CommandPipeline.publishRisk, isOpen, pending, none_due]
  · simp [publishRisk, CommandPipeline.publishRisk, isOpen, pending, none_due,
      CommandPipeline.slotAt, CommandPipeline.setSlotAt]

theorem tryReadForReserve_alone :
    Agrees tryReadForReserve .reserve shared shared.pipeline.tryReadForReserve shared.pipeline
      shared.history := by
  refine ⟨Function.update shared.seen .reserve shared.pipeline.riskChecked, ?_⟩
  by_cases none_due : shared.pipeline.reserveChecked = shared.pipeline.riskChecked
  · simp [tryReadForReserve, CommandPipeline.tryReadForReserve, isOpen, none_due]
  · simp [tryReadForReserve, CommandPipeline.tryReadForReserve, isOpen, none_due]

theorem publishReserve_alone (result : ReserveResult) :
    Agrees (publishReserve result) .reserve shared
      (shared.pipeline.publishReserve result).1 (shared.pipeline.publishReserve result).2
      (if (shared.pipeline.publishReserve result).1.status = .ok then
        { shared.history with reserves := shared.history.reserves ++ [result] }
      else shared.history) := by
  by_cases pending : result.decision = .pending
  · exact ⟨shared.seen, by simp [publishReserve, CommandPipeline.publishReserve, isOpen, pending]⟩
  refine ⟨Function.update shared.seen .reserve shared.pipeline.riskChecked, ?_⟩
  by_cases none_due : shared.pipeline.reserveChecked = shared.pipeline.riskChecked
  · simp [publishReserve, CommandPipeline.publishReserve, isOpen, pending, none_due]
  · simp [publishReserve, CommandPipeline.publishReserve, isOpen, pending, none_due,
      CommandPipeline.slotAt, CommandPipeline.setSlotAt]

theorem tryConsume_alone :
    Agrees tryConsume .matcher shared (shared.pipeline.tryConsume.1, shared.pipeline.tryConsume.2.1)
      shared.pipeline.tryConsume.2.2
      (match shared.pipeline.tryConsume.2.1 with
        | some slot => { shared.history with consumed := shared.history.consumed ++ [slot] }
        | none => shared.history) := by
  refine ⟨Function.update shared.seen .matcher shared.pipeline.reserveChecked, ?_⟩
  by_cases none_due : shared.pipeline.tail = shared.pipeline.reserveChecked
  · simp [tryConsume, CommandPipeline.tryConsume, isOpen, none_due]
  · simp [tryConsume, CommandPipeline.tryConsume, isOpen, none_due]

/-- The accesses of a call come to the call, where no other role gets in between. -/
theorem ofCall_alone (call : PipelineCall) :
    Agrees (ofCall shared.pipeline.config call) call.role shared (shared.pipeline.call call).1
      (shared.pipeline.call call).2
      (shared.history.note call (shared.pipeline.call call).1) := by
  have mapped {α : Type} {program : PipelineProgram α} {role : PipelineRole} {answer : α}
      {pipeline : CommandPipeline} {history : PipelineHistory} {f : α → PipelineAnswer}
      (agrees : Agrees program role shared answer pipeline history) :
      Agrees (program.map f) role shared (f answer) pipeline history := by
    obtain ⟨seen, same⟩ := agrees
    refine ⟨seen, ?_⟩
    rw [Program.map, Program.alone_bind, same]
    rfl
  cases call with
  | «open» config allocated =>
    have refused : shared.pipeline.open config allocated = (.alreadyOpen, shared.pipeline) := by
      rw [CommandPipeline.open, if_pos isOpen]
    rw [CommandPipeline.call, refused]
    exact ⟨shared.seen, rfl⟩
  | tryPublish payload => exact mapped (tryPublish_alone isOpen payload)
  | tryReplay command => exact mapped (tryReplay_alone isOpen command)
  | restoreLiveSequence nextSequence => exact mapped (restoreLiveSequence_alone isOpen nextSequence)
  | copyPendingForPersistence batchOffset =>
    exact mapped (copyPendingForPersistence_alone isOpen batchOffset)
  | publishDurable count => exact mapped (publishDurable_alone isOpen count)
  | failPersistence => exact mapped (failPersistence_alone isOpen)
  | tryReadForRisk => exact mapped (tryReadForRisk_alone isOpen)
  | publishRisk result => exact mapped (publishRisk_alone isOpen result)
  | tryReadForReserve => exact mapped (tryReadForReserve_alone isOpen)
  | publishReserve result => exact mapped (publishReserve_alone isOpen result)
  | tryConsume =>
    have consumed := tryConsume_alone isOpen
    have noted : shared.history.note .tryConsume (shared.pipeline.call .tryConsume).1 =
        (match shared.pipeline.tryConsume.2.1 with
          | some slot => { shared.history with consumed := shared.history.consumed ++ [slot] }
          | none => shared.history) := by
      rw [CommandPipeline.call, PipelineHistory.note.eq_def]
      cases shared.pipeline.tryConsume.2.1 with
      | none => rfl
      | some slot => rfl
    rw [noted]
    exact mapped consumed

end Alone

end PipelineProgram

end Fexma
