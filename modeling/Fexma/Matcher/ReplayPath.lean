import Fexma.Library.FairRun
import Fexma.Matcher.EventRecording
import Fexma.Matcher.ReplayInStep

/-! The replay path: the source of a command log feeds a pipeline whose stages only move their
frontiers, and the matcher behind it publishes into the comparator with the event log. -/
namespace Fexma

open Wal Transducer WalFileReplaySource EventWalComparator

/-! ### The system -/

structure ReplaySystem (σ : Type) where
  source : WalFileReplaySource
  pipeline : CommandPipeline
  matcher : Matcher EventWalComparator σ
  /-- The commands that the matcher has processed. The code keeps no such list. -/
  consumed : List CommandEnvelope := []

/-- A turn of one of the threads. -/
inductive ReplayTurn where
  | source
  | persistence (count : UInt32)
  | risk (result : RiskResult)
  | reserve (result : ReserveResult)
  | matcher

variable {σ : Type} [SnapshotStore σ]

/-- `try_consume`, and `process` on what it gave. -/
def ReplaySystem.consume (system : ReplaySystem σ) : ReplaySystem σ :=
  match system.pipeline.tryConsume.2 with
  | (none, pipeline) => { system with pipeline }
  | (some slot, pipeline) =>
    { system with
      pipeline
      matcher := (system.matcher.process slot.command).2
      consumed := system.consumed ++ [slot.command] }

def ReplaySystem.turn (system : ReplaySystem σ) : ReplayTurn → ReplaySystem σ
  | .source =>
    { system with
      source := (system.source.publishNext system.pipeline).2.1
      pipeline := (system.source.publishNext system.pipeline).2.2 }
  | .persistence count => { system with pipeline := (system.pipeline.publishDurable count).2 }
  | .risk result => { system with pipeline := (system.pipeline.publishRisk result).2 }
  | .reserve result => { system with pipeline := (system.pipeline.publishReserve result).2 }
  | .matcher => system.consume

/-! ### The source of a log that decodes -/

/-- The commands of some payloads, numbered from one on. -/
def numbered (payloads : List RawCommandWalPayload) : List CommandEnvelope :=
  payloads.mapIdx fun index payload => ⟨.ofNat (index + 1), payload.typed⟩

/-- The record of a command. -/
def commandRecord (payload : RawCommandWalPayload) : List UInt8 :=
  (encodeCommandWalPayloadV2 payload (List.replicate commandWalPayloadSize 0)).2

/-- A log whose records are the commands of a range from one on. -/
structure CommandLog (config : WalConfig) (records : List (List UInt8))
    (commands : List CommandEnvelope) : Prop where
  readable : Readable config
  first : config.firstSequence = 1
  number : records.length = commands.length
  few : commands.length < 2 ^ 63
  decodes : ∀ count (command : CommandEnvelope), commands[count]? = some command →
    commandAt config records (count + 1) = some command

section Source
variable {config : WalConfig} {records : List (List UInt8)} {commands : List CommandEnvelope}
variable {source : WalFileReplaySource} {count : ℕ} {pipeline : CommandPipeline}

/-- Where the source is when it has published the first commands of the log. -/
inductive Feeding (config : WalConfig) (records : List (List UInt8))
    (commands : List CommandEnvelope) (count : ℕ) (source : WalFileReplaySource) : Prop where
  | standing (before : count < commands.length)
    (standing : Standing config records (.ofNat commands.length) (count + 1) source) :
    Feeding config records commands count source
  | holding (before : count < commands.length)
    (holding : Holding config records (.ofNat commands.length) (count + 1) source) :
    Feeding config records commands count source
  | complete (whole : count = commands.length) (done : source.complete = true) :
    Feeding config records commands count source

/-- An open pipeline takes a numbered command unless it is full. -/
theorem CommandPipeline.tryReplay_eq {command : CommandEnvelope} (isOpen : pipeline.isOpen = true)
    (healthy : pipeline.persistenceFailed = false) (some_sequence : command.commandSequence ≠ 0) :
    pipeline.tryReplay command =
      if pipeline.head - pipeline.tail = pipeline.config.capacity.toUInt64 then
        ({ status := .full }, pipeline)
      else
        ({ status := .ok, sequence := command.commandSequence, frontier := pipeline.head + 1 },
          { pipeline.setSlotAt pipeline.head { command } with head := pipeline.head + 1 }) := by
  rw [CommandPipeline.tryReplay, if_neg (by simp [isOpen]), if_neg (by simp [healthy]),
    if_neg some_sequence, CommandPipeline.tryPublishEnvelope, if_neg (by simp [isOpen]),
    if_neg (by simp [healthy])]

/-- What a turn of the source does: nothing when the pipeline is full or the range is through,
else it publishes the next command. -/
inductive Fed (config : WalConfig) (records : List (List UInt8)) (commands : List CommandEnvelope)
    (count : ℕ) (pipeline : CommandPipeline) :
    WalFileReplaySource × CommandPipeline → Prop where
  | held {behind : WalFileReplaySource} (stopped : count = commands.length ∨
      pipeline.head - pipeline.tail = pipeline.config.capacity.toUInt64)
    (feeding : Feeding config records commands count behind) :
    Fed config records commands count pipeline (behind, pipeline)
  | published {behind : WalFileReplaySource} {command : CommandEnvelope}
    (next : commands[count]? = some command)
    (room : pipeline.head - pipeline.tail ≠ pipeline.config.capacity.toUInt64)
    (feeding : Feeding config records commands (count + 1) behind) :
    Fed config records commands count pipeline
      (behind, { pipeline.setSlotAt pipeline.head { command } with head := pipeline.head + 1 })

section Log
variable (log : CommandLog config records commands)
include log

/-- A held command goes into the pipeline unless that is full. -/
theorem CommandLog.publishPending (before : count < commands.length)
    (holding : Holding config records (.ofNat commands.length) (count + 1) source)
    (isOpen : pipeline.isOpen = true) (healthy : pipeline.persistenceFailed = false) :
    Fed config records commands count pipeline (source.publishPending pipeline).2 := by
  have few := log.few
  have there : commands[count]? = some source.pending := by
    rw [List.getElem?_eq_getElem before]
    have decodes := log.decodes count _ (List.getElem?_eq_getElem before)
    exact decodes.symm.trans holding.command
  have place := commandAt_sequence holding.command
  have wide : UInt64.size = 2 ^ 64 := rfl
  have value : (UInt64.ofNat (count + 1)).toNat = count + 1 := UInt64.toNat_ofNat_of_lt' (by omega)
  have last : (UInt64.ofNat commands.length).toNat = commands.length :=
    UInt64.toNat_ofNat_of_lt' (by omega)
  have some_sequence : source.pending.commandSequence ≠ 0 := by
    rw [place, Ne, ← UInt64.toNat_inj, value]
    exact Nat.succ_ne_zero count
  have taken := CommandPipeline.tryReplay_eq isOpen healthy some_sequence
  have whole : source.pending.commandSequence = .ofNat commands.length ↔
      count + 1 = commands.length := by
    rw [place, ← UInt64.toNat_inj, value, last]
  by_cases full : pipeline.head - pipeline.tail = pipeline.config.capacity.toUInt64
  · rw [if_pos full] at taken
    unfold WalFileReplaySource.publishPending
    rw [taken]
    exact .held (.inr full) (.holding before holding)
  · rw [if_neg full] at taken
    rcases holding.publish pipeline with ⟨refused, -, -⟩ | ⟨-, carried, moved⟩
    · unfold WalFileReplaySource.publishPending at refused
      rw [taken] at refused
      exact absurd rfl refused
    · have same : (source.publishPending pipeline).2 =
          ((source.publishPending pipeline).2.1, (source.publishPending pipeline).2.2) := rfl
      rw [same, carried]
      refine .published there full ?_
      rcases moved with ⟨ended, done⟩ | ⟨onward, standing⟩
      · exact .complete (whole.mp ended) done
      · have more := mt whole.mpr onward
        exact .standing (by omega) standing

/-- In front of a command of the range the source gets that command. -/
theorem CommandLog.fetch (before : count < commands.length)
    (standing : Standing config records (.ofNat commands.length) (count + 1) source) :
    source.fetch.1 = none ∧
      Holding config records (.ofNat commands.length) (count + 1) source.fetch.2 := by
  have few := log.few
  have number := log.number
  have decodes := log.decodes count _ (List.getElem?_eq_getElem before)
  have one : (1 : UInt64).toNat = 1 := rfl
  have wide : UInt64.size = 2 ^ 64 := rfl
  have last : (UInt64.ofNat commands.length).toNat = commands.length :=
    UInt64.toNat_ofNat_of_lt' (by omega)
  cases standing.fetch log.readable with
  | unread missing =>
    rw [log.first, one, Nat.add_sub_cancel, List.getElem?_eq_none_iff] at missing
    omega
  | complete record behind =>
    rw [last] at behind
    omega
  | undecoded inside command =>
    rw [decodes] at command
    cases command
  | command inside result holding => exact ⟨result, holding⟩

/-- A turn of the source. -/
theorem CommandLog.publishNext (feeding : Feeding config records commands count source)
    (isOpen : pipeline.isOpen = true) (healthy : pipeline.persistenceFailed = false) :
    Fed config records commands count pipeline (source.publishNext pipeline).2 := by
  unfold WalFileReplaySource.publishNext
  cases feeding with
  | complete whole done =>
    rw [if_pos done]
    exact .held (.inl whole) (.complete whole done)
  | holding before holding =>
    rw [if_neg (by simp [holding.incomplete]), if_pos holding.held]
    exact log.publishPending before holding isOpen healthy
  | standing before standing =>
    rw [if_neg (by simp [standing.incomplete]), if_neg (by simp [standing.idle])]
    obtain ⟨none, holding⟩ := log.fetch before standing
    rw [← Prod.eta source.fetch, none]
    exact log.publishPending before holding isOpen healthy

end Log

end Source

/-! ### The log of some payloads -/

/-- The commands that a replay carries out again. -/
def RawCommandWalPayload.Replayed (payload : RawCommandWalPayload) : Prop :=
  (∃ order, payload.message = .newLimit order ∧ validSide order.side) ∨
    payload.message = .saveSnapshot

section Payloads
variable {config : WalConfig} {file : Option DiskFile} {payloads : List RawCommandWalPayload}
variable {payload : RawCommandWalPayload}

/-- A command of a replay is encoded, and its record is decoded to it. -/
theorem commandRecord_spec (replayed : payload.Replayed) :
    encodeCommandWalPayloadV2 payload (List.replicate commandWalPayloadSize 0) =
        (.ok, commandRecord payload) ∧
      (commandRecord payload).length = commandWalPayloadSize ∧
      decodeCommandWalPayloadV2 (commandRecord payload) {} = (.ok, payload) := by
  have persisted : payload.message.persistedV2 = true := by
    rcases replayed with ⟨order, message, valid⟩ | message
    · rw [message, RawCommand.persistedV2, RawCommand.persisted, valid]
      rfl
    · rw [message]
      rfl
  have fits : (List.replicate commandWalPayloadSize (0 : UInt8)).length = 48 := List.length_replicate
  have written := commandV2_encodes.writes payload _ fits
  rw [if_pos persisted] at written
  obtain ⟨bytes, encoded, holds⟩ := written
  have same : commandRecord payload = bytes := congrArg Prod.snd encoded
  rw [same]
  exact ⟨encoded, holds.length, (decodeCommandV2_iff holds.length).mpr ⟨persisted, holds⟩⟩

theorem numbered_replayable (replayed : ∀ payload ∈ payloads, payload.Replayed) :
    ∀ command ∈ numbered payloads, command.Replayable := by
  intro command member
  obtain ⟨index, inside, rfl⟩ := List.mem_mapIdx.mp member
  rcases replayed _ (List.getElem_mem inside) with ⟨order, message, -⟩ | message
  · exact .inl ⟨_, congrArg RawCommand.typed message⟩
  · exact .inr (.inl (congrArg RawCommand.typed message))

theorem StreamLog.commandLog (replayed : ∀ payload ∈ payloads, payload.Replayed)
    (log : StreamLog config .command commandWalPayloadSize file (payloads.map commandRecord)) :
    CommandLog config (payloads.map commandRecord) (numbered payloads) := by
  have few := log.few
  rw [List.length_map] at few
  refine ⟨log.readable, log.first, ?_, ?_, fun count command there => ?_⟩
  · rw [List.length_map, numbered, List.length_mapIdx]
  · rw [numbered, List.length_mapIdx]
    exact few
  · rw [numbered, List.getElem?_mapIdx, Option.map_eq_some_iff] at there
    obtain ⟨payload, there, rfl⟩ := there
    have decoded := (commandRecord_spec (replayed payload (List.mem_of_getElem? there))).2.2
    have one : (1 : UInt64).toNat = 1 := rfl
    rw [commandAt, log.first, one, Nat.add_sub_cancel, List.getElem?_map, there, Option.map_some,
      Option.bind_some, decoded, if_pos rfl]

/-- The source is opened over the whole log. -/
theorem StreamLog.exists_source (some_command : payloads ≠ [])
    (log : StreamLog config .command commandWalPayloadSize file (payloads.map commandRecord)) :
    ∃ source,
      ({} : WalFileReplaySource).open file config 1 (.ofNat payloads.length) = (.ok, source) ∧
      Feeding config (payloads.map commandRecord) (numbered payloads) 0 source := by
  have count := toNat_count log.few
  rw [List.length_map] at count
  have positive := List.length_pos_iff.mpr some_command
  obtain ⟨source, accepted, opened⟩ := WalFileReplaySource.exists_open_first log.readable log.records
    log.kind log.version log.size log.first (count ▸ positive)
  have length : (numbered payloads).length = payloads.length := List.length_mapIdx
  refine ⟨source, accepted, .standing ?_ ?_⟩
  · rw [length]
    exact positive
  · rw [length]
    exact opened.standing

end Payloads

/-! ### Every state of a replay -/

section System
variable {ω σ' : Type} [EventWriter ω] [SnapshotStore σ'] {live : Matcher ω σ'}
variable {config : WalConfig} {records : List (List UInt8)} {commands : List CommandEnvelope}
variable {pipelineConfig : CommandPipelineConfig} {ends : EventWalComparator → Prop}
variable {system : ReplaySystem σ} {history : PipelineHistory}

/-- Where the parts of a replay are, told by what has passed the pipeline. -/
structure Replaying (config : WalConfig) (records : List (List UInt8))
    (commands : List CommandEnvelope) (pipelineConfig : CommandPipelineConfig)
    (ends : EventWalComparator → Prop) (live : Matcher ω σ') (history : PipelineHistory)
    (system : ReplaySystem σ) : Prop where
  invariant : PipelineInvariant pipelineConfig system.pipeline history
  healthy : system.pipeline.persistenceFailed = false
  published : history.published = commands.take history.published.length
  feeding : Feeding config records commands history.published.length system.source
  consumed : system.consumed = commands.take history.consumed.length
  retraced : Retraced ends live commands history.consumed.length system.matcher
  captures : system.matcher.CapturesAll (commands.drop history.consumed.length)

section Turn
variable (log : CommandLog config records commands)
variable (replaying : Replaying config records commands pipelineConfig ends live history system)
include replaying

/-- No more is published than there is. -/
theorem Replaying.published_le : history.published.length ≤ commands.length := by
  rw [replaying.published, List.length_take]
  exact Nat.min_le_right _ _

/-- What was published at a position is the command of the log there. -/
theorem Replaying.command_at {position : ℕ} {command : CommandEnvelope}
    (there : history.published[position]? = some command) : commands[position]? = some command := by
  obtain ⟨inside, -⟩ := List.getElem?_eq_some_iff.mp there
  rw [replaying.published, List.getElem?_take] at there
  rwa [if_pos inside] at there

include log

/-- A turn of the source. -/
theorem Replaying.source : ∃ history,
    Replaying config records commands pipelineConfig ends live history (system.turn .source) := by
  have few := log.few
  have inside := replaying.published_le
  have fed := log.publishNext replaying.feeding replaying.invariant.isOpen replaying.healthy
  change ∃ history, Replaying config records commands pipelineConfig ends live history
    { system with
      source := (system.source.publishNext system.pipeline).2.1
      pipeline := (system.source.publishNext system.pipeline).2.2 }
  generalize (system.source.publishNext system.pipeline).2 = answer at fed
  cases fed with
  | held stopped feeding =>
    exact ⟨history, replaying.invariant, replaying.healthy, replaying.published, feeding,
      replaying.consumed, replaying.retraced, replaying.captures⟩
  | @published behind command next room feeding =>
    obtain ⟨before, here⟩ := List.getElem?_eq_some_iff.mp next
    have taken : commands.take (history.published.length + 1) = history.published ++ [command] := by
      rw [List.take_succ_eq_append_getElem before, here, ← replaying.published]
    refine ⟨{ history with published := history.published ++ [command] },
      replaying.invariant.publish command room (by omega), replaying.healthy, ?_, ?_,
      replaying.consumed, replaying.retraced, replaying.captures⟩
    · rw [List.length_append, List.length_singleton]
      exact taken.symm
    · rw [List.length_append, List.length_singleton]
      exact feeding

omit log in
/-- A turn of one of the stages that only move their frontiers. -/
theorem Replaying.stage {pipeline : CommandPipeline} {after : PipelineHistory}
    (invariant : PipelineInvariant pipelineConfig pipeline after)
    (healthy : pipeline.persistenceFailed = false) (published : after.published = history.published)
    (consumed : after.consumed = history.consumed) : ∃ history,
      Replaying config records commands pipelineConfig ends live history
        { system with pipeline } := by
  refine ⟨after, invariant, healthy, ?_, ?_, ?_, ?_, ?_⟩
  · rw [published]
    exact replaying.published
  · rw [published]
    exact replaying.feeding
  · rw [consumed]
    exact replaying.consumed
  · rw [consumed]
    exact replaying.retraced
  · rw [consumed]
    exact replaying.captures

omit log in
/-- A turn of the matcher. -/
theorem Replaying.matcher (replayable : ∀ command ∈ commands, command.Replayable)
    (alive : (live.processAll commands).fatal = false) : ∃ history,
      Replaying config records commands pipelineConfig ends live history (system.turn .matcher) := by
  change ∃ history, Replaying config records commands pipelineConfig ends live history system.consume
  unfold ReplaySystem.consume
  rcases system.pipeline.tryConsume_cases with idle | ⟨due, moved⟩
  · rw [idle]
    exact ⟨history, replaying.invariant, replaying.healthy, replaying.published, replaying.feeding,
      replaying.consumed, replaying.retraced, replaying.captures⟩
  · rw [moved]
    have after := replaying.invariant.consume due
    have length : (history.consumed ++ [system.pipeline.slotAt system.pipeline.tail]).length =
        history.consumed.length + 1 := List.length_append
    have complete := after.consumed _ _ (List.getElem?_concat_length)
    have next := replaying.command_at complete.command
    obtain ⟨inside, here⟩ := List.getElem?_eq_some_iff.mp next
    have captures := replaying.captures
    rw [List.drop_eq_getElem_cons inside, here] at captures
    refine ⟨_, after, replaying.healthy, replaying.published, replaying.feeding, ?_, ?_, ?_⟩
    · dsimp only
      rw [length, replaying.consumed, List.take_succ_eq_append_getElem inside, here]
    · dsimp only
      rw [length]
      exact replaying.retraced.step next (replayable _ (List.mem_of_getElem? next)) alive
        (captures [] _ _ rfl)
    · dsimp only
      rw [length]
      exact captures.tail

/-- Whose turn it is does not matter. -/
theorem Replaying.turn (replayable : ∀ command ∈ commands, command.Replayable)
    (alive : (live.processAll commands).fatal = false) (turn : ReplayTurn) : ∃ history,
      Replaying config records commands pipelineConfig ends live history (system.turn turn) := by
  have invariant := replaying.invariant
  have healthy := replaying.healthy
  cases turn with
  | source => exact replaying.source log
  | persistence count =>
    change ∃ history, Replaying config records commands pipelineConfig ends live history
      { system with pipeline := (system.pipeline.publishDurable count).2 }
    rcases system.pipeline.publishDurable_cases count with ⟨-, same⟩ | ⟨-, -, due, moved⟩
    · rw [same]
      exact ⟨history, replaying⟩
    · rw [moved]
      exact replaying.stage (invariant.durable_moves due) healthy rfl rfl
  | risk result =>
    change ∃ history, Replaying config records commands pipelineConfig ends live history
      { system with pipeline := (system.pipeline.publishRisk result).2 }
    rcases system.pipeline.publishRisk_cases result with ⟨-, same⟩ | ⟨-, decided, due, moved⟩
    · rw [same]
      exact ⟨history, replaying⟩
    · rw [moved]
      exact replaying.stage (invariant.publishRisk decided due) healthy rfl rfl
  | reserve result =>
    change ∃ history, Replaying config records commands pipelineConfig ends live history
      { system with pipeline := (system.pipeline.publishReserve result).2 }
    rcases system.pipeline.publishReserve_cases result with ⟨-, same⟩ | ⟨-, decided, due, moved⟩
    · rw [same]
      exact ⟨history, replaying⟩
    · rw [moved]
      exact replaying.stage (invariant.publishReserve decided due) healthy rfl rfl
  | matcher => exact replaying.matcher replayable alive

/-- Nor does the order of the turns. -/
theorem Replaying.run (replayable : ∀ command ∈ commands, command.Replayable)
    (alive : (live.processAll commands).fatal = false) (turns : List ReplayTurn) : ∃ history,
      Replaying config records commands pipelineConfig ends live history
        (turns.foldl ReplaySystem.turn system) := by
  induction turns generalizing system history with
  | nil => exact ⟨history, replaying⟩
  | cons turn turns ih =>
    obtain ⟨history, onward⟩ := replaying.turn log replayable alive turn
    exact ih onward

end Turn

/-- What every state of a replay promises, and the last one besides. -/
theorem Replaying.sound
    (replaying : Replaying config records commands pipelineConfig ends live history system)
    (ended : ∀ comparator, ends comparator → comparator.result.status = .ok) :
    system.matcher.fatal = false ∧ system.matcher.eventWriter.result.status = .ok ∧
      system.consumed <+: commands ∧
      (system.consumed = commands →
        Alike (live.processAll commands) system.matcher ∧ ends system.matcher.eventWriter) := by
  obtain ⟨rest, -, accepts⟩ := replaying.retraced.accepts
  refine ⟨replaying.retraced.alike.alive', status_of_accepts ended accepts, ?_, fun whole => ?_⟩
  · rw [replaying.consumed]
    exact List.take_prefix _ _
  · have retraced := replaying.retraced
    have consumed := replaying.consumed
    rw [whole] at consumed
    have most : history.consumed.length ≤ commands.length := by
      have invariant := replaying.invariant
      have inside := replaying.published_le
      have tail := invariant.tail_le
      have reserve := invariant.reserve_le
      have risk := invariant.risk_le
      have durable := invariant.durable_le
      omega
    have all : history.consumed.length = commands.length := by
      have length := congrArg List.length consumed
      rw [List.length_take] at length
      omega
    rw [all] at retraced
    exact retraced.ended

end System

end Fexma
