import Fexma.Matcher.ReplayProgress

/-! The live path and the replay path agree: from the command log of a live run and the log of
its events, a replay under any schedule of its threads comes to the state of the live matcher. -/
namespace Fexma

open Wal EventWalComparator

/-! ### What a replay promises -/

/-- The replay has come out as the live run did. -/
structure Reproduced {ω σ σ' : Type} (live : Matcher ω σ) (replayed : Matcher EventWalComparator σ') :
    Prop where
  complete : replayed.eventWriter.finish.1 = .complete
  contents : replayed.book.contents = live.book.contents
  indistinguishable : replayed.book.Indistinguishable live.book
  lastOrderId : replayed.lastOrderId = live.lastOrderId
  nextEventSequence : replayed.nextEventSequence = live.nextEventSequence

/-- A state of a replay: no publication was fatal, and the commands have come in their order. -/
structure Faithful {ω σ σ' : Type} (live : Matcher ω σ) (commands : List CommandEnvelope)
    (system : ReplaySystem σ') : Prop where
  alive : system.matcher.fatal = false
  accepted : system.matcher.eventWriter.result.status = .ok
  in_order : system.consumed <+: commands
  reproduced : system.consumed = commands → Reproduced live system.matcher

/-- Whatever the order of the turns, the replay is faithful and can go on to the last command,
and every fair order comes to it. -/
structure Replays {ω σ σ' : Type} [SnapshotStore σ'] (live : Matcher ω σ)
    (commands : List CommandEnvelope) (start : ReplaySystem σ') : Prop where
  faithful : ∀ turns : List ReplayTurn, Faithful live commands (turns.foldl ReplaySystem.turn start)
  never_stuck : ∀ turns : List ReplayTurn, ∃ more,
    ((turns ++ more).foldl ReplaySystem.turn start).consumed = commands
  consumes_all : ∀ schedule, FairRun.Fair ReplayRole.Serves ReplaySystem.turn start schedule →
    ∃ k, ∀ j ≥ k, (FairRun.stateAt ReplaySystem.turn start schedule j).consumed = commands

/-- The codec encodes the commands and the events of a run, in any buffer of their size. -/
structure EncodesRun (payloads : List RawCommandWalPayload) (published : List EventEnvelope) :
    Prop where
  commands : ∀ payload ∈ payloads, ∀ buffer, buffer.length = commandWalPayloadSize →
    encodeCommandWalPayloadV2 payload buffer = (.ok, commandRecord payload)
  events : ∀ event ∈ published, ∀ buffer, buffer.length = eventWalPayloadSize →
    encodeEventWalPayloadV2 event.payload.raw buffer = (.ok, eventRecord event)

/-- What an open pipeline starts with. -/
theorem CommandPipeline.opened_spec {config : CommandPipelineConfig} {allocated : Bool}
    {pipeline : CommandPipeline}
    (opened : ({} : CommandPipeline).open config allocated = (.ok, pipeline)) :
    pipeline.persistenceFailed = false ∧ config.capacity ≠ 0 := by
  rw [CommandPipeline.open, if_neg Bool.false_ne_true] at opened
  split_ifs at opened with invalid unallocated
  all_goals cases opened
  simp only [Bool.or_eq_true, decide_eq_true_eq, not_or] at invalid
  exact ⟨rfl, invalid.1⟩

/-! ### The start of a replay -/

section Start
variable {ω σ σ' : Type} [EventWriter ω] [SnapshotStore σ] [SnapshotStore σ']
variable {bookConfig : OrderBookConfig} {eventWriter : ω} {snapshotStore : σ} {fresh : Matcher ω σ}
variable {payloads : List RawCommandWalPayload}
variable (created : Matcher.create eventWriter snapshotStore bookConfig = some fresh)
include created

omit [EventWriter ω] [SnapshotStore σ] in
theorem numbered_fresh : Numbered fresh := by
  obtain ⟨-, published, -, -, next, -⟩ := Matcher.create_spec created
  refine ⟨?_, ?_, ?_⟩
  · rw [published]
    exact List.forall_mem_nil _
  · intro i event there
    rw [published] at there
    cases there
  · rw [next, published]
    rfl

omit [EventWriter ω] [SnapshotStore σ] [SnapshotStore σ'] in
/-- Two matchers start alike. -/
theorem created_alike {comparator : EventWalComparator} {store : σ'}
    {matcher : Matcher EventWalComparator σ'}
    (created' : Matcher.create comparator store bookConfig = some matcher) : Alike fresh matcher := by
  obtain ⟨alive, -, lastOrderId, contents, next, -, settled⟩ := Matcher.create_spec created
  obtain ⟨alive', -, lastOrderId', contents', next', -, settled'⟩ := Matcher.create_spec created'
  exact ⟨contents'.trans contents.symm, lastOrderId'.trans lastOrderId.symm, next'.trans next.symm,
    settled, settled', alive, alive'⟩

variable (replayed : ∀ payload ∈ payloads, payload.Replayed)
variable (alive : (fresh.processAll (numbered payloads)).fatal = false)
include replayed alive

theorem numbered_live : Numbered (fresh.processAll (numbered payloads)) :=
  (numbered_fresh created).processAll (fun _ => (Matcher.create_spec created).2.2.2.2.2.2)
    (numbered_replayable replayed) alive

theorem encodes_run : EncodesRun payloads (fresh.processAll (numbered payloads)).published := by
  have numbers := numbered_live created replayed alive
  refine ⟨fun payload member buffer fits => ?_, fun event member buffer fits => ?_⟩
  · have encoded := (commandRecord_spec (replayed payload member)).1
    exact (commandV2_encodes.iff fits).mpr
      ((commandV2_encodes.iff List.length_replicate).mp encoded)
  · have encoded := (eventRecord_spec (numbers.named event member)).1
    exact (encodeEventV2_buffer List.length_replicate fits).mp encoded

variable {commandConfig eventConfig : WalConfig} {commandFile eventFile : Option DiskFile}
variable {source : WalFileReplaySource} {comparator : EventWalComparator} {store : σ'}
variable {matcher : Matcher EventWalComparator σ'} {pipelineConfig : CommandPipelineConfig}
variable {allocated : Bool} {pipeline : CommandPipeline}

/-- Before its first turn a replay has everything in front of it. -/
theorem replay_begins
    (eventLog : StreamLog eventConfig .event eventWalPayloadSize eventFile
      ((fresh.processAll (numbered payloads)).published.map eventRecord))
    (feeding : Feeding commandConfig (payloads.map commandRecord) (numbered payloads) 0 source)
    (comparing : Comparing eventConfig ((fresh.processAll (numbered payloads)).published.map eventRecord)
      (.ofNat (fresh.processAll (numbered payloads)).published.length) 1 comparator)
    (created' : Matcher.create comparator store bookConfig = some matcher)
    (captures : matcher.CapturesAll (numbered payloads))
    (opened : ({} : CommandPipeline).open pipelineConfig allocated = (.ok, pipeline)) :
    Replaying commandConfig (payloads.map commandRecord) (numbered payloads) pipelineConfig
      (Comparing eventConfig ((fresh.processAll (numbered payloads)).published.map eventRecord)
        (.ofNat (fresh.processAll (numbered payloads)).published.length)
        (1 + (fresh.processAll (numbered payloads)).published.length))
      fresh {} { source, pipeline, matcher } := by
  have numbers := numbered_live created replayed alive
  have few := eventLog.few
  have count := toNat_count few
  rw [List.length_map] at few count
  have nothing := (Matcher.create_spec created).2.1
  have writer : matcher.eventWriter = comparator := by
    obtain ⟨book, -, rfl⟩ := Option.map_eq_some_iff.mp created'
    rfl
  have accepts := comparing.accepts eventLog.readable eventLog.size
    (numbers.follows eventLog.first few) (by omega)
  refine ⟨.opened opened, (CommandPipeline.opened_spec opened).1, rfl, feeding, rfl, ?_, captures⟩
  refine ⟨created_alike created created', (fresh.processAll (numbered payloads)).published, ?_, ?_⟩
  · change _ = fresh.published ++ _
    rw [nothing, List.nil_append]
  · rw [writer]
    exact accepts

end Start

/-- The live path and the replay path agree. -/
theorem replay_reproduces_live {ω σ σ' : Type} [EventWriter ω] [SnapshotStore σ] [SnapshotStore σ']
    {bookConfig : OrderBookConfig} {eventWriter : ω} {snapshotStore : σ} {fresh : Matcher ω σ}
    (created : Matcher.create eventWriter snapshotStore bookConfig = some fresh)
    {payloads : List RawCommandWalPayload} (some_command : payloads ≠ [])
    (replayed : ∀ payload ∈ payloads, payload.Replayed)
    (alive : (fresh.processAll (numbered payloads)).fatal = false) :
    let live := fresh.processAll (numbered payloads)
    EncodesRun payloads live.published ∧
      ∀ commandConfig commandFile eventConfig eventFile,
        StreamLog commandConfig .command commandWalPayloadSize commandFile
          (payloads.map commandRecord) →
        StreamLog eventConfig .event eventWalPayloadSize eventFile
          (live.published.map eventRecord) →
        ∃ source comparator,
          ({} : WalFileReplaySource).open commandFile commandConfig 1 (.ofNat payloads.length) =
            (.ok, source) ∧
          ({} : EventWalComparator).open eventFile eventConfig 1 (.ofNat live.published.length) =
            (.ok, comparator) ∧
          ∀ (store : σ') matcher pipelineConfig allocated pipeline,
            Matcher.create comparator store bookConfig = some matcher →
            matcher.CapturesAll (numbered payloads) →
            ({} : CommandPipeline).open pipelineConfig allocated = (.ok, pipeline) →
            Replays live (numbered payloads) { source, pipeline, matcher } := by
  intro live
  refine ⟨encodes_run created replayed alive, ?_⟩
  intro commandConfig commandFile eventConfig eventFile commandLog eventLog
  have some_number : numbered payloads ≠ [] := by
    rw [numbered, Ne, List.mapIdx_eq_nil_iff]
    exact some_command
  have some_event : live.published ≠ [] := processAll_publishes
    (fun _ => (Matcher.create_spec created).2.2.2.2.2.2) some_number alive
  obtain ⟨source, accepted, feeding⟩ := commandLog.exists_source some_command
  obtain ⟨comparator, accepted', comparing⟩ :=
    eventLog.exists_comparator (List.map_eq_nil_iff.not.mpr some_event)
  have few := eventLog.few
  have count := toNat_count few
  rw [List.length_map] at accepted' comparing count
  refine ⟨source, comparator, accepted, accepted', ?_⟩
  intro store matcher pipelineConfig allocated pipeline created' captures opened
  have replayable := numbered_replayable replayed
  have log := commandLog.commandLog replayed
  have begins := replay_begins created replayed alive eventLog feeding comparing created' captures
    opened
  have ended (comparator : EventWalComparator)
      (here : Comparing eventConfig (live.published.map eventRecord) (.ofNat live.published.length)
        (1 + live.published.length) comparator) : comparator.result.status = .ok := here.status
  refine ⟨fun turns => ?_, fun turns => ?_, fun schedule fair => ?_⟩
  · obtain ⟨history, replaying⟩ := begins.run log replayable alive turns
    obtain ⟨going, accepting, in_order, whole⟩ := replaying.sound ended
    refine ⟨going, accepting, in_order, fun all => ?_⟩
    obtain ⟨alike, behind⟩ := whole all
    refine ⟨?_, alike.contents, Book.indistinguishable alike.contents, alike.lastOrderId,
      alike.nextEventSequence⟩
    rcases behind.finish with ⟨-, complete, -⟩ | ⟨partly, -⟩
    · exact complete
    · exact absurd ((Nat.add_comm _ _).trans (congrArg (· + 1) count.symm)) partly
  · obtain ⟨k, reached⟩ := log.consumes_all replayable alive (CommandPipeline.opened_spec opened).2
      (begins.run log replayable alive turns) ended (roundRobin_fair _)
    refine ⟨(List.range k).map roundRobin, ?_⟩
    rw [List.foldl_append, ← FairRun.stateAt_eq_foldl]
    exact reached k le_rfl
  · exact log.consumes_all replayable alive (CommandPipeline.opened_spec opened).2 ⟨{}, begins⟩ ended
      fair

/-- A bid that rests, and a snapshot behind it. -/
def restingPayloads : List RawCommandWalPayload :=
  [{ clientId := 17, message := .newLimit ⟨1, 5, 0, 150, 5⟩ },
    { clientId := 17, message := .saveSnapshot }]

theorem replay_reproduces_live_resting :
    ∃ (fresh : Matcher (List EventEnvelope) NullSnapshotStore) (commandFile eventFile : DiskFile)
      (source : WalFileReplaySource) (comparator : EventWalComparator)
      (matcher : Matcher EventWalComparator NullSnapshotStore) (pipeline : CommandPipeline),
      Matcher.create [] {} ⟨100, 200, 2⟩ = some fresh ∧
      ({} : WalFileReplaySource).open (some commandFile) commandConfig 1 2 = (.ok, source) ∧
      ({} : EventWalComparator).open (some eventFile) eventConfig 1 3 = (.ok, comparator) ∧
      Matcher.create comparator {} ⟨100, 200, 2⟩ = some matcher ∧
      ({} : CommandPipeline).open { capacity := 1 } true = (.ok, pipeline) ∧
      Replays (fresh.processAll (numbered restingPayloads)) (numbered restingPayloads)
        { source, pipeline, matcher } := by
  obtain ⟨fresh, created⟩ := Matcher.exists_create ([] : List EventEnvelope)
    ({} : NullSnapshotStore) ⟨100, 200, 2⟩ 1 (by decide)
  have run : ((Matcher.create ([] : List EventEnvelope) ({} : NullSnapshotStore)
      ⟨100, 200, 2⟩ 1).map fun fresh =>
        ((fresh.processAll (numbered restingPayloads)).fatal,
          (fresh.processAll (numbered restingPayloads)).published.length)) = some (false, 3) := by
    decide +kernel
  rw [created, Option.map_some, Option.some_inj, Prod.mk.injEq] at run
  obtain ⟨alive, events⟩ := run
  have some_command : restingPayloads ≠ [] := List.cons_ne_nil _ _
  have replayed : ∀ payload ∈ restingPayloads, payload.Replayed :=
    List.forall_mem_cons.mpr ⟨.inl ⟨_, rfl, rfl⟩, List.forall_mem_singleton.mpr (.inr rfl)⟩
  have numbers := numbered_live created replayed alive
  have commandSizes : ∀ record ∈ restingPayloads.map commandRecord,
      record.length = commandConfig.payloadSize.toNat := by
    intro record member
    obtain ⟨payload, there, rfl⟩ := List.mem_map.mp member
    exact (commandRecord_spec (replayed payload there)).2.1
  have eventSizes : ∀ record ∈ (fresh.processAll (numbered restingPayloads)).published.map eventRecord,
      record.length = eventConfig.payloadSize.toNat := by
    intro record member
    obtain ⟨event, there, rfl⟩ := List.mem_map.mp member
    exact (eventRecord_spec (numbers.named event there)).2.1
  have valid : Valid commandConfig := validConfig_iff.mp (by decide)
  have valid' : Valid eventConfig := validConfig_iff.mp (by decide)
  have commandRoom : (fileImage commandConfig (restingPayloads.map commandRecord)).length ≤
      maxFileSize := by
    rw [length_fileImage valid commandSizes, List.length_map]
    decide
  have eventRoom : (fileImage eventConfig
      ((fresh.processAll (numbered restingPayloads)).published.map eventRecord)).length ≤
      maxFileSize := by
    rw [length_fileImage valid' eventSizes, List.length_map, events]
    decide
  have commandLog := StreamLog.image valid rfl rfl (by rw [List.length_map]; decide) commandSizes
    commandRoom
  have eventLog := StreamLog.image valid' rfl rfl (by rw [List.length_map, events]; decide) eventSizes
    eventRoom
  obtain ⟨-, replays⟩ := @replay_reproduces_live _ _ NullSnapshotStore _ _ _ _ _ _ _ created _
    some_command replayed alive
  obtain ⟨source, comparator, accepted, accepted', replays⟩ :=
    replays _ _ _ _ commandLog eventLog
  rw [events] at accepted'
  obtain ⟨matcher, created'⟩ := Matcher.exists_create comparator ({} : NullSnapshotStore)
    ⟨100, 200, 2⟩ 1 (by decide)
  refine ⟨fresh, _, _, source, comparator, matcher, _, created, accepted, accepted', created', rfl,
    replays {} matcher { capacity := 1 } true _ created' ?_ rfl⟩
  intro ahead save behind _ _
  rfl

end Fexma
