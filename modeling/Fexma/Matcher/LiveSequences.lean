import Fexma.Matcher.PipelineSafety
import Fexma.Matcher.ReplayPersistence

/-! The sequences of the persisted command stream. Live publication, replay and persistence
move three cursors; under the discipline of a single producer the log has no gap. -/
namespace Fexma

/-- A publication, live or of a replay. -/
structure PublishedCommand where
  command : CommandEnvelope
  live : Bool
  deriving DecidableEq, Repr

/-- The pipeline and the replay state of persistence, with the commands published, how many of
them are durable, and those of them that were appended. A session lasts from the publication
of a live StartReplay to the return to live mode. -/
structure PersistedStream where
  pipeline : CommandPipeline
  persistence : ReplayPersistenceState := {}
  published : List PublishedCommand := []
  durable : ℕ := 0
  persisted : List CommandEnvelope := []
  inSession : Bool := false

namespace PersistedStream

/-- A call of the pipeline by any of its roles. -/
def call (stream : PersistedStream) (request : PipelineCall) : PersistedStream :=
  let answer := stream.pipeline.call request
  let stream := { stream with pipeline := answer.2 }
  match request, answer.1 with
  | .tryPublish payload, .result result =>
    if result.status = .ok then
      { stream with
        published := stream.published ++ [⟨⟨result.sequence, payload⟩, true⟩]
        inSession := stream.inSession || payload.message = .startReplay }
    else stream
  | .tryReplay command, .result result =>
    if result.status = .ok then { stream with published := stream.published ++ [⟨command, false⟩] }
    else stream
  | _, _ => stream

/-- Persistence takes the next command: `action` says whether to append it, `on_durable` follows. -/
def onDurable (stream : PersistedStream) (command : CommandEnvelope) : ReplayStatus × PersistedStream :=
  let persisted := if stream.persistence.action = .appendAndSync then stream.persisted ++ [command]
    else stream.persisted
  let (status, persistence, pipeline) := stream.persistence.onDurable command stream.pipeline
  (status,
    { stream with
      pipeline, persistence, persisted
      durable := stream.durable + 1
      inSession := stream.inSession &&
        !(stream.persistence.mode = .restoring && persistence.mode = .live) })

/-- The streams that the producers and persistence can bring about in their discipline. -/
inductive Disciplined (config : CommandPipelineConfig) : PersistedStream → Prop
  | opened {pipeline : CommandPipeline}
      (opened : ({} : CommandPipeline).open config true = (.ok, pipeline)) :
    Disciplined config { pipeline }
  | call {stream : PersistedStream} (run : Disciplined config stream) (request : PipelineCall)
      (persistence_restores : ∀ nextSequence, request ≠ .restoreLiveSequence nextSequence)
      (quiet : stream.inSession = true → ∀ payload, request = .tryPublish payload →
        (stream.pipeline.tryPublish payload).1.status ≠ .ok) :
    Disciplined config (stream.call request)
  | onDurable {stream : PersistedStream} {published : PublishedCommand}
      (run : Disciplined config stream)
      (next : stream.published[stream.durable]? = some published)
      (origin : published.live = true ↔ stream.persistence.mode = .live)
      (accepted : (stream.onDurable published.command).1 = .ok) :
    Disciplined config (stream.onDurable published.command).2

/-- The live commands among some. -/
def liveOf (published : List PublishedCommand) : List PublishedCommand :=
  published.filter PublishedCommand.live

section Cursor
variable {pipeline : CommandPipeline} {config : CommandPipelineConfig}
variable {stream : PersistedStream} {published : PublishedCommand} {payload : CommandWalPayload}
variable {command : CommandEnvelope} {request : PipelineCall} {count : ℕ}

/-- The live cursor behind a number of live commands: at the next sequence, or used up. -/
def Cursor (config : CommandPipelineConfig) (count : ℕ) (pipeline : CommandPipeline) : Prop :=
  if pipeline.sequenceExhausted then config.firstSequence.toNat + count = 2 ^ 64
  else pipeline.nextLiveSequence.toNat = config.firstSequence.toNat + count

theorem Cursor.of_next (unspent : ¬ pipeline.sequenceExhausted = true)
    (next : pipeline.nextLiveSequence.toNat = config.firstSequence.toNat + count) :
    Cursor config count pipeline := by
  rw [Cursor, if_neg unspent]
  exact next

/-- Only live publication and the restoration of the cursor move it. -/
theorem call_keeps_cursor (isOpen : pipeline.isOpen = true)
    (no_publish : ∀ payload, request ≠ .tryPublish payload)
    (no_restore : ∀ nextSequence, request ≠ .restoreLiveSequence nextSequence) :
    (pipeline.call request).2.isOpen = true ∧
      (pipeline.call request).2.nextLiveSequence = pipeline.nextLiveSequence ∧
      (pipeline.call request).2.sequenceExhausted = pipeline.sequenceExhausted := by
  cases request with
  | tryPublish payload => exact absurd rfl (no_publish payload)
  | restoreLiveSequence nextSequence => exact absurd rfl (no_restore nextSequence)
  | «open» config allocated =>
    rw [CommandPipeline.call, CommandPipeline.open, if_pos isOpen]
    exact ⟨isOpen, rfl, rfl⟩
  | tryReplay command =>
    rw [CommandPipeline.call]
    rcases pipeline.tryReplay_cases command with ⟨-, same⟩ | ⟨-, taken⟩
    · rw [same]
      exact ⟨isOpen, rfl, rfl⟩
    · rw [taken]
      exact ⟨isOpen, rfl, rfl⟩
  | publishDurable count =>
    rw [CommandPipeline.call]
    rcases pipeline.publishDurable_cases count with ⟨-, same⟩ | ⟨-, -, -, moved⟩
    · rw [same]
      exact ⟨isOpen, rfl, rfl⟩
    · rw [moved]
      exact ⟨isOpen, rfl, rfl⟩
  | failPersistence =>
    rw [CommandPipeline.call, CommandPipeline.failPersistence, if_neg (by simp [isOpen])]
    exact ⟨isOpen, rfl, rfl⟩
  | publishRisk result =>
    rw [CommandPipeline.call]
    rcases pipeline.publishRisk_cases result with ⟨-, same⟩ | ⟨-, -, -, moved⟩
    · rw [same]
      exact ⟨isOpen, rfl, rfl⟩
    · rw [moved]
      exact ⟨isOpen, rfl, rfl⟩
  | publishReserve result =>
    rw [CommandPipeline.call]
    rcases pipeline.publishReserve_cases result with ⟨-, same⟩ | ⟨-, -, -, moved⟩
    · rw [same]
      exact ⟨isOpen, rfl, rfl⟩
    · rw [moved]
      exact ⟨isOpen, rfl, rfl⟩
  | tryConsume =>
    rw [CommandPipeline.call]
    rcases pipeline.tryConsume_cases with same | ⟨-, moved⟩
    · rw [same]
      exact ⟨isOpen, rfl, rfl⟩
    · rw [moved]
      exact ⟨isOpen, rfl, rfl⟩
  | copyPendingForPersistence batchOffset => exact ⟨isOpen, rfl, rfl⟩
  | tryReadForRisk => exact ⟨isOpen, rfl, rfl⟩
  | tryReadForReserve => exact ⟨isOpen, rfl, rfl⟩

/-- A live publication is refused, or takes the next sequence and moves the cursor on. -/
theorem tryPublish_cursor (isOpen : pipeline.isOpen = true) (cursor : Cursor config count pipeline) :
    ((pipeline.tryPublish payload).1.status ≠ .ok ∧ (pipeline.tryPublish payload).2 = pipeline) ∨
    ((pipeline.tryPublish payload).1.status = .ok ∧
      (pipeline.tryPublish payload).1.sequence.toNat = config.firstSequence.toNat + count ∧
      (pipeline.tryPublish payload).2.isOpen = true ∧
      Cursor config (count + 1) (pipeline.tryPublish payload).2) := by
  unfold CommandPipeline.tryPublish
  split_ifs with closed failed exhausted
  · exact .inl ⟨nofun, rfl⟩
  · exact .inl ⟨nofun, rfl⟩
  · exact .inl ⟨nofun, rfl⟩
  rw [Cursor, if_neg exhausted] at cursor
  rcases pipeline.tryPublishEnvelope_cases ⟨pipeline.nextLiveSequence, payload⟩ with
    ⟨refused, same⟩ | ⟨-, taken⟩
  · left
    simp only [refused, same, ne_eq, not_false_eq_true, if_true, and_self]
  right
  have limit : CommandPipeline.maxSequence.toNat = 2 ^ 64 - 1 := rfl
  simp only [taken, ne_eq, not_true_eq_false, if_false]
  by_cases last : pipeline.nextLiveSequence = CommandPipeline.maxSequence
  · rw [if_pos last]
    refine ⟨rfl, cursor, isOpen, ?_⟩
    rw [last, limit] at cursor
    rw [Cursor, if_pos rfl]
    omega
  · rw [if_neg last]
    refine ⟨rfl, cursor, isOpen, ?_⟩
    have small := pipeline.nextLiveSequence.toNat_lt
    have below : pipeline.nextLiveSequence.toNat ≠ 2 ^ 64 - 1 := fun same =>
      last (UInt64.toNat_inj.mp (same.trans limit.symm))
    have moved : (pipeline.nextLiveSequence + 1).toNat = config.firstSequence.toNat + count + 1 :=
      toNat_succ cursor (by omega)
    exact .of_next exhausted moved

end Cursor

/-- What a disciplined stream keeps. -/
structure Continuous (config : CommandPipelineConfig) (stream : PersistedStream) : Prop where
  isOpen : stream.pipeline.isOpen = true
  positive : 0 < config.firstSequence.toNat
  numbered : ∀ i published, (liveOf stream.published)[i]? = some published →
    published.command.commandSequence.toNat = config.firstSequence.toNat + i
  cursor : Cursor config (liveOf stream.published).length stream.pipeline
  nonzero : ∀ published ∈ stream.published, published.command.commandSequence ≠ 0
  within : stream.durable ≤ stream.published.length
  persisted : stream.persisted =
    (liveOf (stream.published.take stream.durable)).map PublishedCommand.command
  starts : ∀ k published, stream.durable ≤ k → stream.published[k]? = some published →
    published.live = true → published.command.payload.message = .startReplay →
    stream.inSession = true ∧ liveOf (stream.published.drop (k + 1)) = []
  away : stream.persistence.mode ≠ .live → stream.inSession = true ∧
    stream.persistence.liveResumeSequence.toNat =
      config.firstSequence.toNat + (liveOf stream.published).length ∧
    liveOf (stream.published.drop stream.durable) = []

section Steps
variable {config : CommandPipelineConfig} {stream : PersistedStream} {commands : List PublishedCommand}
variable {published : PublishedCommand} {k : ℕ}

theorem liveOf_concat : liveOf (commands ++ [published]) =
    if published.live then liveOf commands ++ [published] else liveOf commands := by
  rw [liveOf, List.filter_append]
  cases live : published.live with
  | true => simp [live, liveOf]
  | false => simp [live, liveOf]

theorem Continuous.opened {pipeline : CommandPipeline}
    (opened : ({} : CommandPipeline).open config true = (.ok, pipeline)) :
    Continuous config { pipeline } := by
  rw [CommandPipeline.open, if_neg Bool.false_ne_true] at opened
  by_cases invalid : (config.capacity = 0 || config.firstSequence = 0) = true
  · rw [if_pos invalid] at opened
    cases congrArg Prod.fst opened
  rw [if_neg invalid, Bool.not_true, if_neg Bool.false_ne_true] at opened
  cases opened
  simp only [Bool.or_eq_true, decide_eq_true_eq, not_or] at invalid
  have positive : 0 < config.firstSequence.toNat :=
    Nat.pos_of_ne_zero fun zero => invalid.2 (UInt64.toNat_inj.mp zero)
  refine ⟨rfl, positive, ?_, .of_next Bool.false_ne_true rfl, List.forall_mem_nil _, Nat.le_refl 0,
    rfl, ?_, ?_⟩
  · intro i published there
    cases there
  · intro k published _ there
    cases there
  · exact fun away => absurd rfl away

theorem call_tryPublish (payload : CommandWalPayload) : stream.call (.tryPublish payload) =
    if (stream.pipeline.tryPublish payload).1.status = .ok then
      { stream with
        pipeline := (stream.pipeline.tryPublish payload).2
        published := stream.published ++
          [⟨⟨(stream.pipeline.tryPublish payload).1.sequence, payload⟩, true⟩]
        inSession := stream.inSession || payload.message = .startReplay }
    else { stream with pipeline := (stream.pipeline.tryPublish payload).2 } := rfl

theorem call_tryReplay (command : CommandEnvelope) : stream.call (.tryReplay command) =
    if (stream.pipeline.tryReplay command).1.status = .ok then
      { stream with
        pipeline := (stream.pipeline.tryReplay command).2
        published := stream.published ++ [⟨command, false⟩] }
    else { stream with pipeline := (stream.pipeline.tryReplay command).2 } := rfl

/-- Calls that publish nothing. -/
theorem call_other {request : PipelineCall} (no_publish : ∀ payload, request ≠ .tryPublish payload)
    (no_replay : ∀ command, request ≠ .tryReplay command) :
    stream.call request = { stream with pipeline := (stream.pipeline.call request).2 } := by
  cases request with
  | tryPublish payload => exact absurd rfl (no_publish payload)
  | tryReplay command => exact absurd rfl (no_replay command)
  | _ => rfl

theorem Continuous.moved {pipeline : CommandPipeline} (continuous : Continuous config stream)
    (isOpen : pipeline.isOpen = true)
    (next : pipeline.nextLiveSequence = stream.pipeline.nextLiveSequence)
    (exhausted : pipeline.sequenceExhausted = stream.pipeline.sequenceExhausted) :
    Continuous config { stream with pipeline } := by
  have cursor := continuous.cursor
  rw [Cursor, ← next, ← exhausted] at cursor
  exact ⟨isOpen, continuous.positive, continuous.numbered, cursor, continuous.nonzero,
    continuous.within, continuous.persisted, continuous.starts, continuous.away⟩

/-- A command that is published outside of a session, or by a replay. -/
theorem Continuous.publish {pipeline : CommandPipeline} {inSession : Bool}
    (continuous : Continuous config stream) (isOpen : pipeline.isOpen = true)
    (nonzero : published.command.commandSequence ≠ 0)
    (cursor : Cursor config (liveOf (stream.published ++ [published])).length pipeline)
    (numbered : published.live = true → published.command.commandSequence.toNat =
      config.firstSequence.toNat + (liveOf stream.published).length)
    (outside : published.live = true → stream.inSession = false)
    (session : stream.inSession = true → inSession = true)
    (starts : published.live = true → published.command.payload.message = .startReplay →
      inSession = true) :
    Continuous config
      { stream with pipeline, published := stream.published ++ [published], inSession } := by
  have within := continuous.within
  have front : (stream.published ++ [published]).take stream.durable =
      stream.published.take stream.durable := List.take_append_of_le_length within
  refine ⟨isOpen, continuous.positive, ?_, cursor, ?_, ?_, ?_, ?_, ?_⟩
  · intro i other there
    dsimp only at there
    rw [liveOf_concat] at there
    split_ifs at there with live
    · rcases Nat.lt_or_ge i (liveOf stream.published).length with old | new
      · rw [List.getElem?_append_left old] at there
        exact continuous.numbered i other there
      · rw [List.getElem?_append_right new, List.getElem?_singleton] at there
        split_ifs at there with last
        obtain rfl := Option.some.inj there
        rw [numbered live]
        omega
    · exact continuous.numbered i other there
  · intro other member
    rcases List.mem_append.mp member with old | new
    · exact continuous.nonzero other old
    · obtain rfl := List.mem_singleton.mp new
      exact nonzero
  · rw [List.length_append]
    exact within.trans (Nat.le_add_right _ _)
  · dsimp only
    rw [front]
    exact continuous.persisted
  · intro k other due there live message
    dsimp only at there ⊢
    rcases Nat.lt_or_ge k stream.published.length with old | new
    · rw [List.getElem?_append_left old] at there
      obtain ⟨session', behind⟩ := continuous.starts k other due there live message
      refine ⟨session session', ?_⟩
      rw [List.drop_append_of_le_length old, liveOf_concat, if_neg, behind]
      intro live'
      rw [outside live'] at session'
      cases session'
    · rw [List.getElem?_append_right new, List.getElem?_singleton] at there
      split_ifs at there with last
      obtain rfl := Option.some.inj there
      refine ⟨starts live message, ?_⟩
      rw [List.drop_of_length_le (by rw [List.length_append, List.length_singleton]; omega)]
      rfl
  · intro away
    obtain ⟨session', resume, behind⟩ := continuous.away away
    have replayed : ¬ published.live = true := by
      intro live
      rw [outside live] at session'
      cases session'
    dsimp only
    rw [liveOf_concat, if_neg replayed, List.drop_append_of_le_length within, liveOf_concat,
      if_neg replayed]
    exact ⟨session session', resume, behind⟩

/-- Every call of the pipeline. -/
theorem Continuous.call (continuous : Continuous config stream) (request : PipelineCall)
    (persistence_restores : ∀ nextSequence, request ≠ .restoreLiveSequence nextSequence)
    (quiet : stream.inSession = true → ∀ payload, request = .tryPublish payload →
      (stream.pipeline.tryPublish payload).1.status ≠ .ok) :
    Continuous config (stream.call request) := by
  by_cases publishes : ∃ payload, request = .tryPublish payload
  · obtain ⟨payload, rfl⟩ := publishes
    rw [call_tryPublish]
    rcases tryPublish_cursor continuous.isOpen continuous.cursor with
      ⟨refused, same⟩ | ⟨ok, sequence, isOpen, cursor⟩
    · rw [if_neg refused, same]
      exact continuous
    · rw [if_pos ok]
      have small := (stream.pipeline.tryPublish payload).1.sequence.toNat_lt
      have positive := continuous.positive
      refine continuous.publish isOpen ?_ ?_ (fun _ => sequence) ?_ ?_ ?_
      · intro zero
        rw [show (stream.pipeline.tryPublish payload).1.sequence = 0 from zero, UInt64.toNat_zero]
          at sequence
        omega
      · rw [liveOf_concat, if_pos rfl, List.length_append]
        exact cursor
      · intro _
        by_contra session
        exact quiet (Bool.not_eq_false _ ▸ session) payload rfl ok
      · intro session
        rw [session, Bool.true_or]
      · intro _ message
        exact Bool.or_eq_true_iff.mpr (.inr (decide_eq_true message))
  by_cases replays : ∃ command, request = .tryReplay command
  · obtain ⟨command, rfl⟩ := replays
    rw [call_tryReplay]
    have kept := @call_keeps_cursor _ (.tryReplay command) continuous.isOpen
      (fun _ same => by cases same) (fun _ same => by cases same)
    rw [CommandPipeline.call] at kept
    obtain ⟨isOpen, next, exhausted⟩ := kept
    split_ifs with ok
    · have cursor := continuous.cursor
      rw [Cursor, ← next, ← exhausted] at cursor
      refine continuous.publish isOpen ?_ ?_ (fun live => (by cases live)) (fun live => (by cases live))
        id (fun live => (by cases live))
      · intro zero
        rw [CommandPipeline.tryReplay, if_pos (show command.commandSequence = 0 from zero)] at ok
        split_ifs at ok
      · rw [liveOf_concat, if_neg Bool.false_ne_true]
        exact cursor
    · exact continuous.moved isOpen next exhausted
  have no_publish (payload : CommandWalPayload) : request ≠ .tryPublish payload := fun same =>
    publishes ⟨payload, same⟩
  have no_replay (command : CommandEnvelope) : request ≠ .tryReplay command := fun same =>
    replays ⟨command, same⟩
  obtain ⟨isOpen, next, exhausted⟩ :=
    call_keeps_cursor continuous.isOpen no_publish persistence_restores
  rw [call_other no_publish no_replay]
  exact continuous.moved isOpen next exhausted

theorem not_live_of_none (none : liveOf (stream.published.drop k) = []) {i : ℕ} (behind : k ≤ i)
    (there : stream.published[i]? = some published) : ¬ published.live = true := by
  intro live
  have member : published ∈ liveOf (stream.published.drop k) := by
    refine List.mem_filter.mpr ⟨List.mem_of_getElem? (i := i - k) ?_, live⟩
    rw [List.getElem?_drop, Nat.add_sub_cancel' behind, there]
  rw [none] at member
  cases member

/-- The stream with one more command durable, whatever that does to the cursors. -/
theorem Continuous.advance {pipeline : CommandPipeline} {persistence : ReplayPersistenceState}
    {inSession : Bool} (continuous : Continuous config stream)
    (next : stream.published[stream.durable]? = some published)
    (origin : published.live = true ↔ stream.persistence.mode = .live)
    (isOpen : pipeline.isOpen = true)
    (cursor : Cursor config (liveOf stream.published).length pipeline)
    (starts : ∀ k other, stream.durable + 1 ≤ k → stream.published[k]? = some other →
      other.live = true → other.command.payload.message = .startReplay →
      inSession = true ∧ liveOf (stream.published.drop (k + 1)) = [])
    (away : persistence.mode ≠ .live → inSession = true ∧
      persistence.liveResumeSequence.toNat =
        config.firstSequence.toNat + (liveOf stream.published).length ∧
      liveOf (stream.published.drop (stream.durable + 1)) = []) :
    Continuous config
      { stream with
        pipeline, persistence, inSession
        durable := stream.durable + 1
        persisted := if stream.persistence.action = .appendAndSync then
          stream.persisted ++ [published.command] else stream.persisted } := by
  obtain ⟨inside, there⟩ := List.getElem?_eq_some_iff.mp next
  refine ⟨isOpen, continuous.positive, continuous.numbered, cursor, continuous.nonzero, inside, ?_,
    starts, away⟩
  dsimp only
  rw [List.take_add_one, next, Option.toList_some, liveOf_concat, continuous.persisted]
  by_cases live : published.live = true
  · rw [if_pos live, ReplayPersistenceState.action, if_pos (origin.mp live), if_pos rfl,
      List.map_append, List.map_singleton]
  · rw [if_neg live, ReplayPersistenceState.action, if_neg fun mode => live (origin.mpr mode),
      if_neg nofun]

/-- The last of the live commands has the last sequence given. -/
theorem Continuous.last (continuous : Continuous config stream)
    (next : stream.published[stream.durable]? = some published) (live : published.live = true)
    (none : liveOf (stream.published.drop (stream.durable + 1)) = []) :
    published.command.commandSequence.toNat + 1 =
      config.firstSequence.toNat + (liveOf stream.published).length := by
  have split : liveOf stream.published =
      liveOf (stream.published.take stream.durable) ++ [published] := by
    have whole := List.take_append_drop (stream.durable + 1) stream.published
    rw [List.take_add_one, next, Option.toList_some] at whole
    rw [← whole, liveOf, List.filter_append, ← liveOf, ← liveOf]
    rw [liveOf_concat, if_pos live, whole, none, List.append_nil]
  have there : (liveOf stream.published)[(liveOf (stream.published.take stream.durable)).length]? =
      some published := by
    rw [split]
    exact List.getElem?_concat_length
  have number := continuous.numbered _ _ there
  rw [split, List.length_append, List.length_singleton]
  omega

/-- Every command that becomes durable. -/
theorem Continuous.onDurable (continuous : Continuous config stream)
    (next : stream.published[stream.durable]? = some published)
    (origin : published.live = true ↔ stream.persistence.mode = .live)
    (accepted : (stream.onDurable published.command).1 = .ok) :
    Continuous config (stream.onDurable published.command).2 := by
  have later (k : ℕ) (other : PublishedCommand) (due : stream.durable + 1 ≤ k)
      (there : stream.published[k]? = some other) (live : other.live = true)
      (message : other.command.payload.message = .startReplay) :=
    continuous.starts k other (Nat.le_of_succ_le due) there live message
  have fewer (none : liveOf (stream.published.drop stream.durable) = []) :
      liveOf (stream.published.drop (stream.durable + 1)) = [] := by
    refine List.filter_eq_nil_iff.mpr fun other member => ?_
    refine List.filter_eq_nil_iff.mp none other ?_
    rw [← List.tail_drop] at member
    exact List.mem_of_mem_tail member
  have cases := @ReplayPersistenceState.durable_cases stream.persistence
    (published.command, stream.pipeline) accepted
  have answer : stream.persistence.onDurable published.command stream.pipeline =
      ((stream.persistence.durable (published.command, stream.pipeline)).1.1,
        (stream.persistence.durable (published.command, stream.pipeline)).2,
        (stream.persistence.durable (published.command, stream.pipeline)).1.2) := rfl
  rw [PersistedStream.onDurable, answer]
  rcases cases with ⟨mode, message, room, moved⟩ | ⟨mode, message, moved⟩ |
    ⟨mode, ⟨command, message⟩, moved⟩ | ⟨same, moved⟩
  · have live := origin.mpr mode
    obtain ⟨session, none⟩ := continuous.starts _ _ (Nat.le_refl _) next live message
    have last := continuous.last next live none
    have small := published.command.commandSequence.toNat_lt
    have limit : CommandPipeline.maxSequence.toNat = 2 ^ 64 - 1 := rfl
    have below : published.command.commandSequence.toNat ≠ 2 ^ 64 - 1 := fun top =>
      room (UInt64.toNat_inj.mp (top.trans limit.symm))
    rw [moved]
    refine continuous.advance next origin continuous.isOpen continuous.cursor ?_ fun _ => ⟨?_, ?_, none⟩
    · intro k other due there live'
      exact absurd live' (not_live_of_none none due there)
    · rw [session, mode]
      rfl
    · rw [← last]
      exact toNat_succ rfl (by omega)
  · obtain ⟨session, resume, none⟩ := continuous.away (by rw [mode]; exact nofun)
    rw [moved]
    refine continuous.advance next origin continuous.isOpen continuous.cursor ?_
      fun _ => ⟨?_, resume, fewer none⟩
    · intro k other due there live
      exact absurd live (not_live_of_none none (Nat.le_of_succ_le due) there)
    · rw [session, mode]
      rfl
  · obtain ⟨session, resume, none⟩ := continuous.away (by rw [mode]; exact nofun)
    rw [moved]
    refine continuous.advance next origin continuous.isOpen (.of_next nofun resume) ?_
      fun away => absurd rfl away
    intro k other due there live
    exact absurd live (not_live_of_none none (Nat.le_of_succ_le due) there)
  · have stays : (stream.inSession && !(decide (stream.persistence.mode = .restoring) &&
        decide (stream.persistence.mode = .live))) = stream.inSession := by
      cases stream.persistence.mode <;> simp
    rw [moved]
    dsimp only
    rw [stays]
    refine continuous.advance next origin continuous.isOpen continuous.cursor later fun away => ?_
    obtain ⟨session, resume, none⟩ := continuous.away away
    exact ⟨session, resume, fewer none⟩

end Steps

theorem Disciplined.continuous {config : CommandPipelineConfig} {stream : PersistedStream}
    (run : Disciplined config stream) : Continuous config stream := by
  induction run with
  | opened opened => exact .opened opened
  | call run request persistence_restores quiet ih => exact ih.call request persistence_restores quiet
  | onDurable run next origin accepted ih => exact ih.onDurable next origin accepted

end PersistedStream

open PersistedStream

/-- The commands that are appended carry the sequences from the first one on, through any number
of replays. No command has sequence zero, and behind the last sequence there is none. -/
theorem live_sequences_continuous (config : CommandPipelineConfig) (stream : PersistedStream)
    (run : Disciplined config stream) :
    (∀ i command, stream.persisted[i]? = some command →
      command.commandSequence.toNat = config.firstSequence.toNat + i) ∧
    (∀ published ∈ stream.published, published.command.commandSequence ≠ 0) ∧
    (∀ i published, (liveOf stream.published)[i]? = some published →
      published.command.commandSequence.toNat = config.firstSequence.toNat + i) ∧
    ((∃ published ∈ stream.published, published.live = true ∧
        published.command.commandSequence = CommandPipeline.maxSequence) →
      ∀ payload, stream.pipeline.tryPublish payload =
        ({ status := if stream.pipeline.persistenceFailed then .persistenceFailed
            else .sequenceExhausted }, stream.pipeline)) := by
  have continuous := run.continuous
  refine ⟨?_, continuous.nonzero, continuous.numbered, ?_⟩
  · intro i command there
    rw [continuous.persisted, List.getElem?_map, Option.map_eq_some_iff] at there
    obtain ⟨published, there, rfl⟩ := there
    obtain ⟨more, whole⟩ : liveOf (stream.published.take stream.durable) <+: liveOf stream.published :=
      (List.take_prefix _ _).filter _
    refine continuous.numbered i published ?_
    rw [← whole, List.getElem?_append_left (List.getElem?_eq_some_iff.mp there).1, there]
  · rintro ⟨published, member, live, last⟩ payload
    obtain ⟨i, inside, there⟩ := List.getElem_of_mem
      (List.mem_filter.mpr ⟨member, live⟩ : published ∈ liveOf stream.published)
    have inside : i < (liveOf stream.published).length := inside
    have number := continuous.numbered i published
      ((List.getElem?_eq_getElem inside).trans (congrArg some there))
    have limit : CommandPipeline.maxSequence.toNat = 2 ^ 64 - 1 := rfl
    rw [last, limit] at number
    have cursor := continuous.cursor
    have exhausted : stream.pipeline.sequenceExhausted = true := by
      by_contra unspent
      rw [Cursor, if_neg unspent] at cursor
      have small := stream.pipeline.nextLiveSequence.toNat_lt
      omega
    rw [CommandPipeline.tryPublish, if_neg (by simp [continuous.isOpen])]
    split_ifs with failed
    · rfl
    · rfl

/-- A command on either side of a replay. -/
theorem live_sequences_continuous_session : ∃ stream command,
    Disciplined ⟨8, 100⟩ stream ∧ stream.persistence.mode = .live ∧
      stream.published.length = 5 ∧ stream.persisted[1]? = some command ∧
      command.commandSequence.toNat = 101 := by
  have opened : Disciplined ⟨8, 100⟩ { pipeline := (({} : CommandPipeline).open ⟨8, 100⟩ true).2 } :=
    .opened rfl
  have started := opened.call (.tryPublish ⟨17, .startReplay⟩) nofun nofun
  have replaying := @Disciplined.onDurable _ _ ⟨⟨100, 17, .startReplay⟩, true⟩ started rfl
    (by decide) (by decide)
  have fed := replaying.call (.tryReplay ⟨1, 17, .saveSnapshot⟩) nofun nofun
  have replayed := @Disciplined.onDurable _ _ ⟨⟨1, 17, .saveSnapshot⟩, false⟩ fed rfl
    (by decide) (by decide)
  have stopped := replayed.call (.tryReplay ⟨2, 17, .stopReplay⟩) nofun nofun
  have restoring := @Disciplined.onDurable _ _ ⟨⟨2, 17, .stopReplay⟩, false⟩ stopped rfl
    (by decide) (by decide)
  have loading := restoring.call (.tryReplay ⟨3, 17, .loadSnapshot ⟨8, 7⟩⟩) nofun nofun
  have live := @Disciplined.onDurable _ _ ⟨⟨3, 17, .loadSnapshot ⟨8, 7⟩⟩, false⟩ loading rfl
    (by decide) (by decide)
  have published := live.call (.tryPublish ⟨17, .shutdown⟩) nofun
    fun session => absurd session (by decide)
  have last := @Disciplined.onDurable _ _ ⟨⟨101, 17, .shutdown⟩, true⟩ published rfl
    (by decide) (by decide)
  exact ⟨_, ⟨101, 17, .shutdown⟩, last, by decide, by decide, rfl,
    (live_sequences_continuous _ _ last).1 1 _ rfl⟩

end Fexma
