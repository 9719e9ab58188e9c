import Fexma.Matcher.Replay
import Fexma.Matcher.ReplayPersistence

/-! The replay state of persistence and the one of the matcher, fed the same commands,
go through the same modes, and both go on in live mode where they left it. -/
namespace Fexma

open PriceTimeBook Transducer

/-! ### The configuration of the book -/

theorem newLimitPlan_config {σ : Type} (incoming : NewLimitOrder) (book : PriceTimeBook)
    (lastOrderId : OrderId) (snapshotStore : σ) :
    (newLimitPlan incoming book lastOrderId snapshotStore).book.config = book.config := by
  have filled := (fill_shrinks incoming incoming.quantity
    (book.orders (Matcher.oppositeSide incoming.side)) book).2.1
  simp only [newLimitPlan, settlePlan, Plan.after, Plan.stopping]
  split_ifs
  · rfl
  · rfl
  · exact filled
  · exact (PriceTimeBook.insert_config _ _).trans filled
  · exact filled
  · exact filled

namespace Matcher
variable {ω σ : Type} [EventWriter ω] [SnapshotStore σ] {matcher : Matcher ω σ}
variable {envelope : CommandEnvelope} {envelopes : List CommandEnvelope}

omit [EventWriter ω] in
/-- No plan changes the configuration of the book. -/
theorem plan_config (matcher : Matcher ω σ) (envelope : CommandEnvelope) :
    (matcher.plan envelope).book.config = matcher.book.contents.config := by
  unfold plan
  cases envelope.payload.message with
  | newLimit order => exact newLimitPlan_config _ _ _ _
  | saveSnapshot =>
    dsimp only [saveSnapshotPlan]
    split <;> rfl
  | loadSnapshot command =>
    dsimp only [loadSnapshotPlan]
    split
    · split_ifs
      · rfl
      all_goals exact PriceTimeBook.restore_config _ _
    · rfl
  | _ => rfl

/-! ### Commands that do not stop the matcher -/

/-- A command behind which the matcher is alive has been carried out. -/
theorem completed_of_alive (idle : matcher.Idle) (alive : (matcher.process envelope).2.fatal = false) :
    Completed matcher (matcher.process envelope).2 envelope (matcher.plan envelope) ∧
      (matcher.plan envelope).result.status ≠ .fatal := by
  have before := alive_step alive
  rcases process_spec matcher envelope before (idle before) with ⟨completed, -⟩ | ⟨interrupted, -⟩
  · refine ⟨completed, fun stops => ?_⟩
    rw [completed.fatal, stops] at alive
    cases alive
  · rw [interrupted.fatal] at alive
    cases alive

omit [EventWriter ω] in
/-- A load that does not stop the matcher restores an image it accepts. -/
theorem loadSnapshotPlan_alive {command : LoadSnapshotCommand}
    (alive : (matcher.loadSnapshotPlan command).result.status ≠ .fatal) :
    ∃ image snapshotStore,
      SnapshotStore.load matcher.snapshotStore command = (.ok, image, snapshotStore) ∧
      matcher.acceptsImage command image ∧
      (matcher.book.contents.restore image.orders).1.status = .ok := by
  rcases loaded : SnapshotStore.load matcher.snapshotStore command with ⟨status, image, snapshotStore⟩
  simp only [loadSnapshotPlan, loaded] at alive
  cases status with
  | ok =>
    dsimp only at alive
    by_cases accepted : matcher.acceptsImage command image
    · rw [accepted, Bool.not_true, if_neg Bool.false_ne_true] at alive
      by_cases fits : (matcher.book.contents.restore image.orders).1.status = .ok
      · exact ⟨image, snapshotStore, rfl, accepted, fits⟩
      · rw [if_pos fits] at alive
        exact absurd rfl alive
    · rw [Bool.not_eq_true _ |>.mp accepted, Bool.not_false, if_pos rfl] at alive
      exact absurd rfl alive
  | _ => exact absurd rfl alive

/-- What a command does to the replay state, unless it stops the matcher. -/
structure Switches (matcher after : Matcher ω σ) (message : Command) : Prop where
  replayMode : after.replayMode = matcher.replayMode.next message
  start : matcher.replayMode = .live → message = .startReplay →
    after.liveResumeEventSequence = matcher.nextEventSequence + 1
  away : matcher.replayMode ≠ .live →
    after.liveResumeEventSequence = matcher.liveResumeEventSequence

omit [EventWriter ω] [SnapshotStore σ] in
/-- A plan that defers nothing. -/
theorem Completed.stays {after : Matcher ω σ} {plan : Plan σ}
    (completed : Completed matcher after envelope plan) (no_start : plan.startReplay = false)
    (no_mode : plan.mode = none) : after.replayMode = matcher.replayMode ∧
      after.liveResumeEventSequence = matcher.liveResumeEventSequence := by
  constructor
  · rw [completed.replayMode, no_mode, no_start]
    rfl
  · rw [completed.liveResume, no_start]
    rfl

/-- The plan of a load that restores an image. -/
def restoringPlan (matcher : Matcher ω σ) (command : LoadSnapshotCommand)
    (image : MatcherSnapshotImage) (snapshotStore : σ) : Plan σ :=
  { steps := [((matcher.book.contents.restore image.orders).2,
      .loadSnapshot command.saveSnapshotCommandSequence command.snapshotEpochId)]
    book := (matcher.book.contents.restore image.orders).2, snapshotStore
    lastOrderId := image.lastOrderId
    eventSequence := match matcher.replayMode with
      | .replay => image.nextEventSequence
      | .restoring => matcher.liveResumeEventSequence
      | .live => 0
    mode := if matcher.replayMode = .restoring then some .live else none }

/-- A load behind which the matcher is alive has restored an image it accepts. -/
theorem loaded (idle : matcher.Idle) (alive : (matcher.process envelope).2.fatal = false)
    {command : LoadSnapshotCommand} (loads : envelope.payload.message = .loadSnapshot command) :
    ∃ image snapshotStore,
      SnapshotStore.load matcher.snapshotStore command = (.ok, image, snapshotStore) ∧
      Completed matcher (matcher.process envelope).2 envelope
        (matcher.restoringPlan command image snapshotStore) := by
  obtain ⟨completed, going⟩ := completed_of_alive idle alive
  have planned : matcher.plan envelope = matcher.loadSnapshotPlan command := by
    rw [plan, loads]
  rw [planned] at completed going
  obtain ⟨image, snapshotStore, returned, accepted, fits⟩ := loadSnapshotPlan_alive going
  rw [loadSnapshotPlan_ok returned accepted fits] at completed
  exact ⟨image, snapshotStore, returned, completed⟩

omit [EventWriter ω] in
theorem saveSnapshotPlan_quiet {commandSequence : CommandSequence} :
    (matcher.saveSnapshotPlan commandSequence).startReplay = false ∧
      (matcher.saveSnapshotPlan commandSequence).mode = none := by
  unfold saveSnapshotPlan
  split <;> exact ⟨rfl, rfl⟩

/-- Behind every command that does not stop it the matcher has switched as the command says. -/
theorem switches (idle : matcher.Idle) (alive : (matcher.process envelope).2.fatal = false) :
    Switches matcher (matcher.process envelope).2 envelope.payload.message := by
  have completed := (completed_of_alive idle alive).1
  have staying (no_start : (matcher.plan envelope).startReplay = false)
      (no_mode : (matcher.plan envelope).mode = none) {message : Command}
      (still : matcher.replayMode.next message = matcher.replayMode)
      (other : message ≠ .startReplay) : Switches matcher (matcher.process envelope).2 message := by
    obtain ⟨mode, resume⟩ := completed.stays no_start no_mode
    exact ⟨mode.trans still.symm, fun _ starts => absurd starts other, fun _ => resume⟩
  cases message : envelope.payload.message with
  | none =>
    have planned : matcher.plan envelope = matcher.announcing (.rejected 0 .unknownCommand) := by
      rw [plan, message]
    rw [planned] at staying
    refine staying rfl rfl (by cases matcher.replayMode <;> rfl) ?_
    intro starts
    cases starts
  | unknown tag =>
    have planned : matcher.plan envelope = matcher.announcing (.rejected 0 .unknownCommand) := by
      rw [plan, message]
    rw [planned] at staying
    refine staying rfl rfl (by cases matcher.replayMode <;> rfl) ?_
    intro starts
    cases starts
  | newLimit order =>
    have planned : newLimitPlan order matcher.book.contents matcher.lastOrderId
        matcher.snapshotStore = matcher.plan envelope := by
      rw [plan, message]
    obtain ⟨-, no_start, -, no_mode, -⟩ := newLimitPlan_quiet planned
    refine staying no_start no_mode (by cases matcher.replayMode <;> rfl) ?_
    intro starts
    cases starts
  | saveSnapshot =>
    have planned : matcher.plan envelope = matcher.saveSnapshotPlan envelope.commandSequence := by
      rw [plan, message]
    rw [planned] at staying
    refine staying saveSnapshotPlan_quiet.1 saveSnapshotPlan_quiet.2
      (by cases matcher.replayMode <;> rfl) ?_
    intro starts
    cases starts
  | shutdown =>
    have planned : matcher.plan envelope =
        { matcher.announcing .shutdown with result := { status := .stop } } := by
      rw [plan, message]
    rw [planned] at staying
    refine staying rfl rfl (by cases matcher.replayMode <;> rfl) ?_
    intro starts
    cases starts
  | loadSnapshot command =>
    obtain ⟨image, snapshotStore, -, loaded⟩ := loaded idle alive message
    refine ⟨?_, ?_, fun _ => loaded.liveResume⟩
    · rw [loaded.replayMode, restoringPlan]
      cases matcher.replayMode <;> rfl
    · intro _ starts
      cases starts
  | startReplay =>
    have planned : matcher.plan envelope =
        { matcher.announcing .startReplay with startReplay := matcher.replayMode = .live } := by
      rw [plan, message]
    rw [planned] at completed
    refine ⟨?_, fun live _ => ?_, fun away => ?_⟩
    · rw [completed.replayMode]
      cases matcher.replayMode <;> rfl
    · exact completed.liveResume.trans (if_pos (decide_eq_true live))
    · exact completed.liveResume.trans (if_neg (by simpa using away))
  | stopReplay =>
    have planned : matcher.plan envelope =
        { matcher.announcing .stopReplay with
          mode := if matcher.replayMode = .replay then some .restoring else none } := by
      rw [plan, message]
    rw [planned] at completed
    refine ⟨?_, ?_, fun _ => completed.liveResume⟩
    · rw [completed.replayMode]
      cases matcher.replayMode <;> rfl
    · intro _ starts
      cases starts

/-! ### Commands that leave the book alone -/

end Matcher

/-- The command may change the book or the last order id. -/
def Command.changesBook : Command → Bool
  | .newLimit _ | .loadSnapshot _ => true
  | _ => false

namespace Matcher
variable {ω σ : Type} [EventWriter ω] [SnapshotStore σ] {matcher : Matcher ω σ}
variable {envelope : CommandEnvelope} {envelopes : List CommandEnvelope}

omit [EventWriter ω] in
theorem plan_unchanged (matcher : Matcher ω σ) (quiet : envelope.payload.message.changesBook = false) :
    (matcher.plan envelope).book = matcher.book.contents ∧
      (matcher.plan envelope).lastOrderId = matcher.lastOrderId := by
  unfold plan
  cases message : envelope.payload.message with
  | newLimit order =>
    rw [message] at quiet
    cases quiet
  | loadSnapshot command =>
    rw [message] at quiet
    cases quiet
  | saveSnapshot =>
    dsimp only [saveSnapshotPlan]
    split <;> exact ⟨rfl, rfl⟩
  | _ => exact ⟨rfl, rfl⟩

theorem processAll_unchanged (idle : matcher.Idle)
    (alive : (matcher.processAll envelopes).fatal = false)
    (quiet : ∀ envelope ∈ envelopes, envelope.payload.message.changesBook = false) :
    (matcher.processAll envelopes).book.contents = matcher.book.contents ∧
      (matcher.processAll envelopes).lastOrderId = matcher.lastOrderId := by
  induction envelopes generalizing matcher with
  | nil => exact ⟨rfl, rfl⟩
  | cons envelope envelopes ih =>
    obtain ⟨first, rest⟩ := List.forall_mem_cons.mp quiet
    obtain ⟨contents, lastOrderId⟩ := ih (idle.process envelope) alive rest
    have completed := (completed_of_alive idle (alive_before alive)).1
    obtain ⟨book, last⟩ := plan_unchanged matcher first
    exact ⟨contents.trans (completed.contents.trans book),
      lastOrderId.trans (completed.lastOrderId.trans last)⟩

theorem processAll_config (idle : matcher.Idle)
    (alive : (matcher.processAll envelopes).fatal = false) :
    (matcher.processAll envelopes).book.contents.config = matcher.book.contents.config := by
  induction envelopes generalizing matcher with
  | nil => rfl
  | cons envelope envelopes ih =>
    have completed := (completed_of_alive idle (alive_before alive)).1
    have first : (matcher.process envelope).2.book.contents.config = matcher.book.contents.config := by
      rw [completed.contents]
      exact plan_config matcher envelope
    exact (ih (idle.process envelope) alive).trans first

end Matcher

/-! ### Both replay states -/

section Agreement
variable {ω σ : Type} [EventWriter ω] [SnapshotStore σ] {matcher : Matcher ω σ}
variable {persistence : ReplayPersistenceState}
variable {fed : List (CommandEnvelope × CommandPipeline)}

/-- The commands of a run of persistence. -/
def commands (fed : List (CommandEnvelope × CommandPipeline)) : List CommandEnvelope :=
  fed.map Prod.fst

@[simp] theorem commands_append (fed more : List (CommandEnvelope × CommandPipeline)) :
    commands (fed ++ more) = commands fed ++ commands more := List.map_append

@[simp] theorem commands_cons (command : CommandEnvelope × CommandPipeline)
    (fed : List (CommandEnvelope × CommandPipeline)) :
    commands (command :: fed) = command.1 :: commands fed := rfl

@[simp] theorem commands_nil : commands [] = [] := rfl

/-- The modes stay equal. -/
theorem modes_agree (idle : matcher.Idle) (same : persistence.mode = matcher.replayMode)
    (accepts : persistence.Accepts fed) (alive : (matcher.processAll (commands fed)).fatal = false) :
    (persistence.durableAll fed).mode = (matcher.processAll (commands fed)).replayMode := by
  induction fed generalizing matcher persistence with
  | nil => exact same
  | cons command fed ih =>
    obtain ⟨first, rest⟩ := ReplayPersistenceState.accepts_cons.mp accepts
    refine ih (idle.process command.1) ?_ rest alive
    rw [ReplayPersistenceState.durable_mode first, same]
    exact (Matcher.switches idle (Matcher.alive_before alive)).replayMode.symm

/-- Away from live mode both keep where live mode goes on. -/
theorem away_keeps (idle : matcher.Idle) (same : persistence.mode = matcher.replayMode)
    (accepts : persistence.Accepts fed) (alive : (matcher.processAll (commands fed)).fatal = false)
    (away : ∀ done, done <+: fed → (persistence.durableAll done).mode ≠ .live) :
    (persistence.durableAll fed).liveResumeSequence = persistence.liveResumeSequence ∧
      (matcher.processAll (commands fed)).liveResumeEventSequence =
        matcher.liveResumeEventSequence := by
  induction fed generalizing matcher persistence with
  | nil => exact ⟨rfl, rfl⟩
  | cons command fed ih =>
    obtain ⟨first, rest⟩ := ReplayPersistenceState.accepts_cons.mp accepts
    have switched := Matcher.switches idle (Matcher.alive_before alive)
    have here : persistence.mode ≠ .live := away [] List.nil_prefix
    have next : (persistence.durable command).2.mode = (matcher.process command.1).2.replayMode := by
      rw [ReplayPersistenceState.durable_mode first, same]
      exact switched.replayMode.symm
    obtain ⟨sequence, eventSequence⟩ := ih (idle.process command.1) next rest alive fun done early =>
      away (command :: done) (List.cons_prefix_cons.mpr ⟨rfl, early⟩)
    exact ⟨sequence.trans (ReplayPersistenceState.durable_resume first here),
      eventSequence.trans (switched.away (same ▸ here))⟩

/-! ### There and back -/

/-- A run that leaves live mode with one command and comes back to it with another. -/
structure Excursion (persistence : ReplayPersistenceState)
    (start : CommandEnvelope × CommandPipeline) (middle : List (CommandEnvelope × CommandPipeline))
    (load : CommandEnvelope × CommandPipeline) : Prop where
  live : persistence.mode = .live
  away : ∀ done, done <+: middle → (persistence.durableAll (start :: done)).mode ≠ .live
  back : ((persistence.durableAll (start :: middle)).durable load).2.mode = .live

section Excursion
variable {start load : CommandEnvelope × CommandPipeline}
variable {middle : List (CommandEnvelope × CommandPipeline)}

/-- Live mode is left by a StartReplay. -/
theorem Excursion.starts (excursion : Excursion persistence start middle load)
    (accepted : (persistence.durable start).1.1 = .ok) :
    start.1.payload.message = .startReplay ∧
      start.1.commandSequence ≠ CommandPipeline.maxSequence ∧
      (persistence.durable start).2 =
        { mode := .replay, liveResumeSequence := start.1.commandSequence + 1 } := by
  have live := excursion.live
  have gone : (persistence.durable start).2.mode ≠ .live := excursion.away [] List.nil_prefix
  rcases ReplayPersistenceState.durable_cases accepted with ⟨-, message, last, moved⟩ |
    ⟨mode, -⟩ | ⟨mode, -⟩ | ⟨-, moved⟩
  · exact ⟨message, last, by rw [moved]⟩
  · rw [live] at mode
    cases mode
  · rw [live] at mode
    cases mode
  · rw [moved] at gone
    exact absurd live gone

/-- Live mode is entered again by a LoadSnapshot, which hands the saved sequence over. -/
theorem Excursion.loads (excursion : Excursion persistence start middle load)
    (accepted : ((persistence.durableAll (start :: middle)).durable load).1.1 = .ok) :
    (persistence.durableAll (start :: middle)).mode = .restoring ∧
      (∃ command, load.1.payload.message = .loadSnapshot command) ∧
      ((persistence.durableAll (start :: middle)).durable load).1.2 =
        { load.2 with
          nextLiveSequence := (persistence.durableAll (start :: middle)).liveResumeSequence
          sequenceExhausted := false } := by
  have away := excursion.away middle List.prefix_rfl
  have back := excursion.back
  rcases ReplayPersistenceState.durable_cases accepted with ⟨mode, -⟩ | ⟨-, -, moved⟩ |
    ⟨mode, message, moved⟩ | ⟨-, moved⟩
  · exact absurd mode away
  · rw [moved] at back
    cases back
  · exact ⟨mode, message, by rw [moved]⟩
  · rw [moved] at back
    exact absurd back away

/-- Where live mode goes on: the pipeline behind the sequence of the StartReplay that left
it, the matcher behind its event. -/
structure Resumes (matcher : Matcher ω σ) (persistence : ReplayPersistenceState)
    (start : CommandEnvelope × CommandPipeline) (middle : List (CommandEnvelope × CommandPipeline))
    (load : CommandEnvelope × CommandPipeline) : Prop where
  starts : start.1.payload.message = .startReplay
  sequence : start.1.commandSequence ≠ CommandPipeline.maxSequence
  pipeline : ((persistence.durableAll (start :: middle)).durable load).1.2 =
    { load.2 with
      nextLiveSequence := start.1.commandSequence + 1, sequenceExhausted := false }
  event : ∃ event, (matcher.process start.1).2.published = matcher.published ++ [event] ∧
    event.payload.message = .startReplay ∧
    (matcher.processAll (commands (start :: middle ++ [load]))).nextEventSequence =
      event.eventSequence + 1

theorem Excursion.resumes (excursion : Excursion persistence start middle load)
    (idle : matcher.Idle) (same : persistence.mode = matcher.replayMode)
    (accepts : persistence.Accepts (start :: middle ++ [load]))
    (alive : (matcher.processAll (commands (start :: middle ++ [load]))).fatal = false)
    (room : matcher.nextEventSequence + 1 ≠ 0) :
    Resumes matcher persistence start middle load := by
  obtain ⟨accepts, last⟩ := ReplayPersistenceState.accepts_append.mp accepts
  obtain ⟨first, accepts⟩ := ReplayPersistenceState.accepts_cons.mp accepts
  obtain ⟨last, -⟩ := ReplayPersistenceState.accepts_cons.mp last
  have split : matcher.processAll (commands (start :: middle ++ [load])) =
      (((matcher.process start.1).2.processAll (commands middle)).process load.1).2 := by
    simp [commands]
  rw [split] at alive
  have alive_middle := Matcher.alive_step alive
  have alive_start := Matcher.alive_before alive_middle
  obtain ⟨message, some_next, started⟩ := excursion.starts first
  obtain ⟨restoring, ⟨command, loads⟩, handed⟩ := excursion.loads last
  have live : matcher.replayMode = .live := same ▸ excursion.live
  have switched := Matcher.switches idle alive_start
  have published := (Matcher.completed_of_alive idle alive_start).1.published
  have planned : matcher.plan start.1 =
      { matcher.announcing .startReplay with startReplay := matcher.replayMode = .live } := by
    rw [Matcher.plan, message]
  have next : (persistence.durable start).2.mode = (matcher.process start.1).2.replayMode := by
    rw [ReplayPersistenceState.durable_mode first, same]
    exact switched.replayMode.symm
  obtain ⟨sequence, eventSequence⟩ := away_keeps (idle.process start.1) next accepts alive_middle
    excursion.away
  have modes := modes_agree (idle.process start.1) next accepts alive_middle
  have kept : ((matcher.process start.1).2.processAll (commands middle)).liveResumeEventSequence =
      matcher.nextEventSequence + 1 := eventSequence.trans (switched.start live message)
  obtain ⟨image, snapshotStore, -, loaded⟩ :=
    Matcher.loaded ((idle.process start.1).processAll _) alive loads
  refine ⟨message, some_next, ?_, frame matcher.nextEventSequence start.1 true 0 .startReplay, ?_,
    rfl, ?_⟩
  · rw [handed, ReplayPersistenceState.durableAll_cons, sequence, started]
  · rw [published, planned]
    rfl
  · rw [split, loaded.nextEventSequence, Matcher.restoringPlan, ← modes]
    have mode : ((persistence.durable start).2.durableAll middle).mode = .restoring := restoring
    rw [mode]
    dsimp only
    rw [kept, if_pos room]
    simp [frame]

end Excursion

/-- A load of a snapshot taken since the book changed last brings back the book and the
last order id of the state `before` leads to, whatever was processed meanwhile. -/
def BringsBack (fresh : Matcher ω σ) (before meanwhile : List CommandEnvelope)
    (load : CommandEnvelope) : Prop :=
  ∀ earlier save quiet command image snapshotStore, before = earlier ++ save :: quiet →
    save.payload.message = .saveSnapshot →
    (∀ envelope ∈ quiet, envelope.payload.message.changesBook = false) →
    load.payload.message = .loadSnapshot command →
    SnapshotStore.load (fresh.processAll (before ++ meanwhile)).snapshotStore command =
      (.ok, image, snapshotStore) →
    ((fresh.processAll earlier).snapshotView save.commandSequence).CapturedAs image →
    let started := fresh.processAll before
    let restored := fresh.processAll (before ++ meanwhile ++ [load])
    restored.book.contents = started.book.contents ∧
      restored.book.Indistinguishable started.book ∧ restored.lastOrderId = started.lastOrderId

theorem brings_back {fresh : Matcher ω σ} (idle : fresh.Idle)
    {before meanwhile : List CommandEnvelope} {load : CommandEnvelope}
    (alive : (fresh.processAll (before ++ meanwhile ++ [load])).fatal = false) :
    BringsBack fresh before meanwhile load := by
  rintro earlier save quiet command image snapshotStore rfl saves unchanged loads returned captured
  rw [Matcher.processAll_append] at alive
  have alive_before_load := Matcher.alive_step alive
  have alive_start : (fresh.processAll (earlier ++ save :: quiet)).fatal = false := by
    have alive_meanwhile := alive_before_load
    rw [Matcher.processAll_append] at alive_meanwhile
    exact Matcher.alive_before alive_meanwhile
  have source_idle := idle.processAll earlier
  have at_start : fresh.processAll (earlier ++ save :: quiet) =
      (fresh.processAll earlier).processAll (save :: quiet) := Matcher.processAll_append
  have at_load : fresh.processAll (earlier ++ save :: quiet ++ meanwhile) =
      (fresh.processAll earlier).processAll (save :: quiet ++ meanwhile) := by
    rw [List.append_assoc, Matcher.processAll_append]
  have saved : ∀ envelope ∈ save :: quiet, envelope.payload.message.changesBook = false :=
    List.forall_mem_cons.mpr ⟨by rw [saves]; rfl, unchanged⟩
  obtain ⟨contents, lastOrderId⟩ := Matcher.processAll_unchanged source_idle (at_start ▸ alive_start)
    saved
  have config := Matcher.processAll_config source_idle (at_load ▸ alive_before_load)
  obtain ⟨image', snapshotStore', returned', loaded⟩ :=
    Matcher.loaded (idle.processAll _) alive loads
  obtain rfl : image = image' := by
    rw [returned] at returned'
    exact congrArg (fun answer => answer.2.1) returned'
  have restored := restore_captured (fresh.processAll (earlier ++ save :: quiet ++ meanwhile)).book.contents
    captured (by rw [at_load]; exact config)
  have same : (fresh.processAll (earlier ++ save :: quiet ++ meanwhile ++ [load])).book.contents =
      (fresh.processAll (earlier ++ save :: quiet)).book.contents := by
    rw [at_start, contents, Matcher.processAll_append]
    refine loaded.contents.trans ?_
    rw [Matcher.restoringPlan, restored]
  refine ⟨same, Book.indistinguishable same, ?_⟩
  rw [at_start, lastOrderId, Matcher.processAll_append]
  exact loaded.lastOrderId.trans captured.lastOrderId

/-- What the two replay states agree on along a run of commands: the mode behind each of
them, and how live mode goes on behind every return to it. -/
structure ReplayAgreement (fresh : Matcher ω σ) (history : List CommandEnvelope)
    (persistence : ReplayPersistenceState) (fed : List (CommandEnvelope × CommandPipeline)) :
    Prop where
  modes : ∀ done, done <+: fed →
    (persistence.durableAll done).mode = (fresh.processAll (history ++ commands done)).replayMode
  resumes : ∀ done load behind, fed = done ++ load :: behind →
    (persistence.durableAll done).mode = .restoring →
    ((persistence.durableAll done).durable load).2.mode = .live →
    ∃ ahead start middle, done = ahead ++ start :: middle ∧
      Excursion (persistence.durableAll ahead) start middle load ∧
      Resumes (fresh.processAll (history ++ commands ahead)) (persistence.durableAll ahead)
        start middle load ∧
      BringsBack fresh (history ++ commands ahead) (commands (start :: middle)) load.1

/-- No StartReplay that leaves live mode is announced with the last event sequence. -/
def SequenceLeft (fresh : Matcher ω σ) (history : List CommandEnvelope)
    (fed : List (CommandEnvelope × CommandPipeline)) : Prop :=
  ∀ ahead start behind, fed = ahead ++ start :: behind → start.1.payload.message = .startReplay →
    (fresh.processAll (history ++ commands ahead)).replayMode = .live →
    (fresh.processAll (history ++ commands ahead)).nextEventSequence ≠ 0xFFFFFFFFFFFFFFFF

end Agreement

/-- The two replay states agree along every run that persistence accepts, that does not
stop the matcher and that leaves an event sequence to go on with. -/
theorem replay_states_agree {ω σ : Type} [EventWriter ω] [SnapshotStore σ] {fresh : Matcher ω σ}
    {eventWriter : ω} {snapshotStore : σ} {config : OrderBookConfig}
    {firstEventSequence : EventSequence}
    (created : Matcher.create eventWriter snapshotStore config firstEventSequence = some fresh)
    (history : List CommandEnvelope) {persistence : ReplayPersistenceState}
    (persistence_live : persistence.mode = .live)
    (matcher_live : (fresh.processAll history).replayMode = .live)
    {fed : List (CommandEnvelope × CommandPipeline)} (accepts : persistence.Accepts fed)
    (alive : (fresh.processAll (history ++ commands fed)).fatal = false)
    (left : SequenceLeft fresh history fed) : ReplayAgreement fresh history persistence fed := by
  have fresh_idle : fresh.Idle := fun _ => (Matcher.create_spec created).2.2.2.2.2.2
  have idle := fresh_idle.processAll history
  have same : persistence.mode = (fresh.processAll history).replayMode :=
    persistence_live.trans matcher_live.symm
  have modes : ∀ done, done <+: fed → (persistence.durableAll done).mode =
      (fresh.processAll (history ++ commands done)).replayMode := by
    rintro done ⟨behind, rfl⟩
    rw [Matcher.processAll_append]
    refine modes_agree idle same (ReplayPersistenceState.accepts_append.mp accepts).1 ?_
    rw [commands_append, ← List.append_assoc, Matcher.processAll_append] at alive
    rw [← Matcher.processAll_append]
    exact Matcher.alive_before alive
  refine ⟨modes, ?_⟩
  rintro done load behind rfl restoring back
  obtain ⟨ahead, start, middle, rfl, live, away⟩ :=
    exists_last (P := fun state : ReplayPersistenceState => state.mode = .live) persistence_live
      (by rw [← ReplayPersistenceState.durableAll, restoring]; nofun)
  have whole : ahead ++ start :: middle ++ load :: behind =
      ahead ++ (start :: middle ++ [load] ++ behind) := by simp
  rw [whole] at accepts alive
  obtain ⟨-, accepts⟩ := ReplayPersistenceState.accepts_append.mp accepts
  obtain ⟨accepts, -⟩ := ReplayPersistenceState.accepts_append.mp accepts
  obtain ⟨first, -⟩ := ReplayPersistenceState.accepts_cons.mp accepts
  have excursion : Excursion (persistence.durableAll ahead) start middle load := by
    refine ⟨live, fun done early => ?_, ?_⟩
    · rw [← ReplayPersistenceState.durableAll_append]
      exact away done early
    · rw [← ReplayPersistenceState.durableAll_append]
      exact back
  have alive_load : (fresh.processAll (history ++ commands ahead ++
      (commands (start :: middle) ++ [load.1]))).fatal = false := by
    have split : history ++ commands (ahead ++ (start :: middle ++ [load] ++ behind)) =
        history ++ commands ahead ++ (commands (start :: middle) ++ [load.1]) ++ commands behind := by
      simp
    rw [split, Matcher.processAll_append] at alive
    exact Matcher.alive_before alive
  have agrees := modes ahead ⟨start :: middle ++ load :: behind, by simp⟩
  refine ⟨ahead, start, middle, rfl, excursion, ?_, ?_⟩
  · refine excursion.resumes (fresh_idle.processAll _) agrees accepts ?_ ?_
    · rw [Matcher.processAll_append] at alive_load
      simpa using alive_load
    · have below := left ahead start (middle ++ load :: behind) (by simp)
        (excursion.starts first).1 (agrees ▸ live)
      grind
  · refine brings_back fresh_idle ?_
    rw [List.append_assoc]
    exact alive_load

def replayPipeline : CommandPipeline := (({} : CommandPipeline).open { capacity := 1 } true).2

/-- A snapshot, and a replay that loads it twice. -/
def replayedSnapshot : List (CommandEnvelope × CommandPipeline) :=
  [⟨1, 17, .saveSnapshot⟩, ⟨2, 17, .startReplay⟩, ⟨3, 17, .loadSnapshot ⟨1, 3⟩⟩,
    ⟨4, 17, .stopReplay⟩, ⟨5, 17, .loadSnapshot ⟨1, 3⟩⟩].map (·, replayPipeline)

/-- Its only StartReplay is the second command. -/
theorem replayedSnapshot_start {ahead behind : List (CommandEnvelope × CommandPipeline)}
    {start : CommandEnvelope × CommandPipeline} (split : replayedSnapshot = ahead ++ start :: behind)
    (starts : start.1.payload.message = .startReplay) :
    commands ahead = [⟨1, 17, .saveSnapshot⟩] ∧ start.1 = ⟨2, 17, .startReplay⟩ := by
  rcases ahead with _ | ⟨first, _ | ⟨second, ahead⟩⟩
  · obtain ⟨rfl, -⟩ := List.cons.inj split
    cases starts
  · obtain ⟨rfl, rest⟩ := List.cons.inj split
    obtain ⟨rfl, -⟩ := List.cons.inj rest
    exact ⟨rfl, rfl⟩
  · obtain ⟨-, rest⟩ := List.cons.inj split
    have last : replayedSnapshot.drop 2 = ahead ++ start :: behind := (List.cons.inj rest).2
    have member : start ∈ replayedSnapshot.drop 2 := by simp [last]
    have none_starts : ∀ command ∈ replayedSnapshot.drop 2, command.1.payload.message ≠ .startReplay := by
      decide
    exact absurd starts (none_starts start member)

theorem replay_states_agree_snapshot :
    ∃ fresh : Matcher (List EventEnvelope) MemorySnapshotStore,
      Matcher.create [] {} ⟨100, 200, 2⟩ 1 = some fresh ∧
      ReplayAgreement fresh [] {} replayedSnapshot := by
  obtain ⟨fresh, created⟩ := Matcher.exists_create ([] : List EventEnvelope)
    ({} : MemorySnapshotStore) ⟨100, 200, 2⟩ 1 (by decide)
  have run : ((Matcher.create ([] : List EventEnvelope) ({} : MemorySnapshotStore)
      ⟨100, 200, 2⟩ 1).map fun fresh =>
        ((fresh.processAll (commands replayedSnapshot)).fatal,
          (fresh.processAll [⟨1, 17, .saveSnapshot⟩]).nextEventSequence)) = some (false, 2) := by
    decide +kernel
  rw [created, Option.map_some, Option.some_inj, Prod.mk.injEq] at run
  refine ⟨fresh, created, replay_states_agree created [] rfl ?_ ?_ run.1 ?_⟩
  · exact (Matcher.create_spec created).2.2.2.2.2.1
  · unfold ReplayPersistenceState.Accepts
    decide +kernel
  · rintro ahead start behind split starts -
    rw [(replayedSnapshot_start split starts).1, List.nil_append, run.2]
    decide

/-- The StartReplay is announced with the last event sequence. What follows it is zero,
which the deferred transition takes for nothing deferred. -/
theorem replay_loses_event_sequence :
    ∃ fresh : Matcher (List EventEnvelope) MemorySnapshotStore,
      Matcher.create [] {} ⟨100, 200, 2⟩ 0xFFFFFFFFFFFFFFFE = some fresh ∧
      fresh.replayMode = .live ∧ ({} : ReplayPersistenceState).Accepts replayedSnapshot ∧
      (fresh.processAll (commands replayedSnapshot)).fatal = false ∧
      ¬ ReplayAgreement fresh [] {} replayedSnapshot := by
  obtain ⟨fresh, created⟩ := Matcher.exists_create ([] : List EventEnvelope)
    ({} : MemorySnapshotStore) ⟨100, 200, 2⟩ 0xFFFFFFFFFFFFFFFE (by decide)
  have run : ((Matcher.create ([] : List EventEnvelope) ({} : MemorySnapshotStore)
      ⟨100, 200, 2⟩ 0xFFFFFFFFFFFFFFFE).map fun fresh =>
        let started := (fresh.processAll [⟨1, 17, .saveSnapshot⟩]).process ⟨2, 17, .startReplay⟩
        let ended := fresh.processAll (commands replayedSnapshot)
        (started.2.published.getLast?.map (·.eventSequence), ended.fatal, ended.nextEventSequence)) =
      some (some 0xFFFFFFFFFFFFFFFF, false, 1) := by
    decide +kernel
  rw [created, Option.map_some, Option.some_inj, Prod.mk.injEq, Prod.mk.injEq] at run
  obtain ⟨announced, alive, next⟩ := run
  refine ⟨fresh, created, (Matcher.create_spec created).2.2.2.2.2.1, ?_, alive, ?_⟩
  · unfold ReplayPersistenceState.Accepts
    decide +kernel
  · intro agreement
    obtain ⟨ahead, start, middle, split, -, resumes, -⟩ := agreement.resumes
      (replayedSnapshot.take 4) (⟨5, 17, .loadSnapshot ⟨1, 3⟩⟩, replayPipeline) [] rfl (by decide +kernel)
      (by decide +kernel)
    obtain ⟨event, published, -, follows⟩ := resumes.event
    have whole : replayedSnapshot =
        ahead ++ start :: (middle ++ [(⟨5, 17, .loadSnapshot ⟨1, 3⟩⟩, replayPipeline)]) := by
      rw [← List.cons_append, ← List.append_assoc, ← split]
      rfl
    obtain ⟨before, second⟩ := replayedSnapshot_start whole resumes.starts
    have last : event.eventSequence = 0xFFFFFFFFFFFFFFFF := by
      rw [List.nil_append, before, second] at published
      rw [published, List.getLast?_concat] at announced
      exact Option.some_inj.mp announced
    have behind : fresh.processAll (commands replayedSnapshot) =
        (fresh.processAll ([] ++ commands ahead)).processAll
          (commands (start :: middle ++ [(⟨5, 17, .loadSnapshot ⟨1, 3⟩⟩, replayPipeline)])) := by
      rw [whole, List.nil_append, ← Matcher.processAll_append]
      simp
    rw [← behind, next, last] at follows
    cases follows

end Fexma
