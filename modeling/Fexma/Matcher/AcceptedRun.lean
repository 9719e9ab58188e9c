import Fexma.Matcher.Framing
import Fexma.Matcher.Replay
import Fexma.Matcher.ReplayAgreement

/-! Runs with a writer that takes what it is given in the order it expects, and may refuse
everything else. A command whose events it expects is carried out as with a writer that takes
everything. -/
namespace Fexma

open Processing

variable {ω σ : Type} [EventWriter ω] {ends : ω → Prop} {expected : List EventEnvelope}

/-- The writer takes the envelopes one after the other and ends as `ends` says. -/
def Accepts (ends : ω → Prop) : ω → List EventEnvelope → Prop
  | eventWriter, [] => ends eventWriter
  | eventWriter, envelope :: envelopes =>
    (EventWriter.publish eventWriter envelope).1 = .ok ∧
      Accepts ends (EventWriter.publish eventWriter envelope).2 envelopes

/-! ### A writer that goes on behind a refusal -/

/-- The same writer, without its refusals. -/
structure Steady (ω : Type) where
  eventWriter : ω

instance : EventWriter (Steady ω) where
  publish steady envelope := (.ok, ⟨(EventWriter.publish steady.eventWriter envelope).2⟩)

/-- A matcher with the steady form of its writer. -/
def Matcher.steady (matcher : Matcher ω σ) : Matcher (Steady ω) σ :=
  { matcher with eventWriter := ⟨matcher.eventWriter⟩ }

def Processing.steady (s : Processing ω σ) : Processing (Steady ω) σ :=
  { matcher := s.matcher.steady, events := s.events }

/-- What has been published is expected, and the writer takes the rest of what is expected. -/
structure OnTrack (ends : ω → Prop) (expected : List EventEnvelope) (matcher : Matcher ω σ) : Prop where
  within : matcher.published <+: expected
  accepts : Accepts ends matcher.eventWriter (expected.drop matcher.published.length)

/-- The steady run comes only to what is expected if it started so, and then the run does
the same. -/
def Tracks (ends : ω → Prop) (expected : List EventEnvelope) (start : Matcher ω σ)
    (answer : ProcessResult × Processing ω σ) (steady : ProcessResult × Processing (Steady ω) σ) :
    Prop :=
  steady.2.matcher.published <+: expected → start.published <+: expected ∧
    (OnTrack ends expected start →
      steady = (answer.1, answer.2.steady) ∧ OnTrack ends expected answer.2.matcher)

section Tracks
variable {s : Processing ω σ} {start other : Matcher ω σ} {event : Event}
variable {answer : ProcessResult × Processing ω σ} {steady : ProcessResult × Processing (Steady ω) σ}
variable {next : Processing ω σ → ProcessResult × Processing ω σ}
variable {next' : Processing (Steady ω) σ → ProcessResult × Processing (Steady ω) σ}

/-- Only the writer and what it has taken count. -/
theorem OnTrack.congr (onTrack : OnTrack ends expected start)
    (eventWriter : other.eventWriter = start.eventWriter)
    (published : other.published = start.published) : OnTrack ends expected other := by
  obtain ⟨within, accepts⟩ := onTrack
  exact ⟨published ▸ within, by rwa [published, eventWriter]⟩

theorem Tracks.congr (tracks : Tracks ends expected other answer steady)
    (eventWriter : other.eventWriter = start.eventWriter)
    (published : other.published = start.published) : Tracks ends expected start answer steady := by
  intro reached
  obtain ⟨within, same⟩ := tracks reached
  exact ⟨published ▸ within, fun onTrack => same (onTrack.congr eventWriter published)⟩

/-- An answer without a publication. -/
theorem Tracks.still (result : ProcessResult) (s : Processing ω σ) :
    Tracks ends expected s.matcher (result, s) (result, s.steady) :=
  fun reached => ⟨reached, fun onTrack => ⟨rfl, onTrack⟩⟩

/-- A publication that is expected is accepted. -/
theorem OnTrack.publish {envelope : EventEnvelope} (onTrack : OnTrack ends expected start)
    (reached : start.published ++ [envelope] <+: expected) :
    ∃ eventWriter, EventWriter.publish start.eventWriter envelope = (.ok, eventWriter) ∧
      OnTrack ends expected { start with eventWriter, published := start.published ++ [envelope] } := by
  obtain ⟨rest, rfl⟩ := reached
  have accepts := onTrack.accepts
  rw [List.append_assoc, List.drop_left] at accepts
  obtain ⟨taken, later⟩ := accepts
  refine ⟨_, Prod.ext taken rfl, List.prefix_append _ _, ?_⟩
  rwa [List.drop_left]

/-- The envelope of the event that waits. -/
def Processing.pendingEnvelope (s : Processing ω σ) (last : Bool) : EventEnvelope where
  eventSequence := s.matcher.nextEventSequence
  payload :=
    { clientId := s.events.clientId
      causedByCommandSequence := s.events.commandSequence
      indexInCommand := s.events.pendingIndex
      isLastForCommand := last
      message := s.events.pending }

private theorem publishPending_accepted {last : Bool} {eventWriter : ω}
    (taken : EventWriter.publish s.matcher.eventWriter (s.pendingEnvelope last) =
      (.ok, eventWriter)) :
    s.publishPending last = (true,
      { matcher := { s.matcher with
          eventWriter
          nextEventSequence := s.matcher.nextEventSequence + 1
          published := s.matcher.published ++ [s.pendingEnvelope last] }
        events := { s.events with hasPending := false } }) := by
  have accepted : s.matcher.publishEvent (s.pendingEnvelope last) = (true, { s.matcher with
      eventWriter
      nextEventSequence := s.matcher.nextEventSequence + 1
      published := s.matcher.published ++ [s.pendingEnvelope last] }) := by
    rw [Matcher.publishEvent, taken]
    rfl
  unfold Processing.pendingEnvelope at accepted ⊢
  rw [publishPending, accepted]

/-- A publication of the steady run is one of the run. -/
private theorem publishPending_tracks {last : Bool}
    (reached : (s.steady.publishPending last).2.matcher.published <+: expected) :
    s.matcher.published <+: expected ∧ (OnTrack ends expected s.matcher →
      s.steady.publishPending last = (true, (s.publishPending last).2.steady) ∧
        (s.publishPending last).1 = true ∧ OnTrack ends expected (s.publishPending last).2.matcher) := by
  refine ⟨(List.prefix_append _ _).trans reached, fun onTrack => ?_⟩
  obtain ⟨eventWriter, taken, behind⟩ := onTrack.publish reached
  have taken : EventWriter.publish s.matcher.eventWriter (s.pendingEnvelope last) =
      (.ok, eventWriter) := taken
  have steady : EventWriter.publish s.steady.matcher.eventWriter (s.steady.pendingEnvelope last) =
      (.ok, ⟨eventWriter⟩) := congrArg (fun answer => (PublishStatus.ok, Steady.mk answer.2)) taken
  rw [publishPending_accepted taken, publishPending_accepted steady]
  exact ⟨rfl, rfl, behind.congr rfl rfl⟩

/-- An event waits in its place. -/
def Processing.wait (s : Processing ω σ) (event : Event) : Processing ω σ :=
  { s with
    events := { s.events with
      pending := event
      pendingIndex := s.events.nextIndex
      nextIndex := s.events.nextIndex + 1
      hasPending := true } }

private theorem add_first (first : s.events.hasPending = false) :
    s.emit event next = next (s.wait event) := by
  unfold Processing.emit Processing.add
  rw [first]
  rfl

private theorem add_behind (pending : s.events.hasPending = true)
    (accepted : (s.publishPending false).1 = true) :
    s.emit event next = next ((s.publishPending false).2.wait event) := by
  unfold Processing.emit Processing.add
  rw [if_pos pending, ← Prod.eta (s.publishPending false), accepted]
  rfl

omit [EventWriter ω] in
theorem exists_steady (t : Processing (Steady ω) σ) : ∃ s : Processing ω σ, s.steady = t :=
  ⟨{ matcher := { t.matcher with eventWriter := t.matcher.eventWriter.eventWriter }
     events := t.events }, rfl⟩

/-- `add` in front of what follows. -/
theorem Tracks.emit (event : Event)
    (rest : ∀ s, Tracks ends expected s.matcher (next s) (next' s.steady)) (s : Processing ω σ) :
    Tracks ends expected s.matcher (s.emit event next) (s.steady.emit event next') := by
  cases pending : s.events.hasPending with
  | false =>
    rw [add_first pending, add_first (s := s.steady) pending]
    exact (rest (s.wait event)).congr rfl rfl
  | true =>
    have accepted : (s.steady.publishPending false).1 = true := rfl
    rw [add_behind (s := s.steady) pending accepted]
    obtain ⟨t, same⟩ := exists_steady ((s.steady.publishPending false).2.wait event)
    intro reached
    have published : t.matcher.published = (s.steady.publishPending false).2.matcher.published :=
      congrArg (fun t : Processing (Steady ω) σ => t.matcher.published) same
    have behind := (rest t (same.symm ▸ reached)).1
    rw [published] at behind
    obtain ⟨within, onTrack⟩ := publishPending_tracks behind
    refine ⟨within, fun start => ?_⟩
    obtain ⟨steps, taken, later⟩ := onTrack start
    rw [add_behind pending taken]
    have state : (s.steady.publishPending false).2 = (s.publishPending false).2.steady :=
      congrArg Prod.snd steps
    rw [state] at reached ⊢
    exact (rest ((s.publishPending false).2.wait event) reached).2 (later.congr rfl rfl)

theorem Tracks.proceed (s : Processing ω σ) :
    Tracks ends expected s.matcher s.proceed s.steady.proceed := .still _ s

/-- A branch on what both runs have in common. -/
theorem Tracks.ite {condition : Prop} [Decidable condition]
    {other : ProcessResult × Processing ω σ} {other' : ProcessResult × Processing (Steady ω) σ}
    (yes : Tracks ends expected start answer steady) (no : Tracks ends expected start other other') :
    Tracks ends expected start (if condition then answer else other)
      (if condition then steady else other') := by
  split_ifs
  · exact yes
  · exact no

theorem Tracks.enterFatalProcess (reason : FatalReason) (offendingOrderId lastOrderId : OrderId)
    (s : Processing ω σ) : Tracks ends expected s.matcher
      (s.enterFatalProcess reason offendingOrderId lastOrderId)
      (s.steady.enterFatalProcess reason offendingOrderId lastOrderId) := by
  have stop (s : Processing ω σ) : Tracks ends expected s.matcher
      ({ status := .fatal, fatalReason := reason },
        { s with matcher := s.matcher.transitionToFatalState reason })
      ({ status := .fatal, fatalReason := reason },
        { s.steady with matcher := s.steady.matcher.transitionToFatalState reason }) :=
    (Tracks.still _ { s with matcher := s.matcher.transitionToFatalState reason }).congr rfl rfl
  exact .ite (.emit _ stop s) (stop s)

/-! ### The handlers -/

theorem Tracks.settle (incoming : NewLimitOrder) (remaining : Quantity) (s : Processing ω σ) :
    Tracks ends expected s.matcher (settle incoming remaining s) (settle incoming remaining s.steady) := by
  let placed := s.withBook (s.matcher.book.insert (incoming.resting remaining)).2
  refine .ite (.emit _ .proceed s) ?_
  refine @Tracks.congr _ _ _ _ _ _ placed.matcher _ _ ?_ rfl rfl
  exact .ite (.ite (.emit _ .proceed placed) (.enterFatalProcess _ _ _ placed))
    (.emit _ .proceed placed)

/-- The loop, one turn behind the other. -/
theorem Tracks.matchLoop (incoming : NewLimitOrder) (fuel : ℕ) (remaining : Quantity)
    (s : Processing ω σ) : Tracks ends expected s.matcher (matchLoop incoming fuel remaining s)
      (matchLoop incoming fuel remaining s.steady) := by
  induction fuel generalizing remaining s with
  | zero => exact .settle incoming remaining s
  | succ fuel ih =>
    unfold Processing.matchLoop
    refine .ite (.settle incoming remaining s) ?_
    have same : s.steady.matcher.book.best (Matcher.oppositeSide incoming.side) =
      s.matcher.book.best (Matcher.oppositeSide incoming.side) := rfl
    rw [same]
    cases s.matcher.book.best (Matcher.oppositeSide incoming.side) with
    | none => exact .settle incoming remaining s
    | some resting =>
      refine .ite (.settle incoming remaining s) (.emit _ (fun s => ?_) s)
      let erased := s.withBook (s.matcher.book.erase resting.id).2
      let changed := s.withBook (s.matcher.book.setRemaining resting.id
        (resting.remaining - min remaining resting.remaining)).2
      refine .ite ?_ ?_
      · refine @Tracks.congr _ _ _ _ _ _ erased.matcher _ _ ?_ rfl rfl
        exact .ite (.enterFatalProcess _ _ _ erased) (.emit _ (ih _) erased)
      · refine @Tracks.congr _ _ _ _ _ _ changed.matcher _ _ ?_ rfl rfl
        exact .ite (.enterFatalProcess _ _ _ changed) (ih _ changed)

theorem Tracks.processNewLimit (incoming : NewLimitOrder) (s : Processing ω σ) :
    Tracks ends expected s.matcher (s.processNewLimit incoming) (s.steady.processNewLimit incoming) := by
  let named : Processing ω σ := { s with matcher := { s.matcher with lastOrderId := incoming.id } }
  refine .ite (.enterFatalProcess _ _ _ s) ?_
  refine @Tracks.congr _ _ _ _ _ _ named.matcher _ _ ?_ rfl rfl
  exact .ite (.emit _ .proceed named) (.emit _ (.matchLoop incoming _ _) named)

variable [SnapshotStore σ]

theorem Tracks.processSaveSnapshot (commandSequence : CommandSequence) (s : Processing ω σ) :
    Tracks ends expected s.matcher (s.processSaveSnapshot commandSequence)
      (s.steady.processSaveSnapshot commandSequence) := by
  let stored : Processing ω σ := { s with matcher := { s.matcher with
    snapshotStore := (SnapshotStore.capture s.matcher.snapshotStore
      (s.matcher.snapshotView commandSequence)).2 } }
  refine @Tracks.congr _ _ _ _ _ _ stored.matcher _ _ ?_ rfl rfl
  exact .ite (.enterFatalProcess _ _ _ stored) (.emit _ .proceed stored)

theorem Tracks.processLoadSnapshot (command : LoadSnapshotCommand) (s : Processing ω σ) :
    Tracks ends expected s.matcher (s.processLoadSnapshot command)
      (s.steady.processLoadSnapshot command) := by
  obtain ⟨⟨_, _, _, _, _, _, _, _, mode, _, _, _, _, _, _⟩, _⟩ := s
  -- The sequence and the mode that are deferred depend on the mode.
  cases mode
  all_goals
    refine Tracks.congr (.ite (.enterFatalProcess _ _ _ _) (.ite (.enterFatalProcess _ _ _ _) ?_))
      rfl rfl
    refine Tracks.congr (.ite (.enterFatalProcess _ _ _ _) ?_) rfl rfl
    exact (Tracks.emit _ .proceed _).congr rfl rfl

/-! ### Whole commands -/

omit [EventWriter ω] [SnapshotStore σ] in
/-- The deferred transition leaves the writer alone. -/
private theorem transition_steady (s : Processing ω σ) :
    s.steady.applyDeferredReplayTransition = s.applyDeferredReplayTransition.steady ∧
      s.applyDeferredReplayTransition.matcher.eventWriter = s.matcher.eventWriter ∧
      s.applyDeferredReplayTransition.matcher.published = s.matcher.published := by
  unfold Processing.applyDeferredReplayTransition
  rw [Matcher.applyDeferredReplayTransition_eq, Matcher.applyDeferredReplayTransition_eq]
  exact ⟨rfl, rfl, rfl⟩

omit [SnapshotStore σ] in
private theorem Tracks.transition (result : ProcessResult) (s : Processing ω σ) :
    Tracks ends expected s.matcher (result, s.applyDeferredReplayTransition)
      (result, s.steady.applyDeferredReplayTransition) := by
  obtain ⟨same, eventWriter, published⟩ := transition_steady s
  rw [same]
  exact (Tracks.still result _).congr eventWriter published

omit [SnapshotStore σ] in
private theorem finishCommand_pending {processed : ProcessResult} (going : s.events.failed = false)
    (pending : s.events.hasPending = true) (accepted : (s.publishPending true).1 = true) :
    finishCommand processed s = (processed, (s.publishPending true).2.applyDeferredReplayTransition) := by
  unfold Processing.finishCommand Processing.finish
  rw [if_neg (by simp [going]), if_pos pending, ← Prod.eta (s.publishPending true), accepted]

omit [SnapshotStore σ] in
private theorem finishCommand_idle {processed : ProcessResult} (going : s.events.failed = false)
    (idle : s.events.hasPending = false) :
    finishCommand processed s = ({ status := .fatal, fatalReason := s.matcher.fatalReason }, s) := by
  unfold Processing.finishCommand Processing.finish
  rw [if_neg (by simp [going]), idle]
  rfl

omit [SnapshotStore σ] in
theorem Tracks.finishCommand (processed : ProcessResult) (s : Processing ω σ) :
    Tracks ends expected s.matcher (finishCommand processed s) (finishCommand processed s.steady) := by
  cases going : s.events.failed with
  | true =>
    have going' : s.steady.events.failed = true := going
    unfold Processing.finishCommand
    rw [if_pos going, if_pos going']
    exact .transition processed s
  | false =>
    cases pending : s.events.hasPending with
    | false =>
      rw [finishCommand_idle going pending, finishCommand_idle (s := s.steady) going pending]
      exact .still _ s
    | true =>
      have accepted : (s.steady.publishPending true).1 = true := rfl
      rw [finishCommand_pending (s := s.steady) going pending accepted]
      intro reached
      obtain ⟨t, same⟩ := exists_steady (s.steady.publishPending true).2
      rw [← same, (transition_steady t).1] at reached
      have behind : t.matcher.published <+: expected := (transition_steady t).2.2 ▸ reached
      have published : t.matcher.published = (s.steady.publishPending true).2.matcher.published :=
        congrArg (fun t : Processing (Steady ω) σ => t.matcher.published) same
      rw [published] at behind
      obtain ⟨within, onTrack⟩ := publishPending_tracks behind
      refine ⟨within, fun start => ?_⟩
      obtain ⟨steps, taken, later⟩ := onTrack start
      obtain ⟨commutes, eventWriter, kept⟩ := transition_steady (s.publishPending true).2
      rw [finishCommand_pending going pending taken, congrArg Prod.snd steps, commutes]
      exact ⟨rfl, later.congr eventWriter kept⟩

omit [SnapshotStore σ] in
theorem Tracks.conclude (processed : ProcessResult) (s : Processing ω σ) :
    Tracks ends expected s.matcher (s.conclude processed) (s.steady.conclude processed) := by
  refine .ite (.emit _ (fun s => ?_) s) (.finishCommand processed s)
  exact (Tracks.finishCommand _ _).congr rfl rfl

omit [SnapshotStore σ] in
/-- A handler, and what `process` does behind it. -/
theorem Tracks.concluded (handled : Tracks ends expected start answer steady) :
    Tracks ends expected start (answer.2.conclude answer.1) (steady.2.conclude steady.1) := by
  intro reached
  obtain ⟨t, same⟩ := exists_steady steady.2
  rw [← same] at reached
  have behind := (@Tracks.conclude _ _ _ ends _ steady.1 t reached).1
  have published : t.matcher.published = steady.2.matcher.published :=
    congrArg (fun t : Processing (Steady ω) σ => t.matcher.published) same
  rw [published] at behind
  obtain ⟨within, onTrack⟩ := handled behind
  refine ⟨within, fun begun => ?_⟩
  obtain ⟨rfl, later⟩ := onTrack begun
  rw [same] at reached
  exact (Tracks.conclude answer.1 answer.2 reached).2 later

theorem Tracks.dispatch (commandSequence : CommandSequence) (command : Command)
    (s : Processing ω σ) : Tracks ends expected s.matcher (s.dispatch commandSequence command)
      (s.steady.dispatch commandSequence command) := by
  cases command with
  | newLimit order => exact (Tracks.processNewLimit order s).concluded
  | saveSnapshot => exact (Tracks.processSaveSnapshot commandSequence s).concluded
  | loadSnapshot load => exact (Tracks.processLoadSnapshot load s).concluded
  | none => exact .emit _ (.conclude _) s
  | unknown tag => exact .emit _ (.conclude _) s
  | shutdown =>
    refine .emit _ (fun s => ?_) s
    exact (Tracks.conclude _ _).congr rfl rfl
  | startReplay =>
    refine .emit _ (fun s => ?_) s
    obtain ⟨⟨_, _, _, _, _, _, _, _, mode, _, _, _, _, _, _⟩, _⟩ := s
    cases mode
    all_goals exact (Tracks.conclude _ _).congr rfl rfl
  | stopReplay =>
    refine .emit _ (fun s => ?_) s
    obtain ⟨⟨_, _, _, _, _, _, _, _, mode, _, _, _, _, _, _⟩, _⟩ := s
    cases mode
    all_goals exact (Tracks.conclude _ _).congr rfl rfl

/-- A command whose events the writer expects is carried out. -/
theorem Matcher.process_accepted {matcher : Matcher ω σ} {envelope : CommandEnvelope}
    {more : List EventEnvelope} (alive : matcher.fatal = false) (settled : matcher.Settled)
    (accepts : Accepts ends matcher.eventWriter (closedGroup matcher.nextEventSequence envelope
      (matcher.plan envelope).steps.events ++ more)) :
    Completed matcher (matcher.process envelope).2 envelope (matcher.plan envelope) ∧
      Accepts ends (matcher.process envelope).2.eventWriter more := by
  have healthy : HealthyWriter (Steady ω) := fun _ _ => rfl
  obtain ⟨completed, -⟩ := @process_completed (Steady ω) σ _ matcher.steady _ envelope healthy alive
    ⟨settled.startReplay, settled.eventSequence, settled.mode⟩
  have start : OnTrack ends (matcher.published ++ (closedGroup matcher.nextEventSequence envelope
      (matcher.plan envelope).steps.events ++ more)) matcher := by
    refine ⟨List.prefix_append _ _, ?_⟩
    rwa [List.drop_left]
  let s : Processing ω σ := { matcher, events := .start envelope }
  have ran : matcher.process envelope =
      ((s.dispatch envelope.commandSequence envelope.payload.message).1,
        (s.dispatch envelope.commandSequence envelope.payload.message).2.matcher) := by
    rw [process, if_neg (by simp [alive])]
  have ran' : matcher.steady.process envelope =
      ((s.steady.dispatch envelope.commandSequence envelope.payload.message).1,
        (s.steady.dispatch envelope.commandSequence envelope.payload.message).2.matcher) := by
    rw [process, if_neg (by simp [Matcher.steady, alive])]
    rfl
  have published := completed.published
  rw [ran'] at completed published
  have reached : (s.steady.dispatch envelope.commandSequence
      envelope.payload.message).2.matcher.published <+: matcher.published ++ (closedGroup
        matcher.nextEventSequence envelope (matcher.plan envelope).steps.events ++ more) := by
    rw [← List.append_assoc]
    exact ⟨more, congrArg (· ++ more) published⟩
  obtain ⟨same, behind⟩ := (Tracks.dispatch _ _ s reached).2 start
  rw [same] at completed published
  have group : (s.dispatch envelope.commandSequence envelope.payload.message).2.matcher.published =
      matcher.published ++ closedGroup matcher.nextEventSequence envelope
        (matcher.plan envelope).steps.events := published
  have rest := behind.accepts
  rw [group, ← List.append_assoc, List.drop_left] at rest
  rw [ran]
  exact ⟨⟨group, completed.nextEventSequence, completed.liveResume, completed.replayMode,
    completed.contents, completed.lastOrderId, completed.snapshotStore, completed.bookConfig,
    completed.fatal, completed.fatalReason, ⟨completed.settled.startReplay,
      completed.settled.eventSequence, completed.settled.mode⟩⟩, rest⟩

end Tracks

/-! ### A run that is gone through again -/

section Retraced
variable {ω' σ' : Type} [EventWriter ω'] [SnapshotStore σ] [SnapshotStore σ']
variable {live : Matcher ω σ} {replaying : Matcher ω' σ'} {ends : ω' → Prop}
variable {commands : List CommandEnvelope} {command : CommandEnvelope} {count : ℕ}
variable {more : List EventEnvelope}

/-- One command, carried out again by a matcher whose writer expects its events. -/
theorem Alike.process_accepted (alike : Alike live replaying) (replayable : command.Replayable)
    (alive : (live.process command).2.fatal = false)
    (captures : command.payload.message = .saveSnapshot → replaying.Captures command)
    (accepts : Accepts ends replaying.eventWriter
      (closedGroup live.nextEventSequence command (live.plan command).steps.events ++ more)) :
    Alike (live.process command).2 (replaying.process command).2 ∧
      Accepts ends (replaying.process command).2.eventWriter more := by
  have idle : live.Idle := fun _ => alike.settled
  obtain ⟨completed, going⟩ := Matcher.completed_of_alive idle alive
  have agrees := alike.plan replayable going captures
  rw [agrees.steps, ← alike.nextEventSequence] at accepts
  obtain ⟨completed', rest⟩ := Matcher.process_accepted alike.alive' alike.settled' accepts
  refine ⟨⟨?_, ?_, ?_, completed.settled, completed'.settled, alive, ?_⟩, rest⟩
  · rw [completed.contents, completed'.contents, agrees.book]
  · rw [completed.lastOrderId, completed'.lastOrderId, agrees.lastOrderId]
  · rw [completed.quiet_next agrees.quiet, completed'.quiet_next agrees.quietOther,
      alike.nextEventSequence, agrees.steps]
  · rw [completed'.fatal, ← agrees.result, decide_eq_false going]

/-- The first commands of a run have been carried out again, and the writer expects the events
of the others. -/
structure Retraced (ends : ω' → Prop) (live : Matcher ω σ) (commands : List CommandEnvelope)
    (count : ℕ) (replaying : Matcher ω' σ') : Prop where
  alike : Alike (live.processAll (commands.take count)) replaying
  accepts : ∃ rest, (live.processAll commands).published =
      (live.processAll (commands.take count)).published ++ rest ∧
    Accepts ends replaying.eventWriter rest

/-- The next command. -/
theorem Retraced.step (retraced : Retraced ends live commands count replaying)
    (next : commands[count]? = some command) (replayable : command.Replayable)
    (alive : (live.processAll commands).fatal = false)
    (captures : command.payload.message = .saveSnapshot → replaying.Captures command) :
    Retraced ends live commands (count + 1) (replaying.process command).2 := by
  obtain ⟨inside, here⟩ := List.getElem?_eq_some_iff.mp next
  have taken : commands.take (count + 1) = commands.take count ++ [command] := by
    rw [List.take_succ_eq_append_getElem inside, here]
  have ran : live.processAll (commands.take (count + 1)) =
      ((live.processAll (commands.take count)).process command).2 := by
    rw [taken, Matcher.processAll_append]
    rfl
  have whole : live.processAll commands =
      (live.processAll (commands.take (count + 1))).processAll (commands.drop (count + 1)) := by
    rw [← Matcher.processAll_append, List.take_append_drop]
  rw [whole] at alive
  have alive_next := Matcher.alive_before alive
  obtain ⟨alike, rest, published, accepts⟩ := retraced
  have idle : (live.processAll (commands.take count)).Idle := fun _ => alike.settled
  have alive_now := ran ▸ alive_next
  obtain ⟨completed, -⟩ := Matcher.completed_of_alive idle alive_now
  obtain ⟨groups, grouped⟩ := exists_grouped (ran ▸ idle.process command) (commands.drop (count + 1))
  have ends_with := grouped.published
  rw [← whole, published, ran, completed.published, List.append_assoc, List.append_right_inj]
    at ends_with
  rw [ends_with] at accepts
  obtain ⟨alike', accepts'⟩ := alike.process_accepted replayable alive_now captures accepts
  refine ⟨ran ▸ alike', groups.flatten, ?_, accepts'⟩
  rw [whole]
  exact grouped.published

omit [SnapshotStore σ'] in
/-- Behind the last command the writer is where it should end. -/
theorem Retraced.ended (retraced : Retraced ends live commands commands.length replaying) :
    Alike (live.processAll commands) replaying ∧ ends replaying.eventWriter := by
  obtain ⟨alike, rest, published, accepts⟩ := retraced
  rw [List.take_length] at alike published
  rw [List.self_eq_append_right.mp published] at accepts
  exact ⟨alike, accepts⟩

end Retraced

end Fexma
