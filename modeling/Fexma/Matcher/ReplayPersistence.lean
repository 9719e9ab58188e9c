import Fexma.Matcher.CommandPipeline

/-! The replay state of persistence (`replay.cpp`): what is done with a command that has
become durable, and where live sequences go on behind a replay. -/
namespace Fexma

inductive ReplayStatus where
  | ok
  | complete
  | backpressure
  | invalidConfig
  | walOpenFailed
  | walReadFailed
  | decodeFailed
  | pipelineFailed
  | expectedEventMissing
  | unexpectedEvent
  | eventMismatch
  | invalidTransition
  | manifestMismatch
  | checkpointCapacityExceeded
  deriving DecidableEq, Repr

structure ReplayResult where
  status : ReplayStatus := .invalidConfig
  sequence : UInt64 := 0
  deriving DecidableEq, Repr

inductive PersistenceAction where
  | appendAndSync
  | advanceDurableOnly
  deriving DecidableEq, Repr

structure ReplayPersistenceState where
  mode : ReplayMode := .live
  liveResumeSequence : CommandSequence := 0
  deriving DecidableEq, Repr

/-- A command is a LoadSnapshot. -/
def Command.isLoadSnapshot : Command → Bool
  | .loadSnapshot _ => true
  | _ => false

/-- What a command makes of the mode, if it is legal in it. -/
def ReplayMode.next : ReplayMode → Command → ReplayMode
  | .live, .startReplay => .replay
  | .replay, .stopReplay => .restoring
  | .restoring, .loadSnapshot _ => .live
  | mode, _ => mode

namespace ReplayPersistenceState

def action (state : ReplayPersistenceState) : PersistenceAction :=
  if state.mode = .live then .appendAndSync else .advanceDurableOnly

def onDurable (state : ReplayPersistenceState) (command : CommandEnvelope)
    (pipeline : CommandPipeline) : ReplayStatus × ReplayPersistenceState × CommandPipeline :=
  let message := command.payload.message
  if state.mode = .live ∧ message = .startReplay then
    if command.commandSequence = CommandPipeline.maxSequence then
      (.invalidTransition, state, pipeline)
    else
      (.ok, { mode := .replay, liveResumeSequence := command.commandSequence + 1 }, pipeline)
  else if state.mode = .replay ∧ message = .stopReplay then
    (.ok, { state with mode := .restoring }, pipeline)
  else if state.mode = .restoring then
    if !message.isLoadSnapshot then (.invalidTransition, state, pipeline)
    else
      let (restored, pipeline) := pipeline.restoreLiveSequence state.liveResumeSequence
      if restored ≠ .ok then (.pipelineFailed, state, pipeline)
      else (.ok, { state with mode := .live }, pipeline)
  else (.ok, state, pipeline)

/-- One durable command, with the pipeline as it is by then. -/
def durable (state : ReplayPersistenceState) (fed : CommandEnvelope × CommandPipeline) :
    (ReplayStatus × CommandPipeline) × ReplayPersistenceState :=
  let (status, state, pipeline) := state.onDurable fed.1 fed.2
  ((status, pipeline), state)

section Durable
variable {state : ReplayPersistenceState} {fed : CommandEnvelope × CommandPipeline}

/-- Where there is no legal transition the mode stays. -/
theorem next_of_not {mode : ReplayMode} {message : Command}
    (no_start : ¬ (mode = .live ∧ message = .startReplay))
    (no_stop : ¬ (mode = .replay ∧ message = .stopReplay)) (not_restoring : mode ≠ .restoring) :
    mode.next message = mode := by
  cases mode with
  | live => cases message <;> first | rfl | exact absurd ⟨rfl, rfl⟩ no_start
  | replay => cases message <;> first | rfl | exact absurd ⟨rfl, rfl⟩ no_stop
  | restoring => exact absurd rfl not_restoring

/-- An accepted command starts a replay, stops it, loads behind it or changes nothing. -/
theorem durable_cases (accepted : (state.durable fed).1.1 = .ok) :
    (state.mode = .live ∧ fed.1.payload.message = .startReplay ∧
      fed.1.commandSequence ≠ CommandPipeline.maxSequence ∧
      state.durable fed =
        ((.ok, fed.2), { mode := .replay, liveResumeSequence := fed.1.commandSequence + 1 })) ∨
    (state.mode = .replay ∧ fed.1.payload.message = .stopReplay ∧
      state.durable fed = ((.ok, fed.2), { state with mode := .restoring })) ∨
    (state.mode = .restoring ∧ (∃ command, fed.1.payload.message = .loadSnapshot command) ∧
      state.durable fed =
        ((.ok, { fed.2 with
            nextLiveSequence := state.liveResumeSequence, sequenceExhausted := false }),
          { state with mode := .live })) ∨
    (state.mode.next fed.1.payload.message = state.mode ∧ state.durable fed = ((.ok, fed.2), state)) := by
  simp only [durable, onDurable] at accepted ⊢
  split_ifs at accepted ⊢ with starts last stops restoring other refused
  · exact .inl ⟨starts.1, starts.2, last, rfl⟩
  · exact .inr (.inl ⟨stops.1, stops.2, rfl⟩)
  · refine .inr (.inr (.inl ⟨restoring, ?_, ?_⟩))
    · cases message : fed.1.payload.message with
      | loadSnapshot command => exact ⟨command, rfl⟩
      | _ =>
        rw [message] at other
        exact absurd rfl other
    · simp only [CommandPipeline.restoreLiveSequence] at refused ⊢
      split_ifs at refused ⊢ with closed zero
      · exact absurd nofun refused
      · exact absurd nofun refused
      · rfl
  · exact .inr (.inr (.inr ⟨next_of_not starts stops restoring, rfl⟩))

/-- An accepted command moves the mode as it is legal. -/
theorem durable_mode (accepted : (state.durable fed).1.1 = .ok) :
    (state.durable fed).2.mode = state.mode.next fed.1.payload.message := by
  rcases durable_cases accepted with ⟨mode, message, -, moved⟩ | ⟨mode, message, moved⟩ |
    ⟨mode, ⟨command, message⟩, moved⟩ | ⟨same, moved⟩
  · rw [moved, mode, message]
    rfl
  · rw [moved, mode, message]
    rfl
  · rw [moved, mode, message]
    rfl
  · rw [moved, same]

/-- The saved sequence is touched in live mode only. -/
theorem durable_resume (accepted : (state.durable fed).1.1 = .ok) (away : state.mode ≠ .live) :
    (state.durable fed).2.liveResumeSequence = state.liveResumeSequence := by
  rcases durable_cases accepted with ⟨mode, -⟩ | ⟨-, -, moved⟩ | ⟨-, -, moved⟩ | ⟨-, moved⟩
  · exact absurd mode away
  · rw [moved]
  · rw [moved]
  · rw [moved]

end Durable

/-- The state behind a sequence of durable commands. -/
def durableAll (state : ReplayPersistenceState) (fed : List (CommandEnvelope × CommandPipeline)) :
    ReplayPersistenceState :=
  Transducer.final durable state fed

/-- Every command of the sequence is accepted. -/
def Accepts (state : ReplayPersistenceState) (fed : List (CommandEnvelope × CommandPipeline)) :
    Prop :=
  ∀ answer ∈ Transducer.outputs durable state fed, answer.1 = .ok

section Runs
variable {state : ReplayPersistenceState} {command : CommandEnvelope × CommandPipeline}
variable {fed more : List (CommandEnvelope × CommandPipeline)}

@[simp] theorem durableAll_cons :
    state.durableAll (command :: fed) = (state.durable command).2.durableAll fed := rfl

@[simp] theorem durableAll_append :
    state.durableAll (fed ++ more) = (state.durableAll fed).durableAll more :=
  Transducer.final_append

theorem accepts_cons : state.Accepts (command :: fed) ↔
    (state.durable command).1.1 = .ok ∧ (state.durable command).2.Accepts fed :=
  List.forall_mem_cons

theorem accepts_append : state.Accepts (fed ++ more) ↔
    state.Accepts fed ∧ (state.durableAll fed).Accepts more := by
  simp only [Accepts, Transducer.outputs_append, List.forall_mem_append]
  rfl

end Runs

end ReplayPersistenceState

end Fexma
