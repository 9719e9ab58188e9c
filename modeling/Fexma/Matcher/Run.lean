import Fexma.Library.Loop
import Fexma.Matcher.Runs

/-! The loop of the matcher over a command reader (`Matcher::run`). It carries out what the
reader delivers, in order and once, until a command stops it or the reader fails, and behind
that it reads nothing any more. -/
namespace Fexma

inductive CommandReadStatus where
  | ok
  | empty
  | fatal
  deriving DecidableEq, Repr

structure CommandReadResult where
  status : CommandReadStatus := .empty
  envelope : CommandEnvelope := {}
  deriving DecidableEq, Repr

inductive RunStatus where
  | stopped
  | fatal
  deriving DecidableEq, Repr

structure RunResult where
  status : RunStatus := .stopped
  fatalReason : FatalReason := .none
  deriving DecidableEq, Repr

/-- Where commands come from. -/
class CommandReader (κ : Type) where
  readNext : κ → CommandReadResult × κ

/-- A reader over a script, which is empty behind its end. -/
instance : CommandReader (List CommandReadResult) where
  readNext script := (script.head?.getD {}, script.tail)

namespace Matcher

variable {κ ω σ : Type} [CommandReader κ] [EventWriter ω] [SnapshotStore σ]

/-- One turn of the loop of `run`. -/
def runTurn : κ × Matcher ω σ → (κ × Matcher ω σ) ⊕ (RunResult × κ × Matcher ω σ)
  | (reader, matcher) =>
    if !matcher.running then .inr ({ status := .stopped }, reader, matcher)
    else
      let (read, reader) := CommandReader.readNext reader
      match read.status with
      | .ok =>
        let (processed, matcher) := matcher.process read.envelope
        match processed.status with
        | .stop => .inr ({ status := .stopped }, reader, matcher)
        | .fatal =>
          .inr ({ status := .fatal, fatalReason := processed.fatalReason }, reader, matcher)
        | .continue => .inl (reader, matcher)
      | .empty => .inl (reader, matcher)
      | .fatal =>
        let matcher := matcher.transitionToFatalState .commandReaderFatal
        .inr ({ status := .fatal, fatalReason := matcher.fatalReason }, reader, matcher)

/-- `run`, with a number of reads to spend: the code waits for commands without a bound. -/
def run (fuel : ℕ) (reader : κ) (matcher : Matcher ω σ) :
    Option (RunResult × κ × Matcher ω σ) :=
  if matcher.fatal then
    some ({ status := .fatal, fatalReason := matcher.fatalReason }, reader, matcher)
  else Loop.run runTurn fuel (reader, matcher)

end Matcher

/-! ### What a reader delivers -/

section Reader
variable {κ : Type} [CommandReader κ]

/-- The reader behind a number of reads. -/
def readerAfter (reader : κ) : ℕ → κ
  | 0 => reader
  | count + 1 => (CommandReader.readNext (readerAfter reader count)).2

def readAt (reader : κ) (count : ℕ) : CommandReadResult :=
  (CommandReader.readNext (readerAfter reader count)).1

/-- The commands among the first reads. -/
def received (reader : κ) : ℕ → List CommandEnvelope
  | 0 => []
  | count + 1 =>
    if (readAt reader count).status = .ok then
      received reader count ++ [(readAt reader count).envelope]
    else received reader count

end Reader

/-! ### What a command leaves of the flags -/

namespace Processing

variable {ω σ : Type} [EventWriter ω] [SnapshotStore σ]

/-- A matcher runs, if it did, until it stops fatally. -/
def Flagged (running : Bool) (s : Processing ω σ) : Prop :=
  s.matcher.running = (running && !s.matcher.fatal)

variable {running : Bool} {s : Processing ω σ}

omit [SnapshotStore σ] in
theorem Flagged.publishPending (flagged : Flagged running s) (last : Bool) :
    Flagged running (s.publishPending last).2 := by
  unfold Processing.publishPending Matcher.publishEvent
  dsimp only
  cases EventWriter.publish s.matcher.eventWriter _ with
  | mk status eventWriter =>
    cases status with
    | ok => exact flagged
    | fatal =>
      change false = (running && false)
      rw [Bool.and_false]

omit [SnapshotStore σ] in
theorem Flagged.add (flagged : Flagged running s) (event : Event) :
    Flagged running (s.add event).2 := by
  unfold Processing.add
  split_ifs with pending
  · have behind := flagged.publishPending false
    dsimp only
    revert behind
    cases s.publishPending false with
    | mk ok next =>
      intro behind
      cases ok with
      | false => exact behind
      | true => exact behind
  · exact flagged

omit [SnapshotStore σ] in
theorem Flagged.emit (flagged : Flagged running s) (event : Event)
    {andThen : Processing ω σ → ProcessResult × Processing ω σ}
    (next : ∀ s, Flagged running s → Flagged running (andThen s).2) :
    Flagged running (s.emit event andThen).2 := by
  have behind := flagged.add event
  unfold Processing.emit
  revert behind
  cases s.add event with
  | mk ok added =>
    intro behind
    cases ok with
    | false => exact behind
    | true => exact next added behind

omit [SnapshotStore σ] in
theorem Flagged.finish (flagged : Flagged running s) : Flagged running s.finish.2 := by
  unfold Processing.finish
  split_ifs
  · exact flagged.publishPending true
  · exact flagged

omit [EventWriter ω] [SnapshotStore σ] in
theorem Flagged.stop (s : Processing ω σ) (reason : FatalReason) :
    Flagged running { s with matcher := s.matcher.transitionToFatalState reason } := by
  change false = (running && false)
  rw [Bool.and_false]

omit [EventWriter ω] [SnapshotStore σ] in
theorem Flagged.ite {condition : Prop} [Decidable condition]
    {answer other : ProcessResult × Processing ω σ} (yes : Flagged running answer.2)
    (no : Flagged running other.2) : Flagged running (if condition then answer else other).2 := by
  split_ifs
  · exact yes
  · exact no

omit [SnapshotStore σ] in
theorem Flagged.enterFatalProcess (flagged : Flagged running s) (reason : FatalReason)
    (offendingOrderId lastOrderId : OrderId) :
    Flagged running (s.enterFatalProcess reason offendingOrderId lastOrderId).2 :=
  .ite (flagged.emit _ fun next _ => .stop next reason) (.stop s reason)

omit [SnapshotStore σ] in
theorem Flagged.settle (flagged : Flagged running s) (incoming : NewLimitOrder)
    (remaining : Quantity) : Flagged running (settle incoming remaining s).2 := by
  let placed := s.withBook (s.matcher.book.insert (incoming.resting remaining)).2
  have kept : Flagged running placed := flagged
  refine .ite (flagged.emit _ fun _ kept => kept) ?_
  exact .ite (.ite (kept.emit _ fun _ kept => kept) (kept.enterFatalProcess _ _ _))
    (kept.emit _ fun _ kept => kept)

omit [SnapshotStore σ] in
theorem Flagged.matchLoop (incoming : NewLimitOrder) (fuel : ℕ) (remaining : Quantity)
    (flagged : Flagged running s) : Flagged running (matchLoop incoming fuel remaining s).2 := by
  induction fuel generalizing remaining s with
  | zero => exact flagged.settle incoming remaining
  | succ fuel ih =>
    unfold Processing.matchLoop
    refine .ite (flagged.settle incoming remaining) ?_
    cases s.matcher.book.best (Matcher.oppositeSide incoming.side) with
    | none => exact flagged.settle incoming remaining
    | some resting =>
      refine .ite (flagged.settle incoming remaining) (flagged.emit _ fun s flagged => ?_)
      let erased := s.withBook (s.matcher.book.erase resting.id).2
      let changed := s.withBook (s.matcher.book.setRemaining resting.id
        (resting.remaining - min remaining resting.remaining)).2
      have erased_flagged : Flagged running erased := flagged
      have changed_flagged : Flagged running changed := flagged
      refine .ite ?_ ?_
      · exact .ite (erased_flagged.enterFatalProcess _ _ _)
          (erased_flagged.emit _ fun _ flagged => ih _ flagged)
      · exact .ite (changed_flagged.enterFatalProcess _ _ _) (ih _ changed_flagged)

omit [SnapshotStore σ] in
theorem Flagged.processNewLimit (flagged : Flagged running s) (incoming : NewLimitOrder) :
    Flagged running (s.processNewLimit incoming).2 := by
  let named : Processing ω σ := { s with matcher := { s.matcher with lastOrderId := incoming.id } }
  have kept : Flagged running named := flagged
  refine .ite (flagged.enterFatalProcess _ _ _) ?_
  exact .ite (kept.emit _ fun _ kept => kept) (kept.emit _ fun _ kept => kept.matchLoop _ _ _)

theorem Flagged.processSaveSnapshot (flagged : Flagged running s)
    (commandSequence : CommandSequence) :
    Flagged running (s.processSaveSnapshot commandSequence).2 := by
  let stored : Processing ω σ := { s with matcher := { s.matcher with
    snapshotStore := (SnapshotStore.capture s.matcher.snapshotStore
      (s.matcher.snapshotView commandSequence)).2 } }
  have kept : Flagged running stored := flagged
  exact .ite (kept.enterFatalProcess _ _ _) (kept.emit _ fun _ kept => kept)

theorem Flagged.processLoadSnapshot (flagged : Flagged running s) (command : LoadSnapshotCommand) :
    Flagged running (s.processLoadSnapshot command).2 := by
  obtain ⟨⟨_, _, _, _, _, _, _, _, mode, _, _, _, _, _, _⟩, _⟩ := s
  -- what is deferred depends on the mode
  cases mode
  all_goals
    refine .ite (.enterFatalProcess ?_ _ _ _) (.ite (.enterFatalProcess ?_ _ _ _)
      (.ite (.enterFatalProcess ?_ _ _ _) (.emit ?_ _ fun _ kept => kept)))
    all_goals exact flagged

omit [SnapshotStore σ] in
theorem Flagged.finishCommand (flagged : Flagged running s) (processed : ProcessResult) :
    Flagged running (finishCommand processed s).2 := by
  have transition {s : Processing ω σ} (flagged : Flagged running s) :
      Flagged running s.applyDeferredReplayTransition := by
    unfold Processing.applyDeferredReplayTransition
    rw [Matcher.applyDeferredReplayTransition_eq]
    exact flagged
  refine .ite (transition flagged) ?_
  have finished := flagged.finish
  revert finished
  cases s.finish with
  | mk ok last =>
    intro finished
    cases ok with
    | false => exact finished
    | true => exact transition finished

omit [SnapshotStore σ] in
theorem Flagged.conclude (flagged : Flagged running s) (processed : ProcessResult) :
    Flagged running (s.conclude processed).2 :=
  .ite (flagged.emit _ fun next _ => (Flagged.stop next _).finishCommand _)
    (flagged.finishCommand processed)

/-- Every command but a shutdown leaves the matcher running, or it has stopped fatally. -/
theorem Flagged.dispatch (flagged : Flagged running s) (commandSequence : CommandSequence)
    {command : Command} (other : command ≠ .shutdown) :
    Flagged running (s.dispatch commandSequence command).2 := by
  cases command with
  | none => exact flagged.emit _ fun _ kept => kept.conclude _
  | unknown tag => exact flagged.emit _ fun _ kept => kept.conclude _
  | newLimit order => exact (flagged.processNewLimit order).conclude _
  | saveSnapshot => exact (flagged.processSaveSnapshot commandSequence).conclude _
  | loadSnapshot command => exact (flagged.processLoadSnapshot command).conclude _
  | shutdown => exact absurd rfl other
  | startReplay =>
    refine flagged.emit _ fun next kept => Flagged.conclude ?_ _
    split_ifs
    · exact kept
    · exact kept
  | stopReplay =>
    refine flagged.emit _ fun next kept => Flagged.conclude ?_ _
    split_ifs
    · exact kept
    · exact kept

end Processing

namespace Matcher

open Processing

section Flags
variable {ω σ : Type} [SnapshotStore σ] {matcher : Matcher ω σ} {envelope : CommandEnvelope}

omit [SnapshotStore σ] in
theorem newLimitPlan_stop (incoming : NewLimitOrder) (book : PriceTimeBook) (lastOrderId : OrderId)
    (snapshotStore : σ) :
    ¬(newLimitPlan incoming book lastOrderId snapshotStore).result.status = .stop := by
  simp only [newLimitPlan, Plan.after, settlePlan, Plan.stopping]
  split_ifs <;> intro same <;> cases same

/-- A shutdown is the command that stops a matcher. -/
theorem plan_stop_iff :
    (matcher.plan envelope).result.status = .stop ↔ envelope.payload.message = .shutdown := by
  rw [plan]
  cases envelope.payload.message with
  | shutdown => exact iff_of_true rfl rfl
  | newLimit order => exact iff_of_false (newLimitPlan_stop _ _ _ _) Command.noConfusion
  | saveSnapshot =>
    refine iff_of_false ?_ Command.noConfusion
    simp only [saveSnapshotPlan, Plan.stopping, announcing]
    split <;> intro same <;> cases same
  | loadSnapshot command =>
    refine iff_of_false ?_ Command.noConfusion
    simp only [loadSnapshotPlan, Plan.stopping]
    split
    · split_ifs <;> intro same <;> cases same
    · intro same
      cases same
  | _ => exact iff_of_false ProcessStatus.noConfusion Command.noConfusion

variable [EventWriter ω]

/-- A command leaves the matcher running unless it stops it. -/
theorem process_running (alive : matcher.fatal = false) (running : matcher.running = true)
    (envelope : CommandEnvelope) : (matcher.process envelope).2.running =
      (decide (envelope.payload.message ≠ .shutdown) && !(matcher.process envelope).2.fatal) := by
  have entered : ¬matcher.fatal = true := by simp [alive]
  have start : ({ matcher, events := .start envelope } : Processing ω σ) =
      announced matcher envelope matcher.eventWriter [] := announced_nil.symm
  have flagged : Flagged true ({ matcher, events := .start envelope } : Processing ω σ) := by
    change matcher.running = (true && !matcher.fatal)
    rw [running, alive]
    rfl
  have dispatched : (matcher.process envelope).2 = (dispatch { matcher, events := .start envelope }
      envelope.commandSequence envelope.payload.message).2.matcher := by
    rw [process, if_neg entered]
  rw [dispatched]
  by_cases shutdown : envelope.payload.message = .shutdown
  · rw [shutdown, start, dispatch, emit_first, decide_eq_false (not_not.mpr rfl)]
    have stopped (s : Processing ω σ) :
        Flagged false { s with matcher := { s.matcher with running := false } } :=
      (Bool.false_and _).symm
    exact (stopped _).conclude _
  · rw [decide_eq_true shutdown]
    exact flagged.dispatch envelope.commandSequence shutdown

/-- What the answer to a command says of the matcher that it leaves. -/
structure Answers (envelope : CommandEnvelope) (answer : ProcessResult × Matcher ω σ) : Prop where
  fatal : answer.1.status = .fatal ↔ answer.2.fatal = true
  reason : answer.1.status = .fatal → answer.1.fatalReason = answer.2.fatalReason
  stop : answer.1.status = .stop ↔
    envelope.payload.message = .shutdown ∧ answer.2.fatal = false
  running : answer.2.running = true ↔ answer.1.status = .continue

theorem process_answers (alive : matcher.fatal = false) (running : matcher.running = true)
    (settled : matcher.Settled) (envelope : CommandEnvelope) :
    Answers envelope (matcher.process envelope) := by
  have left := process_running alive running envelope
  rcases process_spec matcher envelope alive settled with ⟨completed, result⟩ | ⟨interrupted, result⟩
  · have fatal := completed.fatal
    have reason := completed.fatalReason
    have stop := @plan_stop_iff ω σ _ matcher envelope
    rw [← result] at fatal reason stop
    rw [fatal] at left
    constructor
    case fatal => rw [fatal, decide_eq_true_eq]
    case reason => exact fun stops => (reason stops).symm
    case stop =>
      rw [fatal, decide_eq_false_iff_not, ← stop]
      refine ⟨fun stops => ⟨stops, ?_⟩, And.left⟩
      rw [stops]
      exact ProcessStatus.noConfusion
    case running =>
      rw [left, Bool.and_eq_true, decide_eq_true_eq, ne_eq, ← stop, Bool.not_eq_true',
        decide_eq_false_iff_not]
      cases (matcher.process envelope).1.status <;> simp
  · have fatal := interrupted.fatal
    have status := congrArg ProcessResult.status result
    rw [fatal, Bool.not_true, Bool.and_false] at left
    constructor
    case fatal => exact iff_of_true status fatal
    case reason =>
      intro _
      rw [result, interrupted.fatalReason]
    case stop =>
      refine iff_of_false ?_ ?_
      · rw [status]
        exact ProcessStatus.noConfusion
      · rw [fatal]
        rintro ⟨-, same⟩
        cases same
    case running =>
      refine iff_of_false ?_ ?_
      · rw [left]
        exact Bool.noConfusion
      · rw [status]
        exact ProcessStatus.noConfusion

end Flags

/-- Commands that neither stop the matcher nor shut it down leave it running. -/
theorem processAll_running {ω σ : Type} [EventWriter ω] [SnapshotStore σ] {matcher : Matcher ω σ}
    {commands : List CommandEnvelope} (running : matcher.running = true) (idle : matcher.Idle)
    (alive : (matcher.processAll commands).fatal = false)
    (going : ∀ command ∈ commands, command.payload.message ≠ .shutdown) :
    (matcher.processAll commands).running = true := by
  induction commands using List.reverseRecOn with
  | nil => exact running
  | append_singleton commands last ih =>
    rw [processAll_append] at alive ⊢
    have before := alive_before alive
    have answers := process_answers before
      (ih before fun command member => going command (by simp [member]))
      (idle.processAll commands before) last
    refine answers.running.mpr ?_
    cases status : ((matcher.processAll commands).process last).1.status with
    | «continue» => rfl
    | stop => exact absurd (answers.stop.mp status).1 (going last (by simp))
    | fatal =>
      have stopped := answers.fatal.mp status
      rw [processAll_cons, processAll_nil, stopped] at alive
      cases alive

/-! ### The loop -/

section Loop
variable {κ ω σ : Type} [CommandReader κ] [EventWriter ω] [SnapshotStore σ]
variable {reader : κ} {matcher : Matcher ω σ} {count : ℕ}

/-- The matcher has carried out the commands among the first reads, and nothing has ended the
loop. -/
structure Going (reader : κ) (matcher : Matcher ω σ) (count : ℕ) : Prop where
  alive : (matcher.processAll (received reader count)).fatal = false
  going : ∀ command ∈ received reader count, command.payload.message ≠ .shutdown
  healthy : ∀ earlier < count, (readAt reader earlier).status ≠ .fatal

/-- What a run comes to: a shutdown has been carried out, a command has stopped the matcher, or
the reader has failed. Nothing is read behind that. -/
inductive Ran (reader : κ) (matcher : Matcher ω σ) : RunResult × κ × Matcher ω σ → Prop
  | stopped {count : ℕ} (before : Going reader matcher count)
    (delivered : (readAt reader count).status = .ok)
    (shutdown : (readAt reader count).envelope.payload.message = .shutdown)
    (alive : (matcher.processAll (received reader (count + 1))).fatal = false) :
    Ran reader matcher ({ status := .stopped }, readerAfter reader (count + 1),
      matcher.processAll (received reader (count + 1)))
  | failed {count : ℕ} (before : Going reader matcher count)
    (delivered : (readAt reader count).status = .ok)
    (fatal : (matcher.processAll (received reader (count + 1))).fatal = true) :
    Ran reader matcher
      ({ status := .fatal
         fatalReason := (matcher.processAll (received reader (count + 1))).fatalReason },
        readerAfter reader (count + 1), matcher.processAll (received reader (count + 1)))
  | unread {count : ℕ} (before : Going reader matcher count)
    (failed : (readAt reader count).status = .fatal) :
    Ran reader matcher
      ({ status := .fatal, fatalReason := .commandReaderFatal }, readerAfter reader (count + 1),
        (matcher.processAll (received reader count)).transitionToFatalState .commandReaderFatal)

theorem received_ok (delivered : (readAt reader count).status = .ok) :
    received reader (count + 1) = received reader count ++ [(readAt reader count).envelope] := by
  rw [received, if_pos delivered]

theorem received_other (other : (readAt reader count).status ≠ .ok) :
    received reader (count + 1) = received reader count := by
  rw [received, if_neg other]

omit [EventWriter ω] [SnapshotStore σ] in
theorem healthy_succ (healthy : ∀ earlier < count, (readAt reader earlier).status ≠ .fatal)
    (last : (readAt reader count).status ≠ .fatal) :
    ∀ earlier < count + 1, (readAt reader earlier).status ≠ .fatal := by
  intro earlier below
  rcases Nat.lt_succ_iff_lt_or_eq.mp below with before | rfl
  · exact healthy earlier before
  · exact last

/-- One turn: the loop goes on behind the read, or it ends as a run may. -/
theorem Going.turn (before : Going reader matcher count) (running : matcher.running = true)
    (idle : matcher.Idle) :
    runTurn (readerAfter reader count, matcher.processAll (received reader count)) =
        .inl (readerAfter reader (count + 1), matcher.processAll (received reader (count + 1))) ∧
      Going reader matcher (count + 1) ∨
    ∃ answer, runTurn (readerAfter reader count, matcher.processAll (received reader count)) =
        .inr answer ∧ Ran reader matcher answer := by
  have still := processAll_running running idle before.alive before.going
  have settled := idle.processAll (received reader count) before.alive
  have read : CommandReader.readNext (readerAfter reader count) =
      (readAt reader count, readerAfter reader (count + 1)) := rfl
  unfold runTurn
  dsimp only
  rw [still, read, if_neg (by decide)]
  dsimp only
  cases status : (readAt reader count).status with
  | empty =>
    have other : (readAt reader count).status ≠ .ok := by simp [status]
    rw [received_other other]
    refine .inl ⟨rfl, received_other other ▸ before.alive, received_other other ▸ before.going, ?_⟩
    exact healthy_succ before.healthy (by simp [status])
  | fatal => exact .inr ⟨_, rfl, .unread before status⟩
  | ok =>
    have delivered := received_ok status
    have behind : matcher.processAll (received reader (count + 1)) =
        ((matcher.processAll (received reader count)).process (readAt reader count).envelope).2 := by
      rw [delivered, processAll_append]
      rfl
    have answers := process_answers before.alive still settled (readAt reader count).envelope
    generalize (matcher.processAll (received reader count)).process (readAt reader count).envelope =
      answer at answers behind
    obtain ⟨processed, after⟩ := answer
    obtain rfl : matcher.processAll (received reader (count + 1)) = after := behind
    cases ended : processed.status with
    | «continue» =>
      have alive : (matcher.processAll (received reader (count + 1))).fatal = false := by
        refine Bool.eq_false_iff.mpr fun fatal => ?_
        have stops := answers.fatal.mpr fatal
        rw [ended] at stops
        cases stops
      refine .inl ⟨rfl, alive, ?_, healthy_succ before.healthy (by simp [status])⟩
      rw [delivered]
      intro command member shutdown
      rcases List.mem_append.mp member with earlier | last
      · exact before.going command earlier shutdown
      · rw [List.mem_singleton.mp last] at shutdown
        have stops := answers.stop.mpr ⟨shutdown, alive⟩
        rw [ended] at stops
        cases stops
    | stop =>
      obtain ⟨shutdown, alive⟩ := answers.stop.mp ended
      exact .inr ⟨_, rfl, .stopped before status shutdown alive⟩
    | fatal =>
      have fatal := answers.fatal.mp ended
      have reason := answers.reason ended
      dsimp only at reason
      rw [reason]
      exact .inr ⟨_, rfl, .failed before status fatal⟩

section Run
variable (alive : matcher.fatal = false) (running : matcher.running = true) (idle : matcher.Idle)
include alive running idle

/-- The turns of the loop carry out what the reader delivers. -/
theorem goes_going {state : κ × Matcher ω σ} (goes : Loop.Goes runTurn (reader, matcher) count state) :
    state = (readerAfter reader count, matcher.processAll (received reader count)) ∧
      Going reader matcher count := by
  refine goes.invariant (P := fun count state =>
    state = (readerAfter reader count, matcher.processAll (received reader count)) ∧
      Going reader matcher count) ?_ ?_
  · refine ⟨rfl, alive, fun _ member => ?_, fun _ below => ?_⟩
    · cases member
    · cases below
  · rintro count middle last ⟨rfl, before⟩ step
    rcases before.turn running idle with ⟨onward, behind⟩ | ⟨answer, ends, -⟩
    · exact ⟨Sum.inl.inj (step.symm.trans onward), behind⟩
    · rw [step] at ends
      cases ends

theorem run_ran {fuel : ℕ} {answer : RunResult × κ × Matcher ω σ}
    (returned : run fuel reader matcher = some answer) : Ran reader matcher answer := by
  rw [run, if_neg (by simp [alive])] at returned
  obtain ⟨count, -, last, goes, ends⟩ := Loop.run_eq_some_iff.mp returned
  obtain ⟨rfl, before⟩ := goes_going alive running idle goes
  rcases before.turn running idle with ⟨onward, -⟩ | ⟨other, ends', ran⟩
  · rw [ends] at onward
    cases onward
  · rw [ends] at ends'
    cases ends'
    exact ran

/-- A run returns, or all that has been read leaves it going. -/
theorem run_or_going (count : ℕ) :
    (∃ answer, run count reader matcher = some answer) ∨ Going reader matcher count := by
  rw [run, if_neg (by simp [alive])]
  rcases Loop.goes_or_ends runTurn (reader, matcher) count with ⟨last, goes⟩ | returned
  · exact .inr (goes_going alive running idle goes).2
  · exact .inl returned

omit alive in
/-- A shutdown that has been carried out is the last thing that the matcher has announced. -/
theorem Going.shutdown (before : Going reader matcher count)
    (delivered : (readAt reader count).status = .ok)
    (shutdown : (readAt reader count).envelope.payload.message = .shutdown)
    (alive : (matcher.processAll (received reader (count + 1))).fatal = false) :
    (matcher.processAll (received reader (count + 1))).running = false ∧
      (matcher.processAll (received reader (count + 1))).published =
        (matcher.processAll (received reader count)).published ++
          [frame (matcher.processAll (received reader count)).nextEventSequence
            (readAt reader count).envelope true 0 .shutdown] := by
  have still := processAll_running running idle before.alive before.going
  have settled := idle.processAll (received reader count) before.alive
  have left := process_running before.alive still (readAt reader count).envelope
  have spec := process_spec _ (readAt reader count).envelope before.alive settled
  rw [received_ok delivered, processAll_append, processAll_cons, processAll_nil] at alive ⊢
  rw [shutdown, decide_eq_false (not_not.mpr rfl), Bool.false_and] at left
  refine ⟨left, ?_⟩
  rcases spec with ⟨completed, -⟩ | ⟨interrupted, -⟩
  · rw [completed.published, plan, shutdown]
    rfl
  · rw [interrupted.fatal] at alive
    cases alive

end Run

/-- How a run has left the matcher. -/
structure Ended (answer : RunResult × κ × Matcher ω σ) : Prop where
  stopped : answer.1.status = .stopped → answer.1.fatalReason = .none ∧
    answer.2.2.fatal = false ∧ answer.2.2.running = false ∧
    ∃ before envelope, answer.2.2.published = before ++ [envelope] ∧
      envelope.payload.message = .shutdown ∧ envelope.payload.isLastForCommand = true
  failed : answer.1.status = .fatal → answer.1.fatalReason = answer.2.2.fatalReason ∧
    answer.2.2.fatal = true
  again : ∀ (fuel : ℕ) (other : κ),
    run (fuel + 1) other answer.2.2 = some (answer.1, other, answer.2.2)

theorem Ran.ended {answer : RunResult × κ × Matcher ω σ} (ran : Ran reader matcher answer)
    (running : matcher.running = true) (idle : matcher.Idle) : Ended answer := by
  cases ran with
  | stopped before delivered shutdown alive =>
    obtain ⟨still, published⟩ := before.shutdown running idle delivered shutdown alive
    refine ⟨fun _ => ⟨rfl, alive, still, _, _, published, rfl, rfl⟩, fun impossible => ?_, ?_⟩
    · cases impossible
    · intro fuel other
      rw [run, if_neg (by simp [alive]), Loop.run, runTurn, still]
      rfl
  | failed before delivered fatal =>
    refine ⟨fun impossible => ?_, fun _ => ⟨rfl, fatal⟩, fun fuel other => ?_⟩
    · cases impossible
    · rw [run, if_pos fatal]
  | unread before failed =>
    refine ⟨fun impossible => ?_, fun _ => ⟨rfl, rfl⟩, fun _ _ => rfl⟩
    cases impossible

end Loop

/-- `run` on a running matcher. It carries out exactly the commands that the reader has
delivered, in order; it returns behind the first shutdown, fatal command or fatal read and reads
nothing behind that, not even when it is called again; how often the reader was empty makes no
difference to the matcher; and it does return if the reader ever delivers a shutdown or fails. -/
theorem matcher_run {κ ω σ : Type} [CommandReader κ] [EventWriter ω] [SnapshotStore σ] (reader : κ)
    {matcher : Matcher ω σ} (alive : matcher.fatal = false) (running : matcher.running = true)
    (settled : matcher.Settled) :
    (∀ fuel answer, run fuel reader matcher = some answer →
      Ran reader matcher answer ∧ Ended answer ∧
        ∀ more ≥ fuel, run more reader matcher = some answer) ∧
    (∀ count, (readAt reader count).status = .fatal ∨
        (readAt reader count).status = .ok ∧
          (readAt reader count).envelope.payload.message = .shutdown →
      ∃ answer, run (count + 1) reader matcher = some answer) ∧
    ((∃ fuel answer, run fuel reader matcher = some answer) ↔
      ∃ count, ¬Going reader matcher count) := by
  have idle : matcher.Idle := fun _ => settled
  refine ⟨fun fuel answer returned => ?_, fun count ends => ?_, ?_, ?_⟩
  · have ran := run_ran alive running idle returned
    refine ⟨ran, ran.ended running idle, fun more enough => ?_⟩
    rw [run, if_neg (by simp [alive])] at returned ⊢
    exact Loop.run_mono returned enough
  · refine (run_or_going alive running idle (count + 1)).resolve_right fun going => ?_
    rcases ends with failed | ⟨delivered, shutdown⟩
    · exact going.healthy count (Nat.lt_succ_self _) failed
    · refine going.going _ ?_ shutdown
      rw [received_ok delivered]
      exact List.mem_append_right _ (List.mem_singleton_self _)
  · rintro ⟨fuel, answer, returned⟩
    cases run_ran alive running idle returned with
    | @stopped count before delivered shutdown alive =>
      refine ⟨count + 1, fun going => going.going _ ?_ shutdown⟩
      rw [received_ok delivered]
      exact List.mem_append_right _ (List.mem_singleton_self _)
    | @failed count before delivered fatal =>
      exact ⟨count + 1, fun going => Bool.false_ne_true (going.alive.symm.trans fatal)⟩
    | @unread count before failed =>
      exact ⟨count + 1, fun going => going.healthy count (Nat.lt_succ_self _) failed⟩
  · rintro ⟨count, ended⟩
    obtain ⟨answer, returned⟩ := (run_or_going alive running idle count).resolve_right ended
    exact ⟨count, answer, returned⟩

/-- An order, a pause and a shutdown, and an order that nobody reads. -/
def shutdownScript : List CommandReadResult :=
  [⟨.ok, ⟨1, 17, .newLimit ⟨1, 5, .bid, 150, 5⟩⟩⟩, ⟨.empty, {}⟩, ⟨.ok, ⟨2, 17, .shutdown⟩⟩,
    ⟨.ok, ⟨3, 17, .newLimit ⟨2, 6, .ask, 140, 7⟩⟩⟩]

theorem matcher_run_shutdown : ∃ (matcher : Matcher (List EventEnvelope) NullSnapshotStore)
    (answer : RunResult × List CommandReadResult × Matcher (List EventEnvelope) NullSnapshotStore),
    Matcher.create [] {} ⟨100, 200, 2⟩ = some matcher ∧
      run 3 shutdownScript matcher = some answer ∧ Ran shutdownScript matcher answer ∧
      Ended answer := by
  obtain ⟨matcher, created⟩ := Matcher.exists_create ([] : List EventEnvelope)
    ({} : NullSnapshotStore) ⟨100, 200, 2⟩ 1 (by decide)
  obtain ⟨alive, -, -, -, -, -, settled⟩ := create_spec created
  have running : matcher.running = true := by
    obtain ⟨book, -, rfl⟩ := Option.map_eq_some_iff.mp created
    rfl
  obtain ⟨returns, comes, -⟩ := matcher_run shutdownScript alive running settled
  obtain ⟨answer, returned⟩ := comes 2 (.inr ⟨rfl, rfl⟩)
  obtain ⟨ran, ended, -⟩ := returns 3 answer returned
  exact ⟨matcher, answer, created, returned, ran, ended⟩

end Matcher

end Fexma
