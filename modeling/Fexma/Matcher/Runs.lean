import Fexma.Matcher.Reachable

/-! Runs of commands from a fresh matcher. A matcher that has stopped fatally
ignores every further command, so a run that ends alive was alive throughout. -/
namespace Fexma

/-- The messages published so far. -/
def Matcher.messages {ω σ : Type} (matcher : Matcher ω σ) : List Event :=
  matcher.published.map fun event => event.payload.message

namespace Matcher

variable {ω σ : Type} [EventWriter ω] [SnapshotStore σ]
variable {matcher after : Matcher ω σ} {envelope : CommandEnvelope}
variable {envelopes ahead behind : List CommandEnvelope}

@[simp] theorem processAll_nil : matcher.processAll [] = matcher := rfl

@[simp] theorem processAll_cons : matcher.processAll (envelope :: envelopes) =
    (matcher.process envelope).2.processAll envelopes := rfl

@[simp] theorem processAll_append :
    matcher.processAll (ahead ++ behind) = (matcher.processAll ahead).processAll behind :=
  Transducer.final_append

theorem process_fatal (fatal : matcher.fatal) (envelope : CommandEnvelope) :
    matcher.process envelope =
      ({ status := .fatal, fatalReason := matcher.fatalReason }, matcher) := by
  unfold process
  exact if_pos fatal

/-- Once the matcher has stopped fatally no command changes it. -/
theorem processAll_fatal (fatal : matcher.fatal) (envelopes : List CommandEnvelope) :
    matcher.processAll envelopes = matcher := by
  induction envelopes with
  | nil => rfl
  | cons envelope envelopes ih =>
    rw [processAll_cons, process_fatal fatal]
    exact ih

theorem alive_before (alive : (matcher.processAll envelopes).fatal = false) :
    matcher.fatal = false := by
  cases fatal : matcher.fatal with
  | false => rfl
  | true =>
    rw [processAll_fatal fatal, fatal] at alive
    cases alive

theorem alive_step (alive : (matcher.process envelope).2.fatal = false) :
    matcher.fatal = false := by
  have run : (matcher.processAll [envelope]).fatal = false := alive
  exact alive_before run

omit [EventWriter ω] [SnapshotStore σ] in
/-- A fresh matcher has published nothing and its book is empty. -/
theorem create_spec {eventWriter : ω} {snapshotStore : σ} {config : OrderBookConfig}
    {firstEventSequence : EventSequence}
    (created : Matcher.create eventWriter snapshotStore config firstEventSequence = some matcher) :
    matcher.fatal = false ∧ matcher.published = [] ∧ matcher.lastOrderId = 0 ∧
      matcher.book.contents = .empty config ∧ matcher.nextEventSequence = firstEventSequence ∧
      matcher.replayMode = .live ∧ matcher.Settled := by
  obtain ⟨book, made, rfl⟩ := Option.map_eq_some_iff.mp created
  exact ⟨rfl, rfl, rfl, Book.create_contents made, rfl, rfl, rfl, rfl, rfl⟩

/-- Between commands no replay transition is pending, unless the matcher has stopped. -/
def Idle (matcher : Matcher ω σ) : Prop := matcher.fatal = false → matcher.Settled

theorem Idle.process (idle : matcher.Idle) (envelope : CommandEnvelope) :
    (matcher.process envelope).2.Idle := by
  intro alive
  have before : matcher.fatal = false := alive_step alive
  rcases process_spec matcher envelope before (idle before) with ⟨completed, -⟩ | ⟨interrupted, -⟩
  · exact completed.settled
  · rw [interrupted.fatal] at alive
    cases alive

theorem Idle.processAll (idle : matcher.Idle) (envelopes : List CommandEnvelope) :
    (matcher.processAll envelopes).Idle :=
  Transducer.final_invariant (fun _ envelope idle => idle.process envelope) idle

omit [EventWriter ω] [SnapshotStore σ] in
/-- A carried out plan publishes its events. -/
theorem Completed.messages {plan : Plan σ} (completed : Completed matcher after envelope plan) :
    after.messages = matcher.messages ++ plan.steps.events := by
  rw [Matcher.messages, completed.published, List.map_append, closedGroup_messages]
  rfl

/-- No command of the run is a LoadSnapshot. -/
def NoLoad (envelopes : List CommandEnvelope) : Prop :=
  ∀ envelope ∈ envelopes, ∀ command, envelope.payload.message ≠ .loadSnapshot command

theorem reachable_run {config : OrderBookConfig} {eventWriter : ω} {snapshotStore : σ}
    {firstEventSequence : EventSequence}
    (created : Matcher.create eventWriter snapshotStore config firstEventSequence = some matcher)
    (noLoad : NoLoad envelopes) :
    Reachable config ω σ inferInstance inferInstance (matcher.processAll envelopes) := by
  induction envelopes using List.reverseRecOn with
  | nil => exact .create created
  | append_singleton ahead envelope ih =>
    rw [processAll_append]
    refine .process (ih fun earlier member => noLoad earlier (by simp [member])) envelope ?_
    intro command load
    exact absurd load (noLoad envelope (by simp) command)

end Matcher

end Fexma
