import Mathlib.Data.Nat.Notation

/-! Programs of calls that may fail or be cut short. A call takes effect and says so, or it
reports an error and leaves a part of its effect behind, or the process stops inside it. The
rule at the end proves what holds however a program ends. -/
namespace Fexma.CrashProgram

variable {σ π α β : Type}

/-- What becomes of one call. -/
inductive Fate (π : Type) where
  | succeeds
  | fails (part : π)
  | stops (part : π)

/-- A call on a state. `apply` is its whole effect, if the state allows it, and `torn` is what
a part of it leaves behind; it can be cut before it has any effect. -/
structure Call (σ π : Type) where
  apply : σ → Option σ
  torn : π → σ → σ
  untouched : ∀ state, ∃ part, torn part state = state

/-- A question may go unanswered, and a call answers whether it has succeeded. -/
inductive Program (σ π α : Type) where
  | answer (value : α)
  | ask (question : σ → Bool) (next : Option Bool → Program σ π α)
  | call (call : Call σ π) (next : Bool → Program σ π α)

namespace Program

def bind : Program σ π α → (α → Program σ π β) → Program σ π β
  | answer value, next => next value
  | ask question rest, next => ask question fun reply => (rest reply).bind next
  | call operation rest, next => call operation fun done => (rest done).bind next

/-- Run a program with the fates of its calls, all of which succeed behind the listed ones. A
process that stops has no answer. -/
def run : Program σ π α → List (Fate π) → σ → Option α × σ
  | answer value, _, state => (some value, state)
  | ask question next, fates, state =>
    match fates with
    | [] => (next (some (question state))).run [] state
    | .succeeds :: fates => (next (some (question state))).run fates state
    | .fails _ :: fates => (next none).run fates state
    | .stops _ :: _ => (none, state)
  | call operation next, fates, state =>
    match fates with
    | .fails part :: fates => (next false).run fates (operation.torn part state)
    | .stops part :: _ => (none, operation.torn part state)
    | fates =>
      match operation.apply state with
      | some state => (next true).run fates.tail state
      | none => (next false).run fates.tail state

/-- However the program ends: its answer and the state satisfy `post`, or the process stopped
in a state that satisfies `halted`. -/
def Safe (halted : σ → Prop) (post : α → σ → Prop) : Program σ π α → σ → Prop
  | answer value, state => post value state
  | ask question next, state =>
    halted state ∧ (next (some (question state))).Safe halted post state ∧
      (next none).Safe halted post state
  | call operation next, state =>
    (∀ part, halted (operation.torn part state)) ∧
      (∀ part, (next false).Safe halted post (operation.torn part state)) ∧
      (∀ after, operation.apply state = some after → (next true).Safe halted post after) ∧
      (operation.apply state = none → (next false).Safe halted post state)

variable {halted : σ → Prop} {post post' : α → σ → Prop} {program : Program σ π α} {state : σ}

/-- How a run ends. -/
def Ends (halted : σ → Prop) (post : α → σ → Prop) : Option α × σ → Prop
  | (some value, state) => post value state
  | (none, state) => halted state

/-- The rule: a safe program ends well whatever becomes of its calls. It answers in a state that
satisfies its postcondition, or the process stops in one that satisfies `halted`. -/
theorem Safe.run (safe : program.Safe halted post state) (fates : List (Fate π)) :
    Ends halted post (program.run fates state) := by
  induction program generalizing fates state with
  | answer value => exact safe
  | ask question next ih =>
    obtain ⟨stopped, replied, failed⟩ := safe
    match fates with
    | [] => exact ih _ replied []
    | .succeeds :: fates => exact ih _ replied fates
    | .fails _ :: fates => exact ih _ failed fates
    | .stops _ :: _ => exact stopped
  | call operation next ih =>
    obtain ⟨stopped, failed, done, refused⟩ := safe
    have succeeds : Ends halted post
        (match operation.apply state with
          | some state => (next true).run fates.tail state
          | none => (next false).run fates.tail state) := by
      cases applied : operation.apply state with
      | some after => exact ih _ (done after applied) fates.tail
      | none => exact ih _ (refused applied) fates.tail
    match fates with
    | [] => exact succeeds
    | .succeeds :: _ => exact succeeds
    | .fails part :: fates => exact ih _ (failed part) fates
    | .stops part :: _ => exact stopped part

/-- A program that is safe for a postcondition is safe for any weaker one. What has to hold at a
crash stays the same. -/
theorem Safe.mono (safe : program.Safe halted post state)
    (weaker : ∀ value state, post value state → post' value state) :
    program.Safe halted post' state := by
  induction program generalizing state with
  | answer value => exact weaker value state safe
  | ask question next ih => exact ⟨safe.1, ih _ safe.2.1, ih _ safe.2.2⟩
  | call operation next ih =>
    obtain ⟨stopped, failed, done, refused⟩ := safe
    exact ⟨stopped, fun part => ih _ (failed part), fun after applied => ih _ (done after applied),
      fun applied => ih _ (refused applied)⟩

/-- A question changes nothing. Its answer is that of the state in which it is asked, or there is
none, and the program has to be safe either way. -/
theorem Safe.ask {question : σ → Bool} {next : Option Bool → Program σ π α} (here : halted state)
    (replied : (next (some (question state))).Safe halted post state)
    (failed : (next none).Safe halted post state) :
    (Program.ask question next).Safe halted post state := ⟨here, replied, failed⟩

/-- A call that ends the program when it does not succeed. What it may leave behind has to be
safe to crash in, and only its success has a sequel. -/
theorem Safe.guarded {operation : Call σ π} {error : α}
    (stopped : ∀ part, halted (operation.torn part state))
    (failed : ∀ part, post error (operation.torn part state))
    (refused : operation.apply state = none → post error state)
    (done : ∀ after, operation.apply state = some after → program.Safe halted post after) :
    (Program.call operation fun succeeded =>
      if !succeeded then .answer error else program).Safe halted post state :=
  ⟨stopped, failed, done, refused⟩

/-- A program and what follows it. The first one has to end, if it does, where the second one is
safe. -/
theorem Safe.bind {next : α → Program σ π β} {post : β → σ → Prop}
    (safe : program.Safe halted (fun value state => (next value).Safe halted post state) state) :
    (program.bind next).Safe halted post state := by
  induction program generalizing state with
  | answer value => exact safe
  | ask question rest ih => exact ⟨safe.1, ih _ safe.2.1, ih _ safe.2.2⟩
  | call operation rest ih =>
    obtain ⟨stopped, failed, done, refused⟩ := safe
    exact ⟨stopped, fun part => ih _ (failed part), fun after applied => ih _ (done after applied),
      fun applied => ih _ (refused applied)⟩

/-! ### Nothing goes wrong -/

private theorem run_call_nil {operation : Call σ π} {next : Bool → Program σ π α} :
    (call operation next).run [] state =
      match operation.apply state with
      | some after => (next true).run [] after
      | none => (next false).run [] state := rfl

theorem run_call {operation : Call σ π} {next : Bool → Program σ π α} {after : σ}
    (applied : operation.apply state = some after) :
    (call operation next).run [] state = (next true).run [] after := by
  rw [run_call_nil, applied]

theorem run_guarded {operation : Call σ π} {error : α} {after : σ}
    (applied : operation.apply state = some after) :
    (call operation fun succeeded => if !succeeded then answer error else program).run [] state =
      program.run [] after := run_call applied

theorem run_bind {next : α → Program σ π β} {value : α} {after : σ}
    (answered : program.run [] state = (some value, after)) :
    (program.bind next).run [] state = (next value).run [] after := by
  induction program generalizing state with
  | answer found =>
    cases answered
    rfl
  | ask question rest ih => exact ih _ answered
  | call operation rest ih =>
    rw [run_call_nil] at answered
    rw [Program.bind, run_call_nil]
    cases applied : operation.apply state with
    | some middle =>
      rw [applied] at answered
      exact ih _ answered
    | none =>
      rw [applied] at answered
      exact ih _ answered

/-! ### One call fails -/

theorem run_call_succeeds {operation : Call σ π} {next : Bool → Program σ π α} {after : σ}
    {fates : List (Fate π)} (applied : operation.apply state = some after) :
    (call operation next).run (.succeeds :: fates) state = (next true).run fates after := by
  change (match operation.apply state with
    | some state => (next true).run fates state
    | none => (next false).run fates state) = _
  rw [applied]

/-- A call that the state does not allow fails even where nothing else does, and leaves the state
as it was. -/
theorem run_call_refused {operation : Call σ π} {next : Bool → Program σ π α}
    {fates : List (Fate π)} (refused : operation.apply state = none) :
    (call operation next).run (.succeeds :: fates) state = (next false).run fates state := by
  change (match operation.apply state with
    | some state => (next true).run fates state
    | none => (next false).run fates state) = _
  rw [refused]

theorem run_guarded_succeeds {operation : Call σ π} {error : α} {after : σ}
    {fates : List (Fate π)} (applied : operation.apply state = some after) :
    (call operation fun succeeded => if !succeeded then answer error else program).run
        (.succeeds :: fates) state =
      program.run fates after := run_call_succeeds applied

/-- Neither the call nor a part of it loses a property. -/
def Preserves (operation : Call σ π) (J : σ → Prop) : Prop :=
  ∀ state, J state →
    (∀ part, J (operation.torn part state)) ∧ ∀ after, operation.apply state = some after → J after

/-- The first calls of a program keep a property, and each of them ends the program with an
error when it does not succeed. -/
def Confined (J : σ → Prop) (error : α → Prop) : ℕ → Program σ π α → Prop
  | 0, _ => True
  | _ + 1, answer value => error value
  | count + 1, ask _ next =>
    (∃ value, next none = answer value ∧ error value) ∧
      ∀ reply, (next (some reply)).Confined J error count
  | count + 1, call operation next =>
    (∃ value, next false = answer value ∧ error value) ∧ Preserves operation J ∧
      (next true).Confined J error count

/-- A failure among the first calls is answered with an error, and leaves the property. -/
theorem Confined.run {J : σ → Prop} {error : α → Prop} {count earlier : ℕ}
    (confined : program.Confined J error count) (before : J state) (early : earlier < count)
    (part : π) (fates : List (Fate π)) :
    ∃ value after, program.run (List.replicate earlier .succeeds ++ .fails part :: fates) state =
      (some value, after) ∧ error value ∧ J after := by
  induction program generalizing count earlier state with
  | answer value =>
    obtain ⟨count, rfl⟩ : ∃ rest, count = rest + 1 := ⟨count - 1, by omega⟩
    exact ⟨value, state, rfl, confined, before⟩
  | ask question next ih =>
    obtain ⟨count, rfl⟩ : ∃ rest, count = rest + 1 := ⟨count - 1, by omega⟩
    obtain ⟨⟨value, ended, wrong⟩, onward⟩ := confined
    cases earlier with
    | zero =>
      refine ⟨value, state, ?_, wrong, before⟩
      change (next none).run fates state = _
      rw [ended]
      rfl
    | succ earlier => exact ih _ (onward _) before (Nat.lt_of_succ_lt_succ early)
  | call operation next ih =>
    obtain ⟨count, rfl⟩ : ∃ rest, count = rest + 1 := ⟨count - 1, by omega⟩
    obtain ⟨⟨value, ended, wrong⟩, keeps, onward⟩ := confined
    obtain ⟨torn, done⟩ := keeps state before
    cases earlier with
    | zero =>
      refine ⟨value, operation.torn part state, ?_, wrong, torn part⟩
      change (next false).run fates (operation.torn part state) = _
      rw [ended]
      rfl
    | succ earlier =>
      have shifted : List.replicate (earlier + 1) Fate.succeeds ++ Fate.fails part :: fates =
        Fate.succeeds :: (List.replicate earlier .succeeds ++ .fails part :: fates) := rfl
      rw [shifted]
      cases applied : operation.apply state with
      | some after =>
        rw [run_call_succeeds applied]
        exact ih _ onward (done after applied) (Nat.lt_of_succ_lt_succ early)
      | none =>
        rw [run_call_refused applied, ended]
        exact ⟨value, state, rfl, wrong, before⟩

end Program

end Fexma.CrashProgram
