import Mathlib.Logic.Function.Basic

/-! Threads over one memory, interleaved access by access. A thread's program is proved against
what the others may do between two of its accesses; the rule at the end puts the proofs of all
threads together for every interleaving. -/
namespace Fexma.Interleaving

/-- A program that accesses the memory, one operation after the other. -/
inductive Program (ω : Type) (Answer : ω → Type) (α : Type) where
  | done (value : α)
  | access (operation : ω) (next : Answer operation → Program ω Answer α)

namespace Program

variable {ω α β : Type} {Answer : ω → Type}

def bind : Program ω Answer α → (α → Program ω Answer β) → Program ω Answer β
  | done value, next => next value
  | access operation rest, next => access operation fun answer => (rest answer).bind next

def map (f : α → β) (program : Program ω Answer α) : Program ω Answer β :=
  program.bind fun value => done (f value)

/-- The run of a program that no other thread gets in between. -/
def alone {σ : Type} (perform : σ → (operation : ω) → Answer operation × σ) :
    Program ω Answer α → σ → α × σ
  | done value, memory => (value, memory)
  | access operation next, memory =>
    (next (perform memory operation).1).alone perform (perform memory operation).2

/-- With no other thread in between, a program and what follows it run one behind the other. -/
theorem alone_bind {σ : Type} {perform : σ → (operation : ω) → Answer operation × σ}
    (program : Program ω Answer α) (next : α → Program ω Answer β) (memory : σ) :
    (program.bind next).alone perform memory =
      (next (program.alone perform memory).1).alone perform (program.alone perform memory).2 := by
  induction program generalizing memory with
  | done value => rfl
  | access operation rest ih => exact ih _ _

end Program

/-- How threads share a memory. An access that keeps to its guard keeps the invariant, and to
every other thread it is a change that this thread is prepared for. -/
structure Sharing (ι σ ω : Type) (Answer : ω → Type) where
  does : ι → σ → (operation : ω) → Answer operation → σ → Prop
  invariant : σ → Prop
  guard : ι → σ → ω → Prop
  rely : ι → σ → σ → Prop
  rely_refl : ∀ thread memory, rely thread memory memory
  rely_trans : ∀ thread before middle after, rely thread before middle →
    rely thread middle after → rely thread before after
  keeps : ∀ thread before operation answer after, invariant before →
    guard thread before operation → does thread before operation answer after →
    invariant after ∧ ∀ other, other ≠ thread → rely other before after

variable {ι σ ω α β : Type} {Answer : ω → Type} {sharing : Sharing ι σ ω Answer} {thread : ι}
variable {memory before after : σ} {post : α → σ → Prop} {program : Program ω Answer α}

namespace Sharing

/-- From this memory on, whatever the other threads do, the accesses of the program keep to their
guards and its value satisfies `post`. -/
def Safe (sharing : Sharing ι σ ω Answer) (thread : ι) (post : α → σ → Prop) :
    Program ω Answer α → σ → Prop
  | .done value, memory => ∀ current, sharing.invariant current →
      sharing.rely thread memory current → post value current
  | .access operation next, memory => ∀ current, sharing.invariant current →
      sharing.rely thread memory current → sharing.guard thread current operation ∧
        ∀ answer after, sharing.does thread current operation answer after →
          sharing.Safe thread post (next answer) after

/-- A thread stays safe over whatever the others do in the meantime, since what it relies on goes
from one access to the next. -/
theorem Safe.mono (safe : sharing.Safe thread post program before)
    (meanwhile : sharing.rely thread before after) : sharing.Safe thread post program after := by
  cases program with
  | done value =>
    intro current kept later
    exact safe current kept (sharing.rely_trans thread _ _ _ meanwhile later)
  | access operation next =>
    intro current kept later
    exact safe current kept (sharing.rely_trans thread _ _ _ meanwhile later)

theorem Safe.imp {weaker : α → σ → Prop} (safe : sharing.Safe thread post program memory)
    (implies : ∀ value memory, post value memory → weaker value memory) :
    sharing.Safe thread weaker program memory := by
  induction program generalizing memory with
  | done value =>
    intro current kept meanwhile
    exact implies value current (safe current kept meanwhile)
  | access operation next ih =>
    intro current kept meanwhile
    obtain ⟨guarded, goes⟩ := safe current kept meanwhile
    exact ⟨guarded, fun answer after does => ih answer (goes answer after does)⟩

/-- An access that may as well come before what the other threads did. -/
theorem Safe.sooner {operation : ω} {next : Answer operation → Program ω Answer α}
    (moves : ∀ current, sharing.invariant current → sharing.rely thread memory current →
      sharing.guard thread current operation ∧
        ∀ answer after, sharing.does thread current operation answer after →
          ∃ first, sharing.does thread memory operation answer first ∧
            sharing.rely thread first after)
    (goes : ∀ answer first, sharing.does thread memory operation answer first →
      sharing.Safe thread post (next answer) first) :
    sharing.Safe thread post (.access operation next) memory := by
  intro current kept meanwhile
  obtain ⟨guarded, moved⟩ := moves current kept meanwhile
  refine ⟨guarded, fun answer after does => ?_⟩
  obtain ⟨first, does', later⟩ := moved answer after does
  exact (goes answer first does').mono later

/-- A value that the other threads leave alone. -/
theorem Safe.read {operation : ω} {next : Answer operation → Program ω Answer α}
    {value : Answer operation}
    (reads : ∀ current, sharing.invariant current → sharing.rely thread memory current →
      sharing.guard thread current operation ∧
        ∀ answer after, sharing.does thread current operation answer after →
          answer = value ∧ after = current)
    (goes : sharing.Safe thread post (next value) memory) :
    sharing.Safe thread post (.access operation next) memory := by
  intro current kept meanwhile
  obtain ⟨guarded, reads⟩ := reads current kept meanwhile
  refine ⟨guarded, fun answer after does => ?_⟩
  obtain ⟨rfl, rfl⟩ := reads answer after does
  exact goes.mono meanwhile

/-- A program and what follows it. The other threads may come between the two, so the second one
has to be safe from whatever memory the first one may end in. -/
theorem Safe.bind {next : α → Program ω Answer β} {post : β → σ → Prop}
    (safe : sharing.Safe thread (fun value memory => sharing.Safe thread post (next value) memory)
      program memory) (kept : sharing.invariant memory) :
    sharing.Safe thread post (program.bind next) memory := by
  induction program generalizing memory with
  | done value => exact safe memory kept (sharing.rely_refl thread memory)
  | access operation rest ih =>
    intro current kept meanwhile
    obtain ⟨guarded, goes⟩ := safe current kept meanwhile
    refine ⟨guarded, fun answer after does => ih answer (goes answer after does) ?_⟩
    exact (sharing.keeps thread _ _ _ _ kept guarded does).1

theorem Safe.map {f : α → β} {post : β → σ → Prop} (kept : sharing.invariant memory)
    (safe : sharing.Safe thread (fun value memory => post (f value) memory) program memory) :
    sharing.Safe thread post (program.map f) memory := by
  refine Safe.bind ?_ kept
  induction program generalizing memory with
  | done value =>
    intro current kept meanwhile later kept' meanwhile'
    exact safe later kept' (sharing.rely_trans thread _ _ _ meanwhile meanwhile')
  | access operation rest ih =>
    intro current kept meanwhile
    obtain ⟨guarded, goes⟩ := safe current kept meanwhile
    refine ⟨guarded, fun answer after does => ih answer ?_ (goes answer after does)⟩
    exact (sharing.keeps thread _ _ _ _ kept guarded does).1

/-! ### All threads -/

variable [DecidableEq ι] {starts : ι → Program ω Answer α → Prop} {idle : α}
variable {start : σ} {threads : ι → Program ω Answer α}

/-- The interleavings of threads that are idle at first: a thread makes its next access, or goes
on to another program behind the end of one. -/
inductive Reaches (sharing : Sharing ι σ ω Answer) (starts : ι → Program ω Answer α → Prop)
    (idle : α) (start : σ) : σ → (ι → Program ω Answer α) → Prop
  | start : Reaches sharing starts idle start start fun _ => .done idle
  | access {memory after : σ} {threads : ι → Program ω Answer α} {thread : ι} {operation : ω}
    {next : Answer operation → Program ω Answer α} {answer : Answer operation}
    (reached : Reaches sharing starts idle start memory threads)
    (here : threads thread = .access operation next)
    (does : sharing.does thread memory operation answer after) :
    Reaches sharing starts idle start after (Function.update threads thread (next answer))
  | next {memory : σ} {threads : ι → Program ω Answer α} {thread : ι} {value : α}
    {program : Program ω Answer α} (reached : Reaches sharing starts idle start memory threads)
    (ended : threads thread = .done value) (another : starts thread program) :
    Reaches sharing starts idle start memory (Function.update threads thread program)

/-- Every program that a thread may run is safe on its own. -/
structure Each (sharing : Sharing ι σ ω Answer) (starts : ι → Program ω Answer α → Prop)
    (idle : α) (post : ι → α → σ → Prop) : Prop where
  idle : ∀ thread memory, sharing.invariant memory → post thread idle memory
  safe : ∀ thread program memory, sharing.invariant memory → starts thread program →
    sharing.Safe thread (post thread) program memory

section Runs
variable {post : ι → α → σ → Prop} (each : sharing.Each starts idle post)
variable (kept : sharing.invariant start)
variable (reached : sharing.Reaches starts idle start memory threads)
include each kept reached

/-- The rule: then all threads are safe in every interleaving. The induction is on the accesses
made. The invariant holds between any two of them, and an access of one thread is within what
every other thread relies on. -/
theorem Reaches.safe : sharing.invariant memory ∧
    ∀ thread, sharing.Safe thread (post thread) (threads thread) memory := by
  induction reached with
  | start => exact ⟨kept, fun thread current kept' _ => each.idle thread current kept'⟩
  | @access memory after threads moving operation next answer reached here does ih =>
    obtain ⟨kept, safe⟩ := ih
    have own := safe moving
    rw [here] at own
    obtain ⟨guarded, goes⟩ := own memory kept (sharing.rely_refl moving memory)
    obtain ⟨kept', relied⟩ := sharing.keeps moving _ _ _ _ kept guarded does
    refine ⟨kept', fun thread => ?_⟩
    by_cases same : thread = moving
    · subst same
      rw [Function.update_self]
      exact goes answer after does
    · rw [Function.update_of_ne same]
      exact (safe thread).mono (relied thread same)
  | @next memory threads moving value program reached ended another ih =>
    obtain ⟨kept, safe⟩ := ih
    refine ⟨kept, fun thread => ?_⟩
    by_cases same : thread = moving
    · subst same
      rw [Function.update_self]
      exact each.safe thread program memory kept another
    · rw [Function.update_of_ne same]
      exact safe thread

/-- In every interleaving the next access of each thread keeps to its guard. Statements about
races are read off the guards. -/
theorem Reaches.guarded {operation : ω} {next : Answer operation → Program ω Answer α}
    (here : threads thread = .access operation next) : sharing.guard thread memory operation := by
  obtain ⟨kept, safe⟩ := reached.safe each kept
  have own := safe thread
  rw [here] at own
  exact (own memory kept (sharing.rely_refl thread memory)).1

/-- In every interleaving the value of a program that has ended satisfies its postcondition. -/
theorem Reaches.ended {value : α} (here : threads thread = .done value) :
    post thread value memory := by
  obtain ⟨kept, safe⟩ := reached.safe each kept
  have own := safe thread
  rw [here] at own
  exact own memory kept (sharing.rely_refl thread memory)

/-- A program that no other thread gets in between is one of the interleavings. -/
theorem Reaches.alone {perform : σ → (operation : ω) → Answer operation × σ} {fits : σ → Prop}
    (performs : ∀ memory operation, sharing.invariant memory → fits (perform memory operation).2 →
      sharing.does thread memory operation (perform memory operation).1
        (perform memory operation).2)
    (fitted : ∀ memory operation, fits (perform memory operation).2 → fits memory)
    (fits_end : fits ((threads thread).alone perform memory).2) :
    sharing.Reaches starts idle start ((threads thread).alone perform memory).2
      (Function.update threads thread (.done ((threads thread).alone perform memory).1)) := by
  generalize here : threads thread = program at fits_end ⊢
  induction program generalizing memory threads with
  | done value =>
    have same : Function.update threads thread (.done value) = threads := by
      rw [← here, Function.update_eq_self]
    exact same.symm ▸ reached
  | access operation next ih =>
    have fits_first : fits (perform memory operation).2 := by
      have back {program : Program ω Answer α} {memory : σ}
          (fits_end : fits (program.alone perform memory).2) : fits memory := by
        induction program generalizing memory with
        | done value => exact fits_end
        | access operation next ih => exact fitted _ _ (ih _ fits_end)
      exact back fits_end
    have does := performs memory operation (reached.safe each kept).1 fits_first
    have goes := ih _ (reached.access here does) (Function.update_self _ _ _) fits_end
    rw [Function.update_idem] at goes
    exact goes

end Runs

end Sharing

end Fexma.Interleaving
