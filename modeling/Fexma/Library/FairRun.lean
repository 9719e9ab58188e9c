import Mathlib.Order.Nat

/-! Runs under an infinite schedule. While the goal is away some role has something due, a
useful turn of that role raises a bounded measure, and nothing lowers it: a schedule that gives
every role a useful turn again and again comes to the goal. -/
namespace Fexma.FairRun

variable {σ α ρ : Type} {step : σ → α → σ} {start : σ} {schedule : ℕ → α}

/-- The state in front of a turn. -/
def stateAt (step : σ → α → σ) (start : σ) (schedule : ℕ → α) : ℕ → σ
  | 0 => start
  | k + 1 => step (stateAt step start schedule k) (schedule k)

/-- The state behind some turns is the fold of the steps over that beginning of the schedule. -/
theorem stateAt_eq_foldl (k : ℕ) :
    stateAt step start schedule k = ((List.range k).map schedule).foldl step start := by
  induction k with
  | zero => rfl
  | succ k ih =>
    rw [List.range_succ, List.map_append, List.foldl_append, ← ih]
    rfl

/-- Every role has a useful turn at some time behind any other. -/
def Fair (useful : ρ → σ → α → Prop) (step : σ → α → σ) (start : σ) (schedule : ℕ → α) : Prop :=
  ∀ role k, ∃ j ≥ k, useful role (stateAt step start schedule j) (schedule j)

/-- What every turn keeps holds in every state. -/
theorem stateAt_invariant {invariant : σ → Prop} (begins : invariant start)
    (keeps : ∀ s a, invariant s → invariant (step s a)) (k : ℕ) :
    invariant (stateAt step start schedule k) := by
  induction k with
  | zero => exact begins
  | succ k ih => exact keeps _ _ ih

/-- The roles of a system and what they do for its goal. -/
structure Progress (step : σ → α → σ) (invariant goal : σ → Prop) (due : ρ → σ → Prop)
    (useful : ρ → σ → α → Prop) (measure : σ → ℕ) (bound : ℕ) : Prop where
  keeps : ∀ s a, invariant s → invariant (step s a)
  bounded : ∀ s, invariant s → measure s ≤ bound
  never_lower : ∀ s a, invariant s → measure s ≤ measure (step s a)
  some_due : ∀ s, invariant s → ¬goal s → ∃ role, due role s
  still_due : ∀ role s a, invariant s → due role s → measure (step s a) = measure s →
    due role (step s a)
  served : ∀ role s a, invariant s → due role s → useful role s a → measure s < measure (step s a)

section Progress
variable {invariant goal : σ → Prop} {due : ρ → σ → Prop} {useful : ρ → σ → α → Prop}
variable {measure : σ → ℕ} {bound : ℕ}
variable (progress : Progress step invariant goal due useful measure bound)
include progress

/-- A role that has something due waits for it while the measure stands still. No other turn
takes it away. -/
theorem Progress.waits {role : ρ} {k j : ℕ} (begins : invariant start) (later : k ≤ j)
    (here : due role (stateAt step start schedule k)) :
    measure (stateAt step start schedule k) < measure (stateAt step start schedule j) ∨
      measure (stateAt step start schedule k) = measure (stateAt step start schedule j) ∧
        due role (stateAt step start schedule j) := by
  induction j, later using Nat.le_induction with
  | base => exact .inr ⟨rfl, here⟩
  | succ j _ ih =>
    have holds := @stateAt_invariant _ _ step start schedule _ begins progress.keeps j
    have onward := progress.never_lower _ (schedule j) holds
    change _ ∨ measure _ = measure (step _ _) ∧ due role (step _ _)
    rcases ih with higher | ⟨same, waiting⟩
    · exact .inl (higher.trans_le onward)
    · rcases onward.lt_or_eq with higher | still
      · exact .inl (same.trans_lt higher)
      · exact .inr ⟨same.trans still, progress.still_due role _ _ holds waiting still.symm⟩

/-- While the goal is away a fair run gets further: some role has something due, and by the time
its useful turn comes the measure has risen or it rises then. -/
theorem Progress.rises (fair : Fair useful step start schedule) (begins : invariant start) {k : ℕ}
    (away : ¬goal (stateAt step start schedule k)) :
    ∃ j, measure (stateAt step start schedule k) < measure (stateAt step start schedule j) := by
  have holds := @stateAt_invariant _ _ step start schedule _ begins progress.keeps
  obtain ⟨role, here⟩ := progress.some_due _ (holds k) away
  obtain ⟨j, later, turn⟩ := fair role k
  rcases progress.waits begins later here with higher | ⟨same, waiting⟩
  · exact ⟨j, higher⟩
  · exact ⟨j + 1, same.trans_lt (progress.served role _ _ (holds j) waiting turn)⟩

/-- A fair run comes to the goal. It would otherwise get further again and again, beyond the
bound of the measure. -/
theorem Progress.reaches (fair : Fair useful step start schedule) (begins : invariant start) :
    ∃ k, goal (stateAt step start schedule k) := by
  by_contra never
  push Not at never
  have high (n : ℕ) : ∃ k, n ≤ measure (stateAt step start schedule k) := by
    induction n with
    | zero => exact ⟨0, Nat.zero_le _⟩
    | succ n ih =>
      obtain ⟨k, reached⟩ := ih
      obtain ⟨j, higher⟩ := progress.rises fair begins (never k)
      exact ⟨j, reached.trans_lt higher⟩
  obtain ⟨k, beyond⟩ := high (bound + 1)
  have holds := @stateAt_invariant _ _ step start schedule _ begins progress.keeps k
  exact Nat.not_succ_le_self bound (beyond.trans (progress.bounded _ holds))

/-- A goal that no turn takes away is reached for good. -/
theorem Progress.settles (fair : Fair useful step start schedule) (begins : invariant start)
    (stays : ∀ s a, invariant s → goal s → goal (step s a)) :
    ∃ k, ∀ j ≥ k, goal (stateAt step start schedule j) := by
  have holds := @stateAt_invariant _ _ step start schedule _ begins progress.keeps
  obtain ⟨k, reached⟩ := progress.reaches fair begins
  refine ⟨k, fun j later => ?_⟩
  induction j, later using Nat.le_induction with
  | base => exact reached
  | succ j _ ih => exact stays _ _ (holds j) ih

end Progress

end Fexma.FairRun
