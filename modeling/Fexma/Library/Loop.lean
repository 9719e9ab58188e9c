import Mathlib.Order.Nat

/-! Loops that go on until a turn ends them. A bounded run has a number of turns to spend; what
it returns does not depend on how many are left. -/
namespace Fexma.Loop

variable {σ ρ : Type} {turn : σ → σ ⊕ ρ} {s : σ} {result : ρ} {turns fuel : ℕ}

/-- The loop with a number of turns to spend. -/
def run (turn : σ → σ ⊕ ρ) : ℕ → σ → Option ρ
  | 0, _ => none
  | fuel + 1, s =>
    match turn s with
    | .inl next => run turn fuel next
    | .inr result => some result

/-- A number of turns of which none ends the loop. -/
inductive Goes (turn : σ → σ ⊕ ρ) (s : σ) : ℕ → σ → Prop
  | start : Goes turn s 0 s
  | next {turns : ℕ} {middle last : σ} (before : Goes turn s turns middle)
    (goes : turn middle = .inl last) : Goes turn s (turns + 1) last

variable {middle last next : σ}

theorem Goes.head (first : turn s = .inl next) (rest : Goes turn next turns last) :
    Goes turn s (turns + 1) last := by
  induction rest with
  | start => exact .next .start first
  | next _ goes ih => exact .next ih goes

/-- Turns that do not end the loop only use up fuel. -/
theorem Goes.run (goes : Goes turn s turns last) : run turn (turns + fuel) s = run turn fuel last := by
  induction goes generalizing fuel with
  | start => rw [Nat.zero_add]
  | @next turns middle last before goes ih =>
    rw [Nat.add_assoc, Nat.add_comm 1 fuel, ih, Loop.run, goes]

/-- A bounded run returns what the turn returns that ends the loop, provided there is fuel for
the turns in front of it. -/
theorem run_eq_some_iff : run turn fuel s = some result ↔
    ∃ turns < fuel, ∃ last, Goes turn s turns last ∧ turn last = .inr result := by
  constructor
  · intro returned
    induction fuel generalizing s with
    | zero => cases returned
    | succ fuel ih =>
      rw [run] at returned
      cases first : turn s with
      | inl next =>
        rw [first] at returned
        obtain ⟨turns, below, last, goes, ends⟩ := ih returned
        exact ⟨turns + 1, Nat.succ_lt_succ below, last, goes.head first, ends⟩
      | inr other =>
        rw [first] at returned
        cases returned
        exact ⟨0, Nat.succ_pos fuel, s, .start, first⟩
  · rintro ⟨turns, below, last, goes, ends⟩
    obtain ⟨rest, rfl⟩ := Nat.exists_eq_add_of_lt below
    rw [Nat.add_assoc, goes.run, run, ends]

/-- More turns to spend make no difference. -/
theorem run_mono {more : ℕ} (returned : run turn fuel s = some result) (enough : fuel ≤ more) :
    run turn more s = some result := by
  obtain ⟨turns, below, ends⟩ := run_eq_some_iff.mp returned
  exact run_eq_some_iff.mpr ⟨turns, below.trans_le enough, ends⟩

/-- What is kept by every turn that goes on holds behind any number of them. -/
theorem Goes.invariant {P : ℕ → σ → Prop} (begins : P 0 s)
    (keeps : ∀ turns middle last, P turns middle → turn middle = .inl last → P (turns + 1) last)
    (goes : Goes turn s turns last) : P turns last := by
  induction goes with
  | start => exact begins
  | next _ step ih => exact keeps _ _ _ ih step

/-- A loop ends within so many turns, or all of them go on. To show that it returns is to refute
the second. -/
theorem goes_or_ends (turn : σ → σ ⊕ ρ) (s : σ) (turns : ℕ) :
    (∃ last, Goes turn s turns last) ∨ ∃ result, run turn turns s = some result := by
  induction turns with
  | zero => exact .inl ⟨s, .start⟩
  | succ turns ih =>
    rcases ih with ⟨last, goes⟩ | ⟨result, returned⟩
    · cases next : turn last with
      | inl later => exact .inl ⟨later, .next goes next⟩
      | inr result =>
        exact .inr ⟨result, run_eq_some_iff.mpr ⟨turns, Nat.lt_succ_self _, last, goes, next⟩⟩
    · exact .inr ⟨result, run_mono returned (Nat.le_succ _)⟩

end Fexma.Loop
