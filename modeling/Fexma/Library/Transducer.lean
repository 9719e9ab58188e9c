import Mathlib.Data.List.Basic
import Mathlib.Data.List.Induction
import Mathlib.Logic.Relation

/-! Machines that answer every input and move to a next state, and simulations
between them. A simulation carries over whole input sequences. A path is a run of
a labelled relation. -/
namespace Fexma.Transducer

variable {σ τ υ ι ο : Type} {step : σ → ι → ο × σ} {step' : τ → ι → ο × τ} {step'' : υ → ι → ο × υ}
variable {R : σ → τ → Prop} {S : τ → υ → Prop} {s : σ} {t : τ} {inputs more : List ι}

/-- The answers to a sequence of inputs. -/
def outputs (step : σ → ι → ο × σ) : σ → List ι → List ο
  | _, [] => []
  | s, input :: inputs => (step s input).1 :: outputs step (step s input).2 inputs

/-- The state behind a sequence of inputs. -/
def final (step : σ → ι → ο × σ) : σ → List ι → σ
  | s, [] => s
  | s, input :: inputs => final step (step s input).2 inputs

@[simp] theorem final_append :
    final step s (inputs ++ more) = final step (final step s inputs) more := by
  induction inputs generalizing s with
  | nil => rfl
  | cons input inputs ih => exact ih

@[simp] theorem outputs_append :
    outputs step s (inputs ++ more) =
      outputs step s inputs ++ outputs step (final step s inputs) more := by
  induction inputs generalizing s with
  | nil => rfl
  | cons input inputs ih => simp only [List.cons_append, outputs, final, ih]

/-- Related states answer alike and stay related. -/
structure Simulates (step : σ → ι → ο × σ) (step' : τ → ι → ο × τ) (R : σ → τ → Prop) : Prop where
  output : ∀ s t input, R s t → (step s input).1 = (step' t input).1
  related : ∀ s t input, R s t → R (step s input).2 (step' t input).2

/-- Machines that start in related states end in related states, behind any inputs. -/
theorem Simulates.final (simulates : Simulates step step' R) (start : R s t) :
    R (final step s inputs) (Transducer.final step' t inputs) := by
  induction inputs generalizing s t with
  | nil => exact start
  | cons input inputs ih => exact ih (simulates.related s t input start)

/-- Machines that start in related states answer every sequence of inputs alike. -/
theorem Simulates.outputs (simulates : Simulates step step' R) (start : R s t) :
    outputs step s inputs = Transducer.outputs step' t inputs := by
  induction inputs generalizing s t with
  | nil => rfl
  | cons input inputs ih =>
    rw [Transducer.outputs, Transducer.outputs, simulates.output s t input start,
      ih (simulates.related s t input start)]

/-- An invariant kept by every step holds along every run. The answers play no part in it. -/
theorem final_invariant {P : σ → Prop} (kept : ∀ s input, P s → P (step s input).2)
    (start : P s) : P (final step s inputs) := by
  induction inputs generalizing s with
  | nil => exact start
  | cons input inputs ih => exact ih (kept s input start)

/-- A run that starts inside a set of states and ends outside of it left it for the last
time at one of its inputs. -/
theorem exists_last {P : σ → Prop} (start : P s) (gone : ¬ P (final step s inputs)) :
    ∃ ahead input middle, inputs = ahead ++ input :: middle ∧ P (final step s ahead) ∧
      ∀ done, done <+: middle → ¬ P (final step s (ahead ++ input :: done)) := by
  induction inputs using List.reverseRecOn with
  | nil => exact absurd start gone
  | append_singleton inputs last ih =>
    by_cases inside : P (final step s inputs)
    · refine ⟨inputs, last, [], rfl, inside, fun done early => ?_⟩
      rw [List.prefix_nil.mp early]
      exact gone
    · obtain ⟨ahead, input, middle, rfl, left, away⟩ := ih inside
      refine ⟨ahead, input, middle ++ [last], by simp, left, fun done early => ?_⟩
      rcases List.prefix_concat_iff.mp early with rfl | early
      · simpa using gone
      · exact away done early

/-! ### Labelled steps -/

/-- A path along the labels of a list. -/
inductive Path (next : σ → ι → σ → Prop) : σ → List ι → σ → Prop
  | nil (s : σ) : Path next s [] s
  | cons {s middle last : σ} {label : ι} {labels : List ι} (first : next s label middle)
      (rest : Path next middle labels last) : Path next s (label :: labels) last

section Path
variable {next : σ → ι → σ → Prop} {middle last : σ} {label : ι} {labels later : List ι}

theorem Path.append (early : Path next s labels middle) (late : Path next middle later last) :
    Path next s (labels ++ later) last := by
  induction early with
  | nil => exact late
  | cons first _ ih => exact .cons first (ih late)

theorem Path.concat (path : Path next s labels middle) (step : next middle label last) :
    Path next s (labels ++ [label]) last :=
  path.append (.cons step (.nil last))

/-- A path along two lists passes through a state between them. -/
theorem Path.split (path : Path next s (labels ++ later) last) :
    ∃ middle, Path next s labels middle ∧ Path next middle later last := by
  induction labels generalizing s with
  | nil => exact ⟨s, .nil s, path⟩
  | cons label labels ih =>
    cases path with
    | cons first rest =>
      obtain ⟨middle, early, late⟩ := ih rest
      exact ⟨middle, .cons first early, late⟩

/-- A path that passes a label takes a step along it. -/
theorem Path.split_at (path : Path next s (labels ++ label :: later) last) :
    ∃ before after, Path next s labels before ∧ next before label after ∧
      Path next after later last := by
  obtain ⟨before, early, rest⟩ := path.split
  cases rest with
  | cons step late => exact ⟨before, _, early, step, late⟩

/-- Labels a state steps along to itself lead nowhere. -/
theorem Path.stays (still : ∀ label ∈ labels, next s label s) : Path next s labels s := by
  induction labels with
  | nil => exact .nil s
  | cons label labels ih =>
    obtain ⟨first, rest⟩ := List.forall_mem_cons.mp still
    exact .cons first (ih rest)

end Path

end Fexma.Transducer
