import Mathlib.Data.List.Basic
import Mathlib.Data.Nat.Notation

/-! Logs of frames. A prefix of a log is some of its frames and a torn piece of the next
one; the longer the prefix, the more frames it keeps. -/
namespace Fexma.TornLog

variable {α : Type} {frames : List (List α)} {bytes : List α} {n : ℕ}

/-- The bytes of the first frames. -/
def kept (frames : List (List α)) (n : ℕ) : List α := (frames.take n).flatten

/-- The piece of the next frame, when the log was cut inside of it or right before it. -/
def Torn (frames : List (List α)) (n : ℕ) (torn : List α) : Prop :=
  torn = [] ∨ ∃ frame, frames[n]? = some frame ∧ torn <+: frame ∧ torn.length < frame.length

/-- However a log is cut, what is left is some whole frames and at most a piece of the next
one. -/
theorem exists_kept (early : bytes <+: frames.flatten) :
    ∃ n ≤ frames.length, ∃ torn, bytes = kept frames n ++ torn ∧ Torn frames n torn := by
  induction frames generalizing bytes with
  | nil =>
    refine ⟨0, Nat.le_refl _, [], ?_, .inl rfl⟩
    exact List.prefix_nil.mp early
  | cons frame frames ih =>
    by_cases short : bytes.length < frame.length
    · refine ⟨0, Nat.zero_le _, bytes, rfl, .inr ⟨frame, rfl, ?_, short⟩⟩
      exact List.prefix_of_prefix_length_le early (List.prefix_append _ _) (Nat.le_of_lt short)
    · have whole : frame <+: bytes := List.prefix_of_prefix_length_le (List.prefix_append _ _)
        early (Nat.not_lt.mp short)
      obtain ⟨rest, rfl⟩ := whole
      rw [List.flatten_cons, List.prefix_append_right_inj] at early
      obtain ⟨n, le, torn, rfl, piece⟩ := ih early
      refine ⟨n + 1, Nat.succ_le_succ le, torn, ?_, ?_⟩
      · have more : kept (frame :: frames) (n + 1) = frame ++ kept frames n := by
          rw [kept, kept, List.take_succ_cons, List.flatten_cons]
        rw [more, List.append_assoc]
      · simpa [Torn] using piece

/-- The frame around a position of the log, with the part of the log on either side. A change at
one position touches this frame alone. -/
theorem exists_frame {left right : List α} {value : α}
    (split : frames.flatten = left ++ value :: right) : ∃ n torn after,
      frames[n]? = some (torn ++ value :: after) ∧ left = kept frames n ++ torn ∧
        right = after ++ (frames.drop (n + 1)).flatten := by
  induction frames generalizing left with
  | nil => exact absurd split.symm (List.append_ne_nil_of_right_ne_nil _ (List.cons_ne_nil _ _))
  | cons frame frames ih =>
    rw [List.flatten_cons] at split
    rcases List.append_eq_append_iff.mp split with ⟨behind, inside, rest⟩ | ⟨behind, inside, rest⟩
    · obtain ⟨n, torn, after, here, early, late⟩ := ih rest
      refine ⟨n + 1, torn, after, here, ?_, late⟩
      rw [inside, early, kept, kept, List.take_succ_cons, List.flatten_cons, List.append_assoc]
    · cases behind with
      | nil =>
        obtain ⟨n, torn, after, here, early, late⟩ := @ih [] rest.symm
        refine ⟨n + 1, torn, after, here, ?_, late⟩
        rw [List.append_nil] at inside
        rw [← inside, kept, List.take_succ_cons, List.flatten_cons, List.append_assoc, ← kept,
          ← early, List.append_nil]
      | cons other after =>
        obtain ⟨rfl, late⟩ := List.cons.inj rest
        refine ⟨0, left, after, ?_, rfl, ?_⟩
        · rw [← inside]
          rfl
        · rw [late]
          rfl

end Fexma.TornLog
