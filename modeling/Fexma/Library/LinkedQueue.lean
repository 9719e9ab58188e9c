import Mathlib.Logic.Function.Basic
import Mathlib.Data.List.Nodup

/-! Intrusive queues: cells of a fixed store linked both ways by index. A run
of cells is described by the list of its indices, and the two link maps are
read only at the cells of that list, so writes elsewhere leave it alone. -/
namespace Fexma.LinkedQueue

variable {ι : Type} {prev next prev' next' : ι → ι} {before first last after cell nil : ι}
variable {cells left right : List ι}

/-- `cells` are linked in order from `first` to `last`; `before` is what the
first cell points back to and `after` what the last one points on to. -/
def Segment (prev next : ι → ι) (before first : ι) : List ι → ι → ι → Prop
  | [], last, after => first = after ∧ last = before
  | cell :: rest, last, after =>
    first = cell ∧ prev cell = before ∧ Segment prev next cell (next cell) rest last after

/-- A chain of forward links only, ending at `nil`. -/
def Chain (next : ι → ι) (nil : ι) : ι → List ι → Prop
  | head, [] => head = nil
  | head, cell :: rest => head = cell ∧ cell ≠ nil ∧ Chain next nil (next cell) rest

/-- A run depends on the links of its own cells alone. A write to any other cell leaves it
standing. -/
theorem segment_congr (prevSame : ∀ cell ∈ cells, prev' cell = prev cell)
    (nextSame : ∀ cell ∈ cells, next' cell = next cell) :
    Segment prev' next' before first cells last after ↔
      Segment prev next before first cells last after := by
  induction cells generalizing before first with
  | nil => exact Iff.rfl
  | cons cell rest ih =>
    simp only [Segment, prevSame cell (by simp), nextSame cell (by simp)]
    rw [ih (fun c h => prevSame c (by simp [h])) (fun c h => nextSame c (by simp [h]))]

theorem chain_congr (nextSame : ∀ cell ∈ cells, next' cell = next cell) :
    Chain next' nil first cells ↔ Chain next nil first cells := by
  induction cells generalizing first with
  | nil => exact Iff.rfl
  | cons cell rest ih =>
    simp only [Chain, nextSame cell (by simp)]
    rw [ih (fun c h => nextSame c (by simp [h]))]

/-- Where a chain leads is determined by where it starts. -/
theorem chain_unique (chain : Chain next nil first cells) (other : Chain next nil first left) :
    cells = left := by
  induction cells generalizing first left with
  | nil =>
    cases left with
    | nil => rfl
    | cons cell rest =>
      obtain ⟨same, valid, -⟩ := other
      exact absurd (same.symm.trans chain) valid
  | cons cell rest ih =>
    obtain ⟨rfl, valid, chain⟩ := chain
    cases left with
    | nil => exact absurd other valid
    | cons cell' rest' =>
      obtain ⟨rfl, -, other⟩ := other
      rw [ih chain other]

/-- A chain that ends visits no cell twice, since it would otherwise go round for ever. -/
theorem chain_nodup (chain : Chain next nil first cells) : cells.Nodup := by
  induction cells generalizing first with
  | nil => exact .nil
  | cons cell rest ih =>
    obtain ⟨-, valid, chain⟩ := chain
    refine List.nodup_cons.mpr ⟨fun again => ?_, ih chain⟩
    obtain ⟨before, behind, rfl⟩ := List.append_of_mem again
    have onward : Chain next nil cell (cell :: behind) := by
      clear ih again
      generalize next cell = start at chain
      induction before generalizing start with
      | nil => exact ⟨rfl, valid, chain.2.2⟩
      | cons _ _ ih => exact ih _ chain.2.2
    have whole : cell :: behind = cell :: (before ++ cell :: behind) :=
      chain_unique onward ⟨rfl, valid, chain⟩
    have lengths := congrArg List.length whole
    simp only [List.length_cons, List.length_append] at lengths
    omega

theorem chain_of_segment (run : Segment prev next before first cells last nil)
    (valid : nil ∉ cells) : Chain next nil first cells := by
  induction cells generalizing before first with
  | nil => exact run.1
  | cons cell rest ih =>
    obtain ⟨same, -, run⟩ := run
    have apart := List.ne_of_not_mem_cons valid
    exact ⟨same, apart.symm, ih run (List.not_mem_of_not_mem_cons valid)⟩

/-- The cells that a walk along the forward links visits. -/
def follow [DecidableEq ι] (next : ι → ι) (nil : ι) : ℕ → ι → List ι
  | 0, _ => []
  | fuel + 1, cell => if cell = nil then [] else cell :: follow next nil fuel (next cell)

/-- Following the links lists the cells of a chain, given more fuel than there are cells. -/
theorem follow_chain [DecidableEq ι] (chain : Chain next nil first cells) {fuel : ℕ}
    (enough : cells.length < fuel) : follow next nil fuel first = cells := by
  induction cells generalizing first fuel with
  | nil =>
    obtain ⟨fuel, rfl⟩ := Nat.exists_eq_succ_of_ne_zero (by omega : fuel ≠ 0)
    exact if_pos chain
  | cons cell rest ih =>
    obtain ⟨rfl, valid, chain⟩ := chain
    rw [List.length_cons] at enough
    obtain ⟨fuel, rfl⟩ := Nat.exists_eq_succ_of_ne_zero (by omega : fuel ≠ 0)
    rw [follow, if_neg valid, ih chain (by omega)]

/-- Runs join exactly where one ends and the next begins. A run can so be opened around any of
its cells. -/
theorem segment_append :
    Segment prev next before first (left ++ right) last after ↔
      ∃ middle joint, Segment prev next before first left middle joint ∧
        Segment prev next middle joint right last after := by
  induction left generalizing before first with
  | nil => simp [Segment]
  | cons cell rest ih => simp only [List.cons_append, Segment, ih]; grind

theorem segment_last_mem (segment : Segment prev next before first cells last after)
    (nonempty : cells ≠ []) : last ∈ cells := by
  induction cells generalizing before first with
  | nil => contradiction
  | cons cell rest ih =>
    obtain ⟨-, -, tail⟩ := segment
    cases rest with
    | nil => simp [tail.2]
    | cons other rest => exact List.mem_cons_of_mem _ (ih tail (by simp))

theorem segment_first_mem (segment : Segment prev next before first cells last after)
    (nonempty : cells ≠ []) : first ∈ cells := by
  cases cells with
  | nil => contradiction
  | cons cell rest => simp [segment.1]

theorem segment_first_back (segment : Segment prev next before first cells last after)
    (nonempty : cells ≠ []) : prev first = before := by
  cases cells with
  | nil => contradiction
  | cons cell rest =>
    obtain ⟨rfl, back, -⟩ := segment
    exact back

theorem segment_last_after (segment : Segment prev next before first cells last after)
    (nonempty : cells ≠ []) : next last = after := by
  induction cells generalizing before first with
  | nil => contradiction
  | cons cell rest ih =>
    obtain ⟨-, -, tail⟩ := segment
    cases rest with
    | nil =>
      obtain ⟨leaves, rfl⟩ := tail
      exact leaves
    | cons other rest => exact ih tail (by simp)

theorem segment_head (segment : Segment prev next before first cells last after) :
    first = cells.headD after := by
  cases cells with
  | nil => exact segment.1
  | cons cell rest => exact segment.1

/-- The last cell is the only one whose forward link leaves the run. Writing it leads the run
somewhere else and breaks none of its inner links. -/
theorem segment_set_after [DecidableEq ι] (nil : ι) (nonempty : cells ≠ []) (distinct : cells.Nodup)
    (segment : Segment prev next before first cells last after) :
    Segment prev (Function.update next last nil) before first cells last nil := by
  induction cells generalizing before first with
  | nil => contradiction
  | cons cell rest ih =>
    obtain ⟨rfl, back, tail⟩ := segment
    obtain ⟨fresh, distinct⟩ := List.nodup_cons.mp distinct
    cases rest with
    | nil => simp_all [Segment]
    | cons other rest =>
      have apart : first ≠ last := fun same =>
        fresh (same ▸ segment_last_mem tail (by simp))
      refine ⟨rfl, back, ?_⟩
      rw [Function.update_of_ne apart]
      exact ih (by simp) distinct tail

/-- The first cell is the only one whose backward link leaves the run. -/
theorem segment_set_before [DecidableEq ι] (nil : ι) (nonempty : cells ≠ []) (distinct : cells.Nodup)
    (segment : Segment prev next before first cells last after) :
    Segment (Function.update prev first nil) next nil first cells last after := by
  cases cells with
  | nil => contradiction
  | cons cell rest =>
    obtain ⟨rfl, -, tail⟩ := segment
    refine ⟨rfl, by simp, ?_⟩
    refine (segment_congr (fun c member => ?_) (fun _ _ => rfl)).mpr tail
    have apart : c ≠ first := fun same =>
      (List.nodup_cons.mp distinct).1 (by rw [← same]; exact member)
    rw [Function.update_of_ne apart]

/-- A link of a listed cell leads to a listed cell or out of the run. -/
theorem segment_neighbours (segment : Segment prev next before first cells last after)
    (member : cell ∈ cells) :
    (prev cell = before ∨ prev cell ∈ cells) ∧ (next cell = after ∨ next cell ∈ cells) := by
  obtain ⟨left, right, rfl⟩ := List.append_of_mem member
  obtain ⟨middle, joint, leftRun, rfl, back, rightRun⟩ := segment_append.mp segment
  constructor
  · rcases eq_or_ne left [] with rfl | nonempty
    · exact .inl (back.trans leftRun.2)
    · have := segment_last_mem leftRun nonempty
      exact .inr (by simp [back, this])
  · rcases eq_or_ne right [] with rfl | nonempty
    · exact .inl rightRun.1
    · have := segment_first_mem rightRun nonempty
      exact .inr (by simp [this])

section Operations
variable [DecidableEq ι]

/-- Linking a fresh cell behind the tail. The old tail is the only listed cell whose links are
written. -/
theorem segment_push_back (fresh : cell ∉ cells) (distinct : cells.Nodup) (notNil : nil ∉ cells)
    (segment : Segment prev next nil first cells last nil) :
    Segment (Function.update prev cell last)
      (if last = nil then Function.update next cell nil
        else Function.update (Function.update next cell nil) last cell)
      nil (if last = nil then cell else first) (cells ++ [cell]) cell nil := by
  rcases eq_or_ne cells [] with rfl | nonempty
  · obtain ⟨-, rfl⟩ := segment
    simp [Segment]
  · have lastMem := segment_last_mem segment nonempty
    have lastSome : last ≠ nil := fun same => notNil (same ▸ lastMem)
    have apart : cell ≠ last := fun same => fresh (same ▸ lastMem)
    simp only [lastSome, ↓reduceIte]
    refine segment_append.mpr ⟨last, cell, ?_, ?_⟩
    · have linked := segment_set_after cell nonempty distinct segment
      refine (segment_congr (fun c member => ?_) (fun c member => ?_)).mpr linked
      all_goals have other : c ≠ cell := fun same => fresh (by rw [← same]; exact member)
      · rw [Function.update_of_ne other]
      · simp only [Function.update_apply, other, ↓reduceIte]
    · simp [Segment, apart]

/-- Unlinking one cell joins its two neighbours, whichever of them exist. The ends of the queue
move only when the cell is one of them. -/
theorem segment_unlink (member : cell ∈ cells) (distinct : cells.Nodup) (notNil : nil ∉ cells)
    (segment : Segment prev next nil first cells last nil) :
    Segment
      (if next cell = nil then prev else Function.update prev (next cell) (prev cell))
      (if prev cell = nil then next else Function.update next (prev cell) (next cell))
      nil (if prev cell = nil then next cell else first) (cells.erase cell)
      (if next cell = nil then prev cell else last) nil := by
  obtain ⟨left, right, rfl⟩ := List.append_of_mem member
  obtain ⟨middle, joint, leftRun, rightRun⟩ := segment_append.mp segment
  obtain ⟨rfl, back, rightRun⟩ := rightRun
  have distinct' := List.nodup_append.mp distinct
  obtain ⟨leftDistinct, rest, apart⟩ := distinct'
  obtain ⟨freshRight, rightDistinct⟩ := List.nodup_cons.mp rest
  have freshLeft : joint ∉ left := fun h => apart joint h joint (by simp) rfl
  rw [List.erase_append_right _ freshLeft, List.erase_cons_head]
  refine segment_append.mpr ⟨prev joint, next joint, ?_, ?_⟩
  · -- the run before the cell: only its last forward link changes
    rcases eq_or_ne left [] with rfl | nonempty
    · obtain ⟨-, rfl⟩ := leftRun
      simp [Segment, back]
    · have middleMem := segment_last_mem leftRun nonempty
      have middleSome : middle ≠ nil := fun same => notNil (by simp [← same, middleMem])
      rw [back, if_neg middleSome, if_neg middleSome]
      have linked := segment_set_after (next joint) nonempty leftDistinct leftRun
      refine (segment_congr (fun c h => ?_) (fun _ _ => rfl)).mpr linked
      split
      · rfl
      · rename_i nextSome
        have nextMem : next joint ∈ right :=
          segment_first_mem rightRun fun empty => by
            subst empty; exact nextSome rightRun.1
        rw [Function.update_of_ne (apart _ h _ (List.mem_cons_of_mem _ nextMem))]
  · -- the run after it: only its first backward link changes
    rcases eq_or_ne right [] with rfl | nonempty
    · obtain ⟨nextNil, lastSame⟩ := rightRun
      simp [Segment, nextNil]
    · have nextMem := segment_first_mem rightRun nonempty
      have nextSome : next joint ≠ nil := fun same => notNil (by simp [← same, nextMem])
      rw [if_neg nextSome, if_neg nextSome]
      have linked := segment_set_before (prev joint) nonempty rightDistinct rightRun
      refine (segment_congr (fun _ _ => rfl) (fun c h => ?_)).mpr linked
      split
      · rfl
      · rename_i prevSome
        have prevMem : prev joint ∈ left := by
          rw [back] at prevSome ⊢
          exact segment_last_mem leftRun fun empty => by
            subst empty; exact prevSome leftRun.2
        rw [Function.update_of_ne (apart _ prevMem _ (List.mem_cons_of_mem _ h)).symm]

end Operations

end Fexma.LinkedQueue
