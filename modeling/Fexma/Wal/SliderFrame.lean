import Fexma.Wal.SliderRuns

/-! What a call of a slider looks at and where it ends: it sees the positions between its own
and the upstream and no others, and it goes on whenever it finds a record that it may take. -/
namespace Fexma.Wal

namespace Slider

variable {μ α π : Type}

/-- The slider under another acquire policy (`set_maximum_count`, for one). -/
def under (slider : Slider μ α π) (policy : α) : Slider μ α π :=
  { slider with acquirePolicy := policy }

variable [SliderModule μ] [SliderAcquirePolicy α] [SliderPublishPolicy π μ]
variable {slider : Slider μ α π} {view view' : Position → AccessResult} {upstream : Position}

/-- Two views that show the same between two positions. -/
def ShowAlike (view view' : Position → AccessResult) (first last : Position) : Prop :=
  ∀ position, first ≤ position → position < last → view position = view' position

omit [SliderAcquirePolicy α] in
/-- The loop looks at the positions of its range. -/
theorem processLoop_congr {rounds : ℕ} {count : UInt64}
    (alike : ShowAlike view view' slider.current upstream)
    (inside : slider.current.toNat + rounds ≤ upstream.toNat) :
    processLoop view rounds count slider = processLoop view' rounds count slider := by
  induction rounds generalizing slider count with
  | zero => rfl
  | succ rounds ih =>
    have wide := upstream.toNat_lt
    have below : slider.current < upstream := by
      rw [UInt64.lt_iff_toNat_lt]
      omega
    have same := alike slider.current (UInt64.le_refl _) below
    obtain ⟨own, publishPolicy, module, passed, -⟩ :=
      settleProcess_cases (slider.pass (view' slider.current).record)
    have next : (slider.pass (view' slider.current).record).settleProcess.2.current =
        slider.current + 1 := by rw [passed]; rfl
    have onward := toNat_onward (UInt64.lt_iff_toNat_lt.mp below) wide
    have rest : processLoop view rounds (count + 1)
          (slider.pass (view' slider.current).record).settleProcess.2 =
        processLoop view' rounds (count + 1)
          (slider.pass (view' slider.current).record).settleProcess.2 := by
      apply ih
      · intro position above
        rw [next, UInt64.le_iff_toNat_le, onward] at above
        exact alike position (UInt64.le_iff_toNat_le.mpr (Nat.le_of_succ_le above))
      · rw [next, onward]
        omega
    simp only [processLoop, same, rest]

/-- Views that agree between the slider and its upstream lead to the same call. -/
theorem processAvailable_congr (alike : ShowAlike view view' slider.current upstream) :
    slider.processAvailable view upstream = slider.processAvailable view' upstream := by
  unfold processAvailable
  by_cases apart : slider.own ≠ slider.current
  · rw [if_pos apart, if_pos apart]
  by_cases regressed : upstream < slider.current
  · rw [if_neg apart, if_pos regressed, if_neg apart, if_pos regressed]
  rw [if_neg apart, if_neg regressed, if_neg apart, if_neg regressed]
  dsimp only
  obtain ⟨begin, last⟩ := SliderAcquirePolicy.acquire slider.acquirePolicy slider.current upstream
  by_cases invalid : (begin ≠ slider.current || last < begin || last > upstream) = true
  · rw [if_pos invalid, if_pos invalid]
  rw [if_neg invalid, if_neg invalid]
  simp only [Bool.or_eq_true, decide_eq_true_eq, not_or, ne_eq, not_not] at invalid
  obtain ⟨⟨-, -⟩, within⟩ := invalid
  have ahead := UInt64.le_iff_toNat_le.mp (UInt64.not_lt.mp within)
  have behind := UInt64.le_iff_toNat_le.mp (UInt64.not_lt.mp regressed)
  have inside : slider.current.toNat + (last.toNat - slider.current.toNat) ≤ upstream.toNat := by
    omega
  rw [processLoop_congr alike inside]

omit [SliderAcquirePolicy α] in
/-- The loop ends between its first position and the end of its range. -/
theorem processLoop_between {rounds : ℕ} {count : UInt64}
    (inside : slider.current.toNat + rounds ≤ upstream.toNat) :
    slider.current ≤ (processLoop view rounds count slider).2.current ∧
      (processLoop view rounds count slider).2.current ≤ upstream ∧
      (processLoop view rounds count slider).2.acquirePolicy = slider.acquirePolicy := by
  have wide := upstream.toNat_lt
  refine processLoop_keeps (J := fun next => slider.current ≤ next.current ∧
    next.current ≤ upstream ∧ next.acquirePolicy = slider.acquirePolicy) ?_ ?_ ?_ inside
  · exact fun next kept _ _ => kept
  · rintro next ⟨above, -, rule⟩ below - -
    obtain ⟨own, publishPolicy, module, passed, -⟩ :=
      settleProcess_cases (next.pass (view next.current).record)
    have onward := toNat_onward (UInt64.lt_iff_toNat_lt.mp below) wide
    rw [passed]
    refine ⟨?_, ?_, rule⟩
    · change slider.current ≤ next.current + 1
      rw [UInt64.le_iff_toNat_le] at above ⊢
      omega
    · change next.current + 1 ≤ upstream
      rw [UInt64.lt_iff_toNat_lt] at below
      rw [UInt64.le_iff_toNat_le]
      omega
  · refine ⟨UInt64.le_refl _, ?_, rfl⟩
    rw [UInt64.le_iff_toNat_le]
    omega

/-- A call moves forward and stays behind its upstream, under the policy it was made with. -/
theorem processAvailable_between (behind : slider.current ≤ upstream) :
    slider.current ≤ (slider.processAvailable view upstream).2.current ∧
      (slider.processAvailable view upstream).2.current ≤ upstream ∧
      (slider.processAvailable view upstream).2.acquirePolicy = slider.acquirePolicy := by
  rcases processAvailable_cases slider view upstream with
    ⟨status, stays, -⟩ | ⟨last, looped, -, below, within, rfl, ended⟩
  · rw [stays]
    exact ⟨UInt64.le_refl _, behind, rfl⟩
  · have inside : slider.current.toNat + (last.toNat - slider.current.toNat) ≤ upstream.toNat := by
      rw [UInt64.lt_iff_toNat_lt] at below
      rw [UInt64.le_iff_toNat_le] at within
      omega
    have between := @processLoop_between μ α π _ _ slider view upstream _ 0 inside
    rcases ended with ⟨result, -, answer⟩ | ⟨settled, -⟩
    · rw [answer]
      exact between
    · obtain ⟨own, publishPolicy, module, ranged, -⟩ := settleRange_cases
        (processLoop view (last.toNat - slider.current.toNat) 0 slider).2 slider.current
      rw [settled, ranged]
      exact between

/-- A call that wants the record in front of it, finds it and has it taken moves on. -/
theorem processAvailable_moves [LawfulAcquire α] (published : slider.own = slider.current)
    (behind : slider.current ≤ upstream)
    (wanted : slider.current <
      (SliderAcquirePolicy.acquire slider.acquirePolicy slider.current upstream).endPosition)
    (seen : (view slider.current).status = .ok)
    (taken : (SliderModule.process slider.module (view slider.current).record).1 = true) :
    slider.current < (slider.processAvailable view upstream).2.current := by
  have within := LawfulAcquire.within slider.acquirePolicy behind
  rw [processAvailable_lawful published behind]
  generalize (SliderAcquirePolicy.acquire slider.acquirePolicy slider.current
    upstream).endPosition = last at wanted within ⊢
  rw [if_neg (UInt64.ne_of_lt wanted)]
  have above := UInt64.lt_iff_toNat_lt.mp wanted
  have wide := last.toNat_lt
  obtain ⟨rounds, count⟩ : ∃ rounds, last.toNat - slider.current.toNat = rounds + 1 :=
    ⟨last.toNat - slider.current.toNat - 1, by omega⟩
  have onward := toNat_onward above wide
  obtain ⟨own, publishPolicy, module, passed, -⟩ :=
    settleProcess_cases (slider.pass (view slider.current).record)
  have next : (slider.pass (view slider.current).record).settleProcess.2.current =
      slider.current + 1 := by rw [passed]; rfl
  have further : slider.current < (slider.pass (view slider.current).record).settleProcess.2.current := by
    rw [next, UInt64.lt_iff_toNat_lt, onward]
    exact Nat.lt_succ_self _
  -- one turn of the loop is behind the slider, whatever becomes of the others
  have moved : slider.current < (processLoop view (rounds + 1) 0 slider).2.current := by
    simp only [processLoop, seen, taken, ne_eq, not_true_eq_false, if_false, Bool.not_true,
      Bool.false_eq_true]
    split_ifs
    · exact further
    · refine UInt64.lt_of_lt_of_le further (@processLoop_between _ _ _ _ _ _ _ last _ _ ?_).1
      rw [next, onward]
      omega
  rw [count]
  dsimp only
  split
  · exact moved
  · obtain ⟨own, publishPolicy, module, ranged, -⟩ :=
      settleRange_cases (processLoop view (rounds + 1) 0 slider).2 slider.current
    split_ifs
    · rw [ranged]
      exact moved
    · rw [ranged]
      exact moved

end Slider

end Fexma.Wal
