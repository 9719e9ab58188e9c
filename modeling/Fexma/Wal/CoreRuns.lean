import Fexma.Wal.Core
import Mathlib.Data.List.Induction

/-! Runs of the bounded log: openings, publications, views, reclaims and closings in any order,
beside what has been published since the last opening. -/
namespace Fexma.Wal

inductive CoreCall where
  | open_ (config : WalRuntimeConfig) (allocated : Bool)
  | tryPublish (payload : List UInt8)
  | tryView (position : Position)
  | reclaim (endPosition : Position)
  | close

/-- What has been accepted and numbered since the last opening, and the count of openings. -/
structure CoreHistory where
  published : List (List UInt8) := []
  issued : List UInt64 := []
  openings : ℕ := 0

namespace WalCore

def perform (state : WalCore × CoreHistory) : CoreCall → WalCore × CoreHistory
  | .open_ config allocated =>
    let answer := state.1.open_ config allocated
    (answer.2, if answer.1 = .ok then { openings := state.2.openings + 1 } else state.2)
  | .tryPublish payload =>
    let answer := state.1.tryPublish payload
    (answer.2,
      if answer.1.status = .ok then
        { state.2 with
          published := state.2.published ++ [payload]
          issued := state.2.issued ++ [answer.1.sequence] }
      else state.2)
  | .tryView _ => state
  | .reclaim endPosition => ((state.1.reclaim endPosition).2, state.2)
  | .close => (state.1.close, state.2)

def run (state : WalCore × CoreHistory) (calls : List CoreCall) : WalCore × CoreHistory :=
  calls.foldl perform state

theorem run_append (state : WalCore × CoreHistory) (calls : List CoreCall) (call : CoreCall) :
    run state (calls ++ [call]) = perform (run state calls) call := by
  simp only [run, List.foldl_append, List.foldl_cons, List.foldl_nil]

variable {core : WalCore} {history : CoreHistory} {published : List (List UInt8)}
variable {payload : List UInt8} {position : Position} {state : WalCore × CoreHistory}

/-! ### Calls -/

theorem Holds.tail_le_head (holds : core.Holds published) : core.tail ≤ core.head := by
  rw [UInt64.le_iff_toNat_le, holds.head]
  exact holds.ordered

/-- The number of a position is its distance from the first one. -/
theorem Holds.sequence_toNat (holds : core.Holds published)
    (below : position.toNat < published.length) :
    (core.config.firstSequence + position).toNat =
      core.config.firstSequence.toNat + position.toNat := by
  have top := holds.sequences
  rw [UInt64.toNat_add]
  exact Nat.mod_eq_of_lt (by omega)

/-- A view is given of the positions between the frontiers. -/
theorem Holds.tryView_iff (holds : core.Holds published) (opened : core.isOpen = true) :
    (core.tryView position).status = .ok ↔ core.tail ≤ position ∧ position < core.head := by
  simp only [UInt64.le_iff_toNat_le, UInt64.lt_iff_toNat_lt, holds.head]
  constructor
  · intro seen
    obtain ⟨-, live, payload, here⟩ := holds.tryView_ok seen
    exact ⟨live, (List.getElem?_eq_some_iff.mp here).1⟩
  · rintro ⟨live, below⟩
    rw [holds.tryView_live opened live (List.getElem?_eq_getElem below)]

/-- A log is full when its positions take all slots. -/
theorem Holds.full_iff (holds : core.Holds published) :
    core.head - core.tail = core.config.capacity.toUInt64 ↔
      core.head.toNat - core.tail.toNat = core.config.capacity.toNat := by
  rw [← UInt64.toNat_inj, UInt64.toNat_sub_of_le _ _ holds.tail_le_head, UInt32.toNat_toUInt64]

/-- Below the last number the next one is still counted. -/
theorem Holds.number_left (holds : core.Holds published)
    (left : core.config.firstSequence.toNat + published.length < 2 ^ 64) :
    ¬core.head > maxUInt64 - core.config.firstSequence := by
  have greatest : core.config.firstSequence ≤ maxUInt64 := by
    rw [UInt64.le_iff_toNat_le]
    exact Nat.le_of_lt_succ core.config.firstSequence.toNat_lt
  rw [gt_iff_lt, UInt64.lt_iff_toNat_lt, UInt64.toNat_sub_of_le _ _ greatest, holds.head]
  change ¬2 ^ 64 - 1 - core.config.firstSequence.toNat < published.length
  omega

/-- With room in the ring and a number left, a payload of the right size is accepted. -/
theorem Holds.tryPublish_ok (holds : core.Holds published) (opened : core.isOpen = true)
    (size : payload.length = core.config.payloadSize.toNat)
    (numbered : core.sequenceExhausted = false)
    (room : core.head.toNat < core.tail.toNat + core.config.capacity.toNat)
    (left : core.config.firstSequence.toNat + published.length < 2 ^ 64) :
    core.tryPublish payload =
      ({ status := .ok, sequence := core.config.firstSequence + core.head }, core.push payload) := by
  have full : core.head - core.tail ≠ core.config.capacity.toUInt64 := by
    have some_capacity := holds.capacity
    rw [Ne, holds.full_iff]
    omega
  rw [tryPublish, if_neg (by simp [opened]), if_neg (not_not.mpr size), if_neg (by simp [numbered]),
    if_neg full, if_neg (holds.number_left left)]

/-- Below the last number a publication leaves numbers. -/
theorem Holds.tryPublish_numbered (holds : core.Holds published)
    (numbered : core.sequenceExhausted = false)
    (left : core.config.firstSequence.toNat + published.length < 2 ^ 64) :
    (core.tryPublish payload).2.sequenceExhausted = false := by
  unfold tryPublish
  rw [if_neg (holds.number_left left)]
  split_ifs
  all_goals exact numbered

theorem tryPublish_full_iff (opened : core.isOpen = true) :
    (core.tryPublish payload).1.status = .full ↔
      payload.length = core.config.payloadSize.toNat ∧ core.sequenceExhausted = false ∧
        core.head - core.tail = core.config.capacity.toUInt64 := by
  unfold tryPublish
  split_ifs with closed size exhausted full last
  · rw [opened] at closed
    cases closed
  · simp only [false_iff, not_and]
    exact fun same => absurd same size
  · simp only [exhausted, Bool.true_eq_false, false_and, and_false]
  · simp only [true_iff]
    exact ⟨not_not.mp size, Bool.not_eq_true _ ▸ exhausted, full⟩
  · simp only [full, and_false]
  · simp only [full, and_false]

theorem tryPublish_exhausted (answered : (core.tryPublish payload).1.status = .sequenceExhausted) :
    (core.tryPublish payload).2.sequenceExhausted = true := by
  unfold tryPublish at answered ⊢
  split_ifs at answered ⊢ with _ _ exhausted
  · exact exhausted
  · rfl

theorem tryPublish_of_exhausted (opened : core.isOpen = true)
    (exhausted : core.sequenceExhausted = true)
    (size : payload.length = core.config.payloadSize.toNat) :
    (core.tryPublish payload).1.status = .sequenceExhausted := by
  simp only [tryPublish, opened, exhausted, size, Bool.not_true, Bool.false_eq_true, ne_eq,
    not_true_eq_false, if_false, if_true]

theorem reclaim_exact (opened : core.isOpen = true) (endPosition : Position) :
    ((core.reclaim endPosition).1 = .ok ↔ core.tail ≤ endPosition ∧ endPosition ≤ core.head) ∧
      (core.reclaim endPosition).2 =
        if core.tail ≤ endPosition ∧ endPosition ≤ core.head then { core with tail := endPosition }
        else core := by
  have inside : ¬(decide (endPosition < core.tail) || decide (endPosition > core.head)) = true ↔
      core.tail ≤ endPosition ∧ endPosition ≤ core.head := by
    simp only [Bool.or_eq_true, decide_eq_true_eq, not_or, UInt64.not_lt, gt_iff_lt]
  simp only [WalCore.reclaim, opened, Bool.not_true, Bool.false_eq_true, if_false, ← inside]
  split_ifs with outside
  · exact ⟨⟨fun accepted => (by cases accepted), fun within => absurd outside within⟩, rfl⟩
  · exact ⟨⟨fun _ => outside, fun _ => rfl⟩, rfl⟩

theorem open_refused {config : WalRuntimeConfig} {allocated : Bool}
    (refused : (core.open_ config allocated).1 ≠ .ok) : (core.open_ config allocated).2 = core := by
  unfold open_ at refused ⊢
  split_ifs at refused ⊢ <;> first | rfl | exact absurd rfl refused

theorem tryPublish_stays_exhausted (exhausted : core.sequenceExhausted = true)
    (payload : List UInt8) : (core.tryPublish payload).2.sequenceExhausted = true := by
  unfold tryPublish
  split_ifs <;> exact exhausted

/-! ### Runs -/

/-- What every call keeps: an open log holds what its history says, numbered in order. -/
structure Keeps (state : WalCore × CoreHistory) : Prop where
  holds : state.1.isOpen = true → state.1.Holds state.2.published
  issued : state.1.isOpen = true → state.2.issued.map UInt64.toNat =
    List.range' state.1.config.firstSequence.toNat state.2.published.length

theorem perform_keeps (keeps : Keeps state) (call : CoreCall) : Keeps (perform state call) := by
  obtain ⟨core, history⟩ := state
  cases call with
  | open_ config allocated =>
    by_cases opened : (core.open_ config allocated).1 = .ok
    · obtain ⟨holds, -⟩ := open_cases opened
      simp only [perform, if_pos opened]
      exact ⟨fun _ => holds, fun _ => rfl⟩
    · simp only [perform, if_neg opened, open_refused opened]
      exact keeps
  | tryPublish payload =>
    rcases tryPublish_cases core payload with
      ⟨status, exhausted, refused, answer⟩ | ⟨opened, size, room, more, answer⟩
    · simp only [perform, answer, if_neg refused]
      exact ⟨fun opened => (keeps.holds opened).exhausted exhausted, keeps.issued⟩
    · have holds := keeps.holds opened
      have issued := keeps.issued opened
      have pushed := holds.push size room more
      simp only [perform, answer, if_true]
      refine ⟨fun _ => pushed, fun _ => ?_⟩
      have below : core.head.toNat < (history.published ++ [payload]).length := by
        rw [List.length_append, List.length_singleton, holds.head]
        exact Nat.lt_succ_self _
      have number : (core.config.firstSequence + core.head).toNat =
          core.config.firstSequence.toNat + core.head.toNat := pushed.sequence_toNat below
      change (history.issued ++ [core.config.firstSequence + core.head]).map UInt64.toNat =
        List.range' core.config.firstSequence.toNat (history.published ++ [payload]).length
      rw [List.map_append, List.map_singleton, issued, number, holds.head, List.length_append,
        List.length_singleton, List.range'_1_concat]
  | tryView => exact keeps
  | reclaim endPosition =>
    by_cases opened : core.isOpen = true
    · obtain ⟨-, left⟩ := reclaim_exact opened endPosition
      simp only [perform, left]
      split_ifs with inside
      · have holds := keeps.holds opened
        obtain ⟨ahead, within⟩ := inside
        rw [UInt64.le_iff_toNat_le] at ahead within
        exact ⟨fun _ => (holds.reclaim opened ahead (holds.head ▸ within)).2, keeps.issued⟩
      · exact keeps
    · have same : (core.reclaim endPosition).2 = core := by
        simp only [WalCore.reclaim, opened, Bool.not_false, if_true]
      simp only [perform, same]
      exact keeps
  | close => exact ⟨fun opened => (by cases opened), fun opened => (by cases opened)⟩

theorem run_keeps (calls : List CoreCall) : Keeps (run ({}, {}) calls) := by
  induction calls using List.reverseRecOn with
  | nil => exact ⟨nofun, nofun⟩
  | append_singleton calls call ih =>
    rw [run_append]
    exact perform_keeps ih call

/-- Without a new opening an exhausted log stays exhausted. -/
theorem perform_exhausted (call : CoreCall) : state.2.openings ≤ (perform state call).2.openings ∧
    ((perform state call).2.openings = state.2.openings → state.1.sequenceExhausted = true →
      (perform state call).1.sequenceExhausted = true) := by
  obtain ⟨core, history⟩ := state
  cases call with
  | open_ config allocated =>
    by_cases opened : (core.open_ config allocated).1 = .ok
    · simp only [perform, if_pos opened]
      exact ⟨Nat.le_succ _, fun same => absurd same (Nat.succ_ne_self _)⟩
    · simp only [perform, if_neg opened, open_refused opened]
      exact ⟨Nat.le_refl _, fun _ exhausted => exhausted⟩
  | tryPublish payload =>
    rcases tryPublish_cases core payload with
      ⟨status, flag, refused, answer⟩ | ⟨opened, size, room, more, answer⟩
    · refine ⟨?_, fun _ exhausted => ?_⟩
      · simp only [perform, answer, if_neg refused]
        exact Nat.le_refl _
      · exact tryPublish_stays_exhausted exhausted payload
    · simp only [perform, answer, if_true]
      exact ⟨Nat.le_refl _, fun _ exhausted => exhausted⟩
  | tryView => exact ⟨Nat.le_refl _, fun _ exhausted => exhausted⟩
  | reclaim endPosition =>
    refine ⟨Nat.le_refl _, fun _ exhausted => ?_⟩
    change (core.reclaim endPosition).2.sequenceExhausted = true
    unfold reclaim
    split_ifs <;> exact exhausted
  | close => exact ⟨Nat.le_refl _, fun _ exhausted => exhausted⟩

theorem run_exhausted (later : List CoreCall) : state.2.openings ≤ (run state later).2.openings ∧
    ((run state later).2.openings = state.2.openings → state.1.sequenceExhausted = true →
      (run state later).1.sequenceExhausted = true) := by
  induction later using List.reverseRecOn with
  | nil => exact ⟨Nat.le_refl _, fun _ exhausted => exhausted⟩
  | append_singleton later call ih =>
    rw [run_append]
    obtain ⟨more, stays⟩ := @perform_exhausted (run state later) call
    refine ⟨ih.1.trans more, fun same exhausted => ?_⟩
    have before : (run state later).2.openings = state.2.openings :=
      Nat.le_antisymm (same ▸ more) ih.1
    exact stays (same.trans before.symm) (ih.2 before exhausted)

/-- An open log with its history, and what any call on it answers. -/
structure BoundedLog (state : WalCore × CoreHistory) : Prop where
  ordered : state.1.tail ≤ state.1.head
  bounded : state.1.head.toNat ≤ state.1.tail.toNat + state.1.config.capacity.toNat
  slot : state.1.headSlot.toNat = state.1.head.toNat % state.1.config.capacity.toNat
  counted : state.1.head.toNat = state.2.published.length
  viewed : ∀ position, (state.1.tryView position).status = .ok ↔
    state.1.tail ≤ position ∧ position < state.1.head
  shown : ∀ position, state.1.tail ≤ position → position < state.1.head →
    ∃ payload, state.2.published[position.toNat]? = some payload ∧
      state.1.tryView position =
        { status := .ok
          record :=
            { position, sequence := state.1.config.firstSequence + position, payload } } ∧
      (state.1.config.firstSequence + position).toNat =
        state.1.config.firstSequence.toNat + position.toNat
  full : ∀ payload, (state.1.tryPublish payload).1.status = .full ↔
    payload.length = state.1.config.payloadSize.toNat ∧ state.1.sequenceExhausted = false ∧
      state.1.head.toNat - state.1.tail.toNat = state.1.config.capacity.toNat
  issued : state.2.issued.map UInt64.toNat =
    List.range' state.1.config.firstSequence.toNat state.2.published.length
  next : ∀ payload, (state.1.tryPublish payload).1.status = .ok →
    (state.1.tryPublish payload).1.sequence.toNat =
        state.1.config.firstSequence.toNat + state.1.head.toNat ∧
      (state.1.tryPublish payload).1.sequence ∉ state.2.issued
  exhausted : ∀ payload, (state.1.tryPublish payload).1.status = .sequenceExhausted →
    ∀ (later : List CoreCall) (more : List UInt8),
      (run (perform state (.tryPublish payload)) later).2.openings = state.2.openings →
      (run (perform state (.tryPublish payload)) later).1.isOpen = true →
      more.length =
        (run (perform state (.tryPublish payload)) later).1.config.payloadSize.toNat →
      ((run (perform state (.tryPublish payload)) later).1.tryPublish more).1.status =
        .sequenceExhausted
  reclaimed : ∀ endPosition,
    ((state.1.reclaim endPosition).1 = .ok ↔
      state.1.tail ≤ endPosition ∧ endPosition ≤ state.1.head) ∧
    (state.1.reclaim endPosition).2 =
      if state.1.tail ≤ endPosition ∧ endPosition ≤ state.1.head then
        { state.1 with tail := endPosition }
      else state.1

/-- Whatever has been called, an open log is the bounded log of its history. -/
theorem core_bounded_log (calls : List CoreCall)
    (opened : (run ({}, {}) calls).1.isOpen = true) : BoundedLog (run ({}, {}) calls) := by
  have keeps := run_keeps calls
  generalize run ({}, {}) calls = state at keeps opened ⊢
  have holds := keeps.holds opened
  have issued := keeps.issued opened
  exact {
    ordered := holds.tail_le_head
    bounded := holds.head ▸ holds.window
    slot := holds.head ▸ holds.slot
    counted := holds.head
    viewed := fun _ => holds.tryView_iff opened
    shown := by
      intro position live below
      rw [UInt64.le_iff_toNat_le] at live
      rw [UInt64.lt_iff_toNat_lt, holds.head] at below
      have here := List.getElem?_eq_getElem below
      exact ⟨_, here, holds.tryView_live opened live here, holds.sequence_toNat below⟩
    full := fun _ => by rw [tryPublish_full_iff opened, holds.full_iff]
    issued := issued
    next := by
      intro payload accepted
      rcases tryPublish_cases state.1 payload with
        ⟨status, flag, refused, answer⟩ | ⟨-, size, room, more, answer⟩
      · rw [answer] at accepted
        exact absurd accepted refused
      · rw [answer]
        have pushed := holds.push size room more
        have number : (state.1.config.firstSequence + state.1.head).toNat =
            state.1.config.firstSequence.toNat + state.1.head.toNat := by
          refine pushed.sequence_toNat ?_
          rw [List.length_append, List.length_singleton, holds.head]
          exact Nat.lt_succ_self _
        refine ⟨number, fun repeated => ?_⟩
        have member := List.mem_map_of_mem (f := UInt64.toNat) repeated
        rw [issued, number, List.mem_range'_1, holds.head] at member
        omega
    exhausted := by
      intro payload answered later more same open_ size
      have flag : (perform state (.tryPublish payload)).1.sequenceExhausted = true :=
        tryPublish_exhausted answered
      have kept : (perform state (.tryPublish payload)).2.openings = state.2.openings := by
        simp only [perform]
        split_ifs <;> rfl
      exact tryPublish_of_exhausted open_ ((run_exhausted later).2 (same.trans kept.symm) flag) size
    reclaimed := reclaim_exact opened }

/-- A log of one block, whose only number is the last one there is. -/
theorem core_bounded_log_last_number :
    BoundedLog (run ({}, {})
      [.open_ { payloadSize := 1, capacity := 1, firstSequence := maxUInt64 } true,
        .tryPublish [7], .reclaim 1, .tryPublish [8]]) :=
  core_bounded_log _ (by decide)

end WalCore

end Fexma.Wal
