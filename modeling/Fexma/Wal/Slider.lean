import Fexma.Wal.Types
import Mathlib.Order.Nat
import Mathlib.Tactic.SplitIfs

/-! The mechanics of a stage over retained records (`slider.hpp`), and the rule by which a
stage is proved: what one record keeps, a whole call keeps. -/
namespace Fexma.Wal

structure PositionRange where
  begin : Position := 0
  endPosition : Position := 0
  deriving DecidableEq, Repr

inductive PublishDecision where
  | hold
  | publish
  | failed
  deriving DecidableEq, Repr

inductive SliderStatus where
  | processed
  | empty
  | upstreamRegression
  | progressMismatch
  | invalidRange
  | viewUnavailable
  | moduleFailed
  | publishFailed
  deriving DecidableEq, Repr

structure SliderResult where
  status : SliderStatus := .empty
  current : Position := 0
  processedCount : UInt64 := 0
  viewStatus : ViewStatus := .ok
  deriving DecidableEq, Repr

def SliderResult.ok (result : SliderResult) : Bool :=
  result.status = .processed || result.status = .empty

class SliderModule (μ : Type) where
  process : μ → RecordView → Bool × μ

/-- `noop_module.hpp`. -/
structure NoOpModule where

instance : SliderModule NoOpModule where
  process module _ := (true, module)

class SliderAcquirePolicy (α : Type) where
  acquire : α → Position → Position → PositionRange

/-- A policy may use the module, and both may change. -/
class SliderPublishPolicy (π μ : Type) where
  afterProcess : π → μ → Position → PublishDecision × π × μ
  afterRange : π → μ → Position → Position → PublishDecision × π × μ

/-! ### Policies -/

inductive AvailableRangeAcquire where
  | policy

instance : SliderAcquirePolicy AvailableRangeAcquire where
  acquire _ current availableEnd := ⟨current, availableEnd⟩

structure BoundedRangeAcquire where
  maximumCount : Position := 0

instance : SliderAcquirePolicy BoundedRangeAcquire where
  acquire policy current availableEnd :=
    if availableEnd ≤ current then ⟨current, current⟩
    else
      let availableCount := availableEnd - current
      ⟨current, current + if availableCount < policy.maximumCount then availableCount
        else policy.maximumCount⟩

inductive OnePositionPublish where
  | policy

instance {μ : Type} : SliderPublishPolicy OnePositionPublish μ where
  afterProcess policies module _ := (.publish, policies, module)
  afterRange policies module _ _ := (.hold, policies, module)

/-- A range that starts where the slider stands and ends within what is available. -/
class LawfulAcquire (α : Type) [SliderAcquirePolicy α] : Prop where
  starts (rule : α) {current availableEnd : Position} (behind : current ≤ availableEnd) :
    (SliderAcquirePolicy.acquire rule current availableEnd).begin = current
  ahead (rule : α) {current availableEnd : Position} (behind : current ≤ availableEnd) :
    current ≤ (SliderAcquirePolicy.acquire rule current availableEnd).endPosition
  within (rule : α) {current availableEnd : Position} (behind : current ≤ availableEnd) :
    (SliderAcquirePolicy.acquire rule current availableEnd).endPosition ≤ availableEnd

instance : LawfulAcquire AvailableRangeAcquire where
  starts _ _ _ _ := rfl
  ahead _ _ _ behind := behind
  within _ _ _ _ := UInt64.le_refl _

/-- A policy that moves whenever there is something to move to. -/
def Moves {α : Type} [SliderAcquirePolicy α] (rule : α) : Prop :=
  ∀ current availableEnd : Position, current < availableEnd →
    current < (SliderAcquirePolicy.acquire rule current availableEnd).endPosition

theorem AvailableRangeAcquire.moves (rule : AvailableRangeAcquire) : Moves rule :=
  fun _ _ below => below

/-- The end of a bounded range, counted. -/
theorem BoundedRangeAcquire.end_toNat (rule : BoundedRangeAcquire) {current availableEnd : Position}
    (behind : current ≤ availableEnd) :
    (SliderAcquirePolicy.acquire rule current availableEnd).endPosition.toNat =
      min availableEnd.toNat (current.toNat + rule.maximumCount.toNat) := by
  have wide := availableEnd.toNat_lt
  have gap := UInt64.toNat_sub_of_le _ _ behind
  rw [UInt64.le_iff_toNat_le] at behind
  simp only [SliderAcquirePolicy.acquire]
  split_ifs with none short
  · have := UInt64.le_iff_toNat_le.mp none
    change current.toNat = _
    omega
  · have := UInt64.lt_iff_toNat_lt.mp short
    rw [UInt64.toNat_add, Nat.mod_eq_of_lt (by omega)]
    omega
  · have := UInt64.le_iff_toNat_le.mp (UInt64.not_lt.mp short)
    rw [UInt64.toNat_add, Nat.mod_eq_of_lt (by omega)]
    omega

instance : LawfulAcquire BoundedRangeAcquire where
  starts rule current availableEnd _ := by
    simp only [SliderAcquirePolicy.acquire]
    split_ifs <;> rfl
  ahead rule current availableEnd behind := by
    rw [UInt64.le_iff_toNat_le, rule.end_toNat behind]
    exact Nat.le_min.mpr ⟨UInt64.le_iff_toNat_le.mp behind, Nat.le_add_right _ _⟩
  within rule current availableEnd behind := by
    rw [UInt64.le_iff_toNat_le, rule.end_toNat behind]
    exact Nat.min_le_left _ _

theorem BoundedRangeAcquire.moves {rule : BoundedRangeAcquire} (positive : 0 < rule.maximumCount) :
    Moves rule := by
  intro current availableEnd below
  rw [UInt64.lt_iff_toNat_lt] at positive below ⊢
  rw [rule.end_toNat (UInt64.le_iff_toNat_le.mpr (Nat.le_of_lt below))]
  exact Nat.lt_min.mpr ⟨below, Nat.lt_add_of_pos_right positive⟩

/-! ### The slider -/

/-- A slider with the progress and the module that it owns. `processed` records what the
module has processed; no operation reads it. -/
structure Slider (μ α π : Type) where
  own : Position := 0
  module : μ
  current : Position := 0
  acquirePolicy : α
  publishPolicy : π
  processed : List RecordView := []

namespace Slider

variable {μ α π : Type}

/-- `Progress::Writer::publish`. -/
def publish (slider : Slider μ α π) (endPosition : Position) : Bool × Slider μ α π :=
  if endPosition < slider.own then (false, slider) else (true, { slider with own := endPosition })

def applyPublishDecision (slider : Slider μ α π) (decision : PublishDecision) :
    Bool × Slider μ α π :=
  if decision = .failed then (false, slider)
  else if decision = .hold then (true, slider)
  else slider.publish slider.current

variable [SliderModule μ] [SliderAcquirePolicy α] [SliderPublishPolicy π μ]

/-- The turn of the loop behind a record that the module has processed. -/
def settleProcess (slider : Slider μ α π) : Bool × Slider μ α π :=
  let answer := SliderPublishPolicy.afterProcess slider.publishPolicy slider.module slider.current
  { slider with publishPolicy := answer.2.1, module := answer.2.2 }.applyPublishDecision answer.1

def settleRange (slider : Slider μ α π) (first : Position) : Bool × Slider μ α π :=
  let answer := SliderPublishPolicy.afterRange slider.publishPolicy slider.module first slider.current
  { slider with publishPolicy := answer.2.1, module := answer.2.2 }.applyPublishDecision answer.1

/-- The state behind a processed record. -/
def pass (slider : Slider μ α π) (record : RecordView) : Slider μ α π :=
  { slider with
    module := (SliderModule.process slider.module record).2
    current := slider.current + 1
    processed := slider.processed ++ [record] }

/-- The loop over a range, with the number of positions left and the number processed: an
error is a return from inside the loop. -/
def processLoop (view : Position → AccessResult) :
    ℕ → UInt64 → Slider μ α π → Except SliderResult UInt64 × Slider μ α π
  | 0, processedCount, slider => (.ok processedCount, slider)
  | rounds + 1, processedCount, slider =>
    let access := view slider.current
    if access.status ≠ .ok then
      (.error
        { status := .viewUnavailable, current := slider.current, processedCount
          viewStatus := access.status }, slider)
    else if !(SliderModule.process slider.module access.record).1 then
      (.error { status := .moduleFailed, current := slider.current, processedCount },
        { slider with module := (SliderModule.process slider.module access.record).2 })
    else
      let settled := (slider.pass access.record).settleProcess
      if !settled.1 then
        (.error
          { status := .publishFailed, current := settled.2.current
            processedCount := processedCount + 1 }, settled.2)
      else processLoop view rounds (processedCount + 1) settled.2

def processAvailable (slider : Slider μ α π) (view : Position → AccessResult)
    (upstream : Position) : SliderResult × Slider μ α π :=
  if slider.own ≠ slider.current then
    ({ status := .progressMismatch, current := slider.current }, slider)
  else if upstream < slider.current then
    ({ status := .upstreamRegression, current := slider.current }, slider)
  else
    let range := SliderAcquirePolicy.acquire slider.acquirePolicy slider.current upstream
    if range.begin ≠ slider.current || range.endPosition < range.begin ||
        range.endPosition > upstream then
      ({ status := .invalidRange, current := slider.current }, slider)
    else if range.begin = range.endPosition then
      ({ status := .empty, current := slider.current }, slider)
    else
      let looped :=
        processLoop view (range.endPosition.toNat - slider.current.toNat) 0 slider
      match looped.1 with
      | .error result => (result, looped.2)
      | .ok processedCount =>
        let settled := looped.2.settleRange slider.current
        if !settled.1 then
          ({ status := .publishFailed, current := settled.2.current, processedCount }, settled.2)
        else
          ({ status := .processed, current := settled.2.current, processedCount }, settled.2)

/-- Start from a position: nothing has been processed. -/
def resetQuiescent (slider : Slider μ α π) (initial : Position) : Slider μ α π :=
  { slider with own := initial, current := initial, processed := [] }

/-! ### One position at a time -/

section OnePosition
variable {slider : Slider μ α OnePositionPublish}

omit [SliderModule μ] [SliderAcquirePolicy α] [SliderPublishPolicy π μ] in
/-- Every processed record is published at once. -/
theorem settleProcess_onePosition (behind : slider.own ≤ slider.current) :
    slider.settleProcess = (true, { slider with own := slider.current }) := by
  simp only [settleProcess, SliderPublishPolicy.afterProcess, applyPublishDecision, publish,
    reduceCtorEq, if_false, if_neg (UInt64.not_lt.mpr behind)]

omit [SliderModule μ] [SliderAcquirePolicy α] [SliderPublishPolicy π μ] in
theorem settleRange_onePosition {first : Position} : slider.settleRange first = (true, slider) := rfl

end OnePosition

/-! ### The range of a call -/

section Range
variable [LawfulAcquire α] {slider : Slider μ α π} {view : Position → AccessResult}
variable {upstream : Position}

/-- A slider whose own progress is where it stands, and whose upstream is not behind it, goes
over the range of its policy. -/
theorem processAvailable_lawful (published : slider.own = slider.current)
    (behind : slider.current ≤ upstream) :
    slider.processAvailable view upstream =
      if slider.current =
          (SliderAcquirePolicy.acquire slider.acquirePolicy slider.current upstream).endPosition then
        ({ status := .empty, current := slider.current }, slider)
      else
        let looped := processLoop view
          ((SliderAcquirePolicy.acquire slider.acquirePolicy slider.current
            upstream).endPosition.toNat - slider.current.toNat) 0 slider
        match looped.1 with
        | .error result => (result, looped.2)
        | .ok processedCount =>
          let settled := looped.2.settleRange slider.current
          if !settled.1 then
            ({ status := .publishFailed, current := settled.2.current, processedCount }, settled.2)
          else
            ({ status := .processed, current := settled.2.current, processedCount }, settled.2) := by
  have ahead := LawfulAcquire.ahead slider.acquirePolicy behind
  have within := LawfulAcquire.within slider.acquirePolicy behind
  unfold processAvailable
  simp only [published, ne_eq, not_true_eq_false, if_false, if_neg (UInt64.not_lt.mpr behind),
    LawfulAcquire.starts slider.acquirePolicy behind, decide_false, gt_iff_lt,
    decide_eq_false (UInt64.not_lt.mpr ahead), decide_eq_false (UInt64.not_lt.mpr within),
    Bool.or_false, Bool.false_eq_true]

omit [SliderAcquirePolicy α] [LawfulAcquire α] in
private theorem processLoop_stuck (rounds : ℕ) (processedCount : UInt64)
    (stuck : (view slider.current).status ≠ .ok ∨
      (SliderModule.process slider.module (view slider.current).record).1 = false) :
    ∃ result module, processLoop view (rounds + 1) processedCount slider =
        (.error result, { slider with module }) ∧
      (result.status = .viewUnavailable ∨ result.status = .moduleFailed) := by
  rw [processLoop]
  dsimp only
  by_cases seen : (view slider.current).status = .ok
  · rw [if_neg (not_not.mpr seen), stuck.resolve_left (not_not.mpr seen)]
    exact ⟨_, _, rfl, .inr rfl⟩
  · rw [if_pos seen]
    exact ⟨_, slider.module, rfl, .inl rfl⟩

/-- A call whose first record is not there or is refused moves nothing, and it says so if its
policy wants a record. -/
theorem processAvailable_stuck (published : slider.own = slider.current)
    (behind : slider.current ≤ upstream)
    (stuck : (view slider.current).status ≠ .ok ∨
      (SliderModule.process slider.module (view slider.current).record).1 = false) :
    (∃ module, (slider.processAvailable view upstream).2 = { slider with module }) ∧
      (slider.current <
          (SliderAcquirePolicy.acquire slider.acquirePolicy slider.current upstream).endPosition →
        (slider.processAvailable view upstream).1.status = .viewUnavailable ∨
        (slider.processAvailable view upstream).1.status = .moduleFailed) := by
  have ahead := LawfulAcquire.ahead slider.acquirePolicy behind
  rw [processAvailable_lawful published behind]
  generalize (SliderAcquirePolicy.acquire slider.acquirePolicy slider.current
    upstream).endPosition = last at ahead ⊢
  by_cases none : slider.current = last
  · rw [if_pos none]
    exact ⟨⟨slider.module, rfl⟩, fun wanted => absurd (none ▸ wanted) (UInt64.lt_irrefl _)⟩
  · rw [if_neg none]
    obtain ⟨rounds, count⟩ : ∃ rounds, last.toNat - slider.current.toNat = rounds + 1 := by
      have below := UInt64.lt_iff_toNat_lt.mp (UInt64.lt_of_le_of_ne ahead none)
      exact ⟨last.toNat - slider.current.toNat - 1, by omega⟩
    obtain ⟨result, module, looped, stops⟩ := processLoop_stuck rounds 0 stuck
    rw [count, looped]
    exact ⟨⟨module, rfl⟩, fun _ => stops⟩

end Range

/-- A record that is there and that the module takes, under a policy that moves. -/
theorem processAvailable_next [LawfulAcquire α] {view : Position → AccessResult}
    {slider : Slider μ α OnePositionPublish} {module : μ} (moves : Moves slider.acquirePolicy)
    (published : slider.own = slider.current)
    (fits : slider.current.toNat + 1 < 2 ^ 64) (seen : (view slider.current).status = .ok)
    (taken : SliderModule.process slider.module (view slider.current).record = (true, module)) :
    (slider.processAvailable view (slider.current + 1)).2 =
      { slider with
        module, own := slider.current + 1, current := slider.current + 1
        processed := slider.processed ++ [(view slider.current).record] } := by
  have next := toNat_onward (Nat.lt_succ_self slider.current.toNat) fits
  have below : slider.current < slider.current + 1 := by
    rw [UInt64.lt_iff_toNat_lt, next]
    exact Nat.lt_succ_self _
  have behind := UInt64.le_of_lt below
  have forward := moves _ _ below
  have within := LawfulAcquire.within slider.acquirePolicy behind
  rw [processAvailable_lawful published behind]
  generalize (SliderAcquirePolicy.acquire slider.acquirePolicy slider.current
    (slider.current + 1)).endPosition = last at forward within ⊢
  have count : last.toNat - slider.current.toNat = 1 := by
    rw [UInt64.lt_iff_toNat_lt] at forward
    rw [UInt64.le_iff_toNat_le, next] at within
    omega
  have settles : (slider.pass (view slider.current).record).own ≤
      (slider.pass (view slider.current).record).current := by
    change slider.own ≤ slider.current + 1
    rwa [published]
  rw [if_neg (fun same => UInt64.lt_irrefl _ (same ▸ forward)), count]
  simp only [processLoop, seen, taken, settleProcess_onePosition settles, ne_eq, not_true_eq_false,
    if_false, Bool.not_true, Bool.false_eq_true, settleRange_onePosition]
  simp only [pass, taken]

/-! ### The rule of a stage -/

omit [SliderModule μ] [SliderAcquirePolicy α] [SliderPublishPolicy π μ] in
/-- What becomes of a decision: the own progress stays, or it moves up to the current
position. -/
theorem applyPublishDecision_cases (slider : Slider μ α π) (decision : PublishDecision) :
    ∃ own, (slider.applyPublishDecision decision).2 = { slider with own } ∧
      (own = slider.own ∨ slider.own ≤ slider.current ∧ own = slider.current) := by
  unfold applyPublishDecision publish
  split_ifs with _ _ backward
  · exact ⟨_, rfl, .inl rfl⟩
  · exact ⟨_, rfl, .inl rfl⟩
  · exact ⟨_, rfl, .inl rfl⟩
  · exact ⟨_, rfl, .inr ⟨UInt64.not_lt.mp backward, rfl⟩⟩

/-- What is shown of one turn of the loop: below the upstream a state that keeps `J` sees its
record, and it goes on to a state that keeps `J` or stops in a state of `F`. -/
structure Turns (view : Position → AccessResult) (upstream : Position)
    (J F : Slider μ α π → Prop) : Prop where
  seen : ∀ slider, J slider → slider.current < upstream → (view slider.current).status = .ok
  refused : ∀ slider, J slider → slider.current < upstream →
    (SliderModule.process slider.module (view slider.current).record).1 = false →
    F { slider with
        module := (SliderModule.process slider.module (view slider.current).record).2 }
  turned : ∀ slider, J slider → slider.current < upstream →
    (SliderModule.process slider.module (view slider.current).record).1 = true →
    (slider.pass (view slider.current).record).settleProcess.1 = true →
    J (slider.pass (view slider.current).record).settleProcess.2
  stopped : ∀ slider, J slider → slider.current < upstream →
    (SliderModule.process slider.module (view slider.current).record).1 = true →
    (slider.pass (view slider.current).record).settleProcess.1 = false →
    F (slider.pass (view slider.current).record).settleProcess.2

omit [SliderModule μ] [SliderAcquirePolicy α] in
theorem settleProcess_cases (slider : Slider μ α π) : ∃ own publishPolicy module,
    slider.settleProcess.2 = { slider with own, publishPolicy, module } ∧
      (own = slider.own ∨ slider.own ≤ slider.current ∧ own = slider.current) := by
  obtain ⟨own, settled, moved⟩ := applyPublishDecision_cases
    { slider with
      publishPolicy := (SliderPublishPolicy.afterProcess slider.publishPolicy slider.module
        slider.current).2.1
      module := (SliderPublishPolicy.afterProcess slider.publishPolicy slider.module
        slider.current).2.2 }
    (SliderPublishPolicy.afterProcess slider.publishPolicy slider.module slider.current).1
  exact ⟨own, _, _, settled, moved⟩

omit [SliderModule μ] [SliderAcquirePolicy α] in
theorem settleRange_cases (slider : Slider μ α π) (first : Position) : ∃ own publishPolicy module,
    (slider.settleRange first).2 = { slider with own, publishPolicy, module } ∧
      (own = slider.own ∨ slider.own ≤ slider.current ∧ own = slider.current) := by
  obtain ⟨own, settled, moved⟩ := applyPublishDecision_cases
    { slider with
      publishPolicy := (SliderPublishPolicy.afterRange slider.publishPolicy slider.module first
        slider.current).2.1
      module := (SliderPublishPolicy.afterRange slider.publishPolicy slider.module first
        slider.current).2.2 }
    (SliderPublishPolicy.afterRange slider.publishPolicy slider.module first slider.current).1
  exact ⟨own, _, _, settled, moved⟩

section Rule
variable {view : Position → AccessResult} {upstream : Position} {J F K : Slider μ α π → Prop}
variable {slider : Slider μ α π} {rounds : ℕ} {processedCount : UInt64}

omit [SliderAcquirePolicy α] in
/-- The loop keeps its invariant to the end of the range, or it stops on the way. -/
theorem Turns.loop (turns : Turns view upstream J F) (start : J slider)
    (inside : slider.current.toNat + rounds ≤ upstream.toNat) :
    (∃ next, processLoop view rounds processedCount slider =
        (.ok (processedCount + .ofNat rounds), next) ∧ J next ∧
        next.current.toNat = slider.current.toNat + rounds) ∨
      ∃ result next, processLoop view rounds processedCount slider = (.error result, next) ∧
        F next ∧ (result.status = .moduleFailed ∨ result.status = .publishFailed) ∧
        result.current = next.current := by
  induction rounds generalizing slider processedCount with
  | zero =>
    refine .inl ⟨slider, ?_, start, rfl⟩
    have nothing : UInt64.ofNat 0 = 0 := rfl
    rw [processLoop, nothing, UInt64.add_zero]
  | succ rounds ih =>
    have wide := upstream.toNat_lt
    have below : slider.current < upstream := by
      rw [UInt64.lt_iff_toNat_lt]
      omega
    have seen := turns.seen slider start below
    simp only [processLoop, seen, ne_eq, not_true_eq_false, if_false]
    cases processed :
      (SliderModule.process slider.module (view slider.current).record).1 with
    | false =>
      exact .inr ⟨_, _, rfl, turns.refused slider start below processed, .inl rfl, rfl⟩
    | true =>
      simp only [Bool.not_true, Bool.false_eq_true, if_false]
      cases settled : (slider.pass (view slider.current).record).settleProcess.1 with
      | false =>
        exact .inr ⟨_, _, rfl, turns.stopped slider start below processed settled, .inr rfl, rfl⟩
      | true =>
        simp only [Bool.not_true, Bool.false_eq_true, if_false]
        obtain ⟨own, publishPolicy, module, passed, -⟩ :=
          settleProcess_cases (slider.pass (view slider.current).record)
        have current : (slider.pass (view slider.current).record).settleProcess.2.current.toNat =
            slider.current.toNat + 1 := by
          rw [passed]
          exact (UInt64.toNat_add _ _).trans (Nat.mod_eq_of_lt (by change _ + 1 < 2 ^ 64; omega))
        have behind := @ih _ (processedCount + 1) (turns.turned slider start below processed settled)
          (by omega)
        rcases behind with ⟨next, looped, kept, reached⟩ | stopped
        · refine .inl ⟨next, ?_, kept, by omega⟩
          rw [looped, UInt64.add_assoc, ← UInt64.ofNat_one, ← UInt64.ofNat_add, Nat.add_comm 1]
        · exact .inr stopped

/-- What a call that goes by the rule comes to. -/
inductive Passes (slider : Slider μ α π) (J F K : Slider μ α π → Prop) :
    SliderResult × Slider μ α π → Prop
  | mismatch (apart : slider.own ≠ slider.current) :
    Passes slider J F K ({ status := .progressMismatch, current := slider.current }, slider)
  | empty : Passes slider J F K ({ status := .empty, current := slider.current }, slider)
  | processed {count : UInt64} {next : Slider μ α π} (reached : K next)
      (advance : next.current.toNat = slider.current.toNat + count.toNat)
      (some_records : count ≠ 0) :
    Passes slider J F K ({ status := .processed, current := next.current, processedCount := count }, next)
  | stopped {result : SliderResult} {next : Slider μ α π} (failed : F next)
      (stops : result.status = .moduleFailed ∨ result.status = .publishFailed)
      (current : result.current = next.current) : Passes slider J F K (result, next)

/-- The rule: a slider behind its upstream that keeps `J` during the loop ends in `K`, or it
stops in `F`. It never misses a record, and its range is never refused. -/
theorem Turns.passes [LawfulAcquire α] (turns : Turns view upstream J F)
    (start : slider.own = slider.current → J slider) (behind : slider.current ≤ upstream)
    (settles : ∀ next, J next → slider.current < next.current → next.current =
      (SliderAcquirePolicy.acquire slider.acquirePolicy slider.current upstream).endPosition →
      (next.settleRange slider.current).1 = true → K (next.settleRange slider.current).2)
    (fails : ∀ next, J next → slider.current < next.current → next.current ≤ upstream →
      (next.settleRange slider.current).1 = false → F (next.settleRange slider.current).2) :
    Passes slider J F K (slider.processAvailable view upstream) := by
  by_cases apart : slider.own = slider.current
  case neg =>
    rw [processAvailable, if_pos apart]
    exact .mismatch apart
  have ahead := LawfulAcquire.ahead slider.acquirePolicy behind
  have within := LawfulAcquire.within slider.acquirePolicy behind
  rw [processAvailable_lawful apart behind]
  generalize (SliderAcquirePolicy.acquire slider.acquirePolicy slider.current upstream).endPosition =
    last at ahead within settles
  by_cases none : slider.current = last
  · rw [if_pos none]
    exact .empty
  rw [if_neg none]
  have above : slider.current.toNat < last.toNat := by
    refine Nat.lt_of_le_of_ne (UInt64.le_iff_toNat_le.mp ahead) fun same => none ?_
    exact UInt64.toNat_inj.mp same
  have bound := UInt64.le_iff_toNat_le.mp within
  have wide := last.toNat_lt
  have inside : slider.current.toNat + (last.toNat - slider.current.toNat) ≤ upstream.toNat := by
    omega
  rcases @Turns.loop _ _ _ _ _ _ _ _ _ _ _ 0 turns (start apart) inside with
    ⟨next, looped, kept, reached⟩ | ⟨result, next, looped, failed, stops, current⟩
  · have forward : slider.current < next.current := by
      rw [UInt64.lt_iff_toNat_lt]
      omega
    have inside : next.current ≤ upstream := by
      rw [UInt64.le_iff_toNat_le]
      omega
    rw [looped]
    dsimp only
    obtain ⟨own, publishPolicy, module, passed, -⟩ := settleRange_cases next slider.current
    cases settled : (next.settleRange slider.current).1 with
    | false => exact .stopped (fails next kept forward inside settled) (.inr rfl) rfl
    | true =>
      have count : (0 + UInt64.ofNat (last.toNat - slider.current.toNat)).toNat =
          last.toNat - slider.current.toNat := by
        rw [UInt64.zero_add, UInt64.toNat_ofNat']
        exact Nat.mod_eq_of_lt (by omega)
      have ended : next.current = last := by
        refine UInt64.toNat_inj.mp ?_
        omega
      refine .processed (settles next kept forward ended settled) ?_ fun zero => ?_
      · rw [passed, count]
        change next.current.toNat = _
        omega
      · rw [zero] at count
        change 0 = _ at count
        omega
  · rw [looped]
    exact .stopped failed stops current

end Rule

end Slider

end Fexma.Wal
