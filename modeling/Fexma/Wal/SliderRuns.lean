import Fexma.Library.DeliveryTrail
import Fexma.Wal.Core
import Fexma.Wal.Slider
import Mathlib.Data.List.Induction
import Mathlib.Tactic.SplitIfs

/-! Runs of one slider over any module and any policies. Ranges, decisions and views may be
anything; between two calls the owner of the module may use it, and the acquire policy may be
set anew. What the module is offered is recorded in front of it. -/
namespace Fexma.Wal

open DeliveryTrail

/-- A view source answers for the position it is asked for. -/
structure ViewSource where
  tryView : Position → AccessResult
  addressed : ∀ position, (tryView position).status = .ok →
    (tryView position).record.position = position

/-- The log string is a source of views. -/
def WalCore.viewSource (core : WalCore) : ViewSource where
  tryView := core.tryView
  addressed position viewed := by
    unfold WalCore.tryView at viewed ⊢
    split_ifs at viewed ⊢
    rfl

/-- A call of `process_available`, with what it finds. -/
structure SliderCall (μ α : Type) where
  source : ViewSource
  upstream : Position
  acquirePolicy : α
  module : μ → μ

/-- A module with a record of what it has been offered. -/
structure Watched (μ : Type) where
  module : μ
  offers : List Offer := []

instance {μ : Type} [SliderModule μ] : SliderModule (Watched μ) where
  process watched record :=
    let answer := SliderModule.process watched.module record
    (answer.1,
      { module := answer.2
        offers := watched.offers ++ [⟨record.position.toNat, answer.1⟩] })

instance {μ π : Type} [SliderPublishPolicy π μ] : SliderPublishPolicy π (Watched μ) where
  afterProcess policy watched endPosition :=
    let answer := SliderPublishPolicy.afterProcess policy watched.module endPosition
    (answer.1, answer.2.1, { watched with module := answer.2.2 })
  afterRange policy watched first endPosition :=
    let answer := SliderPublishPolicy.afterRange policy watched.module first endPosition
    (answer.1, answer.2.1, { watched with module := answer.2.2 })

def SliderCall.watched {μ α : Type} (call : SliderCall μ α) : SliderCall (Watched μ) α :=
  { call with module := fun watched => { watched with module := call.module watched.module } }

namespace Slider

variable {μ α π : Type}

/-- A slider where its own progress begins, with nothing on record. -/
def start (initial : Position) (module : μ) (acquirePolicy : α) (publishPolicy : π) :
    Slider μ α π :=
  { own := initial, module, current := initial, acquirePolicy, publishPolicy }

def watch (slider : Slider μ α π) : Slider (Watched μ) α π :=
  { slider with module := { module := slider.module } }

def unwatch (slider : Slider (Watched μ) α π) : Slider μ α π :=
  { slider with module := slider.module.module }

/-- The slider as a call finds it. -/
def meet (slider : Slider μ α π) (call : SliderCall μ α) : Slider μ α π :=
  { slider with module := call.module slider.module, acquirePolicy := call.acquirePolicy }

variable [SliderModule μ] [SliderAcquirePolicy α] [SliderPublishPolicy π μ]

def perform (slider : Slider μ α π) (call : SliderCall μ α) : SliderResult × Slider μ α π :=
  (slider.meet call).processAvailable call.source.tryView call.upstream

def run (slider : Slider μ α π) (calls : List (SliderCall μ α)) : Slider μ α π :=
  calls.foldl (fun slider call => (slider.perform call).2) slider

theorem run_append (slider : Slider μ α π) (calls : List (SliderCall μ α))
    (call : SliderCall μ α) :
    slider.run (calls ++ [call]) = ((slider.run calls).perform call).2 := by
  simp only [run, List.foldl_append, List.foldl_cons, List.foldl_nil]

def runWatched (slider : Slider μ α π) (calls : List (SliderCall μ α)) :
    Slider (Watched μ) α π :=
  slider.watch.run (calls.map SliderCall.watched)

/-! ### The record changes nothing -/

section Record
variable {view : Position → AccessResult} {upstream : Position}

omit [SliderModule μ] [SliderAcquirePolicy α] [SliderPublishPolicy π μ] in
private theorem applyPublishDecision_unwatch (slider : Slider (Watched μ) α π)
    (decision : PublishDecision) :
    slider.unwatch.applyPublishDecision decision =
      Prod.map id unwatch (slider.applyPublishDecision decision) := by
  by_cases failed : decision = .failed
  · simp only [applyPublishDecision, if_pos failed, Prod.map, id]
  by_cases hold : decision = .hold
  · simp only [applyPublishDecision, if_neg failed, if_pos hold, Prod.map, id]
  simp only [applyPublishDecision, if_neg failed, if_neg hold, publish]
  by_cases backward : slider.current < slider.own
  · rw [if_pos backward, if_pos (show slider.unwatch.current < slider.unwatch.own from backward)]
    rfl
  · rw [if_neg backward, if_neg (show ¬slider.unwatch.current < slider.unwatch.own from backward)]
    rfl

omit [SliderModule μ] [SliderAcquirePolicy α] in
private theorem settleProcess_unwatch (slider : Slider (Watched μ) α π) :
    slider.unwatch.settleProcess = Prod.map id unwatch slider.settleProcess :=
  applyPublishDecision_unwatch
    { slider with
      publishPolicy := (SliderPublishPolicy.afterProcess slider.publishPolicy slider.module
        slider.current).2.1
      module := (SliderPublishPolicy.afterProcess slider.publishPolicy slider.module
        slider.current).2.2 } _

omit [SliderModule μ] [SliderAcquirePolicy α] in
private theorem settleRange_unwatch (slider : Slider (Watched μ) α π) (first : Position) :
    slider.unwatch.settleRange first = Prod.map id unwatch (slider.settleRange first) :=
  applyPublishDecision_unwatch
    { slider with
      publishPolicy := (SliderPublishPolicy.afterRange slider.publishPolicy slider.module first
        slider.current).2.1
      module := (SliderPublishPolicy.afterRange slider.publishPolicy slider.module first
        slider.current).2.2 } _

omit [SliderAcquirePolicy α] in
private theorem processLoop_unwatch (rounds : ℕ) (count : UInt64) (slider : Slider (Watched μ) α π) :
    processLoop view rounds count slider.unwatch =
      Prod.map id unwatch (processLoop view rounds count slider) := by
  induction rounds generalizing count slider with
  | zero => rfl
  | succ rounds ih =>
    have same : slider.unwatch.current = slider.current := rfl
    have answer : (SliderModule.process slider.unwatch.module (view slider.current).record).1 =
      (SliderModule.process slider.module (view slider.current).record).1 := rfl
    have passed : slider.unwatch.pass (view slider.current).record =
      (slider.pass (view slider.current).record).unwatch := rfl
    simp only [processLoop, same, answer, passed, settleProcess_unwatch, Prod.map_fst, Prod.map_snd,
      id, ih]
    split_ifs <;> rfl

private theorem processAvailable_unwatch (slider : Slider (Watched μ) α π) :
    slider.unwatch.processAvailable view upstream =
      Prod.map id unwatch (slider.processAvailable view upstream) := by
  have own : slider.unwatch.own = slider.own := rfl
  have current : slider.unwatch.current = slider.current := rfl
  have policy : slider.unwatch.acquirePolicy = slider.acquirePolicy := rfl
  simp only [processAvailable, own, current, policy, processLoop_unwatch, Prod.map_fst, Prod.map_snd,
    id]
  generalize processLoop view _ 0 slider = looped
  obtain ⟨outcome, next⟩ := looped
  cases outcome with
  | error => split_ifs <;> rfl
  | ok count =>
    simp only [settleRange_unwatch, Prod.map_fst, Prod.map_snd, id]
    split_ifs <;> rfl

private theorem perform_unwatch (slider : Slider (Watched μ) α π) (call : SliderCall μ α) :
    slider.unwatch.perform call = Prod.map id unwatch (slider.perform call.watched) :=
  processAvailable_unwatch (slider.meet call.watched)

theorem run_unwatch (slider : Slider (Watched μ) α π) (calls : List (SliderCall μ α)) :
    (slider.run (calls.map SliderCall.watched)).unwatch = slider.unwatch.run calls := by
  induction calls generalizing slider with
  | nil => rfl
  | cons call calls ih =>
    have first := perform_unwatch slider call
    simp only [run, List.map_cons, List.foldl_cons] at ih ⊢
    rw [ih, first]
    rfl

end Record

/-! ### One call -/

section Call
variable {slider : Slider μ α π} {view : Position → AccessResult} {upstream : Position}

/-- A call leaves the slider as it is, or it goes over a range that starts where the slider
stands and ends within the upstream. -/
theorem processAvailable_cases (slider : Slider μ α π) (view : Position → AccessResult)
    (upstream : Position) :
    (∃ status, slider.processAvailable view upstream =
      ({ status, current := slider.current }, slider) ∧ status ≠ .moduleFailed) ∨
    ∃ last looped, slider.own = slider.current ∧ slider.current < last ∧ last ≤ upstream ∧
      looped = processLoop view (last.toNat - slider.current.toNat) 0 slider ∧
      ((∃ result, looped.1 = .error result ∧
          slider.processAvailable view upstream = (result, looped.2)) ∨
        (slider.processAvailable view upstream).2 = (looped.2.settleRange slider.current).2 ∧
          (slider.processAvailable view upstream).1.status ≠ .moduleFailed) := by
  unfold processAvailable
  by_cases apart : slider.own ≠ slider.current
  · rw [if_pos apart]
    exact .inl ⟨_, rfl, nofun⟩
  by_cases regressed : upstream < slider.current
  · rw [if_neg apart, if_pos regressed]
    exact .inl ⟨_, rfl, nofun⟩
  rw [if_neg apart, if_neg regressed]
  dsimp only
  obtain ⟨begin, last⟩ :=
    SliderAcquirePolicy.acquire slider.acquirePolicy slider.current upstream
  simp only [Bool.or_eq_true, decide_eq_true_eq]
  by_cases invalid : (begin ≠ slider.current ∨ last < begin) ∨ last > upstream
  · rw [if_pos invalid]
    exact .inl ⟨_, rfl, nofun⟩
  rw [if_neg invalid]
  rw [not_or, not_or, ne_eq, not_not] at invalid
  obtain ⟨⟨rfl, forward⟩, within⟩ := invalid
  by_cases none : slider.current = last
  · rw [if_pos none]
    exact .inl ⟨_, rfl, nofun⟩
  rw [if_neg none]
  have above : slider.current < last :=
    UInt64.lt_of_le_of_ne (UInt64.not_lt.mp forward) none
  refine .inr ⟨last, _, not_not.mp apart, above, UInt64.not_lt.mp within, rfl, ?_⟩
  cases (processLoop view (last.toNat - slider.current.toNat) 0 slider).1 with
  | error result => exact .inl ⟨result, rfl, rfl⟩
  | ok count =>
    refine .inr ?_
    dsimp only
    split_ifs
    · exact ⟨rfl, nofun⟩
    · exact ⟨rfl, nofun⟩

omit [SliderAcquirePolicy α] in
/-- What a refused record and a turn of the loop keep, the loop keeps. -/
theorem processLoop_keeps {J : Slider μ α π → Prop} {rounds : ℕ} {count : UInt64}
    (refused : ∀ slider, J slider → (view slider.current).status = .ok →
      (SliderModule.process slider.module (view slider.current).record).1 = false →
      J { slider with
          module := (SliderModule.process slider.module (view slider.current).record).2 })
    (turned : ∀ slider, J slider → slider.current < upstream → (view slider.current).status = .ok →
      (SliderModule.process slider.module (view slider.current).record).1 = true →
      J (slider.pass (view slider.current).record).settleProcess.2)
    (start : J slider) (inside : slider.current.toNat + rounds ≤ upstream.toNat) :
    J (processLoop view rounds count slider).2 := by
  induction rounds generalizing slider count with
  | zero => exact start
  | succ rounds ih =>
    have wide := upstream.toNat_lt
    have below : slider.current < upstream := by
      rw [UInt64.lt_iff_toNat_lt]
      omega
    unfold processLoop
    by_cases seen : (view slider.current).status = .ok
    case neg =>
      dsimp only
      rw [if_pos seen]
      exact start
    simp only [seen, ne_eq, not_true_eq_false, if_false]
    cases taken : (SliderModule.process slider.module (view slider.current).record).1 with
    | false => exact refused slider start seen taken
    | true =>
      have kept := turned slider start below seen taken
      simp only [Bool.not_true, Bool.false_eq_true, if_false]
      cases settled : (slider.pass (view slider.current).record).settleProcess.1 with
      | false => exact kept
      | true =>
        simp only [Bool.not_true, Bool.false_eq_true, if_false]
        obtain ⟨own, publishPolicy, module, passed, -⟩ :=
          settleProcess_cases (slider.pass (view slider.current).record)
        refine ih kept ?_
        have next : (slider.pass (view slider.current).record).settleProcess.2.current =
            slider.current + 1 := by rw [passed]; rfl
        rw [next, toNat_onward (UInt64.lt_iff_toNat_lt.mp below) wide]
        omega

omit [SliderAcquirePolicy α] in
/-- A loop that the module stops has just offered it the current record. -/
theorem processLoop_refused {rounds : ℕ} {count : UInt64} {result : SliderResult}
    (looped : (processLoop view rounds count slider).1 = .error result)
    (failed : result.status = .moduleFailed) :
    ∃ stopped : Slider μ α π, (view stopped.current).status = .ok ∧
      (SliderModule.process stopped.module (view stopped.current).record).1 = false ∧
      (processLoop view rounds count slider).2 = { stopped with
        module := (SliderModule.process stopped.module (view stopped.current).record).2 } ∧
      result.current = stopped.current := by
  induction rounds generalizing slider count with
  | zero => cases looped
  | succ rounds ih =>
    unfold processLoop at looped ⊢
    by_cases seen : (view slider.current).status = .ok
    case neg =>
      dsimp only at looped
      rw [if_pos seen] at looped
      cases looped
      cases failed
    simp only [seen, ne_eq, not_true_eq_false, if_false] at looped ⊢
    cases taken : (SliderModule.process slider.module (view slider.current).record).1 with
    | false =>
      rw [taken] at looped
      cases looped
      exact ⟨slider, seen, taken, rfl, rfl⟩
    | true =>
      simp only [taken, Bool.not_true, Bool.false_eq_true, if_false] at looped ⊢
      cases settled : (slider.pass (view slider.current).record).settleProcess.1 with
      | false =>
        rw [settled] at looped
        cases looped
        cases failed
      | true =>
        simp only [settled, Bool.not_true, Bool.false_eq_true, if_false] at looped ⊢
        exact ih looped

/-- A slider apart from its own progress stays as it is. -/
theorem perform_mismatch (apart : slider.own ≠ slider.current) (call : SliderCall μ α) :
    slider.perform call =
      ({ status := .progressMismatch, current := slider.current }, slider.meet call) :=
  if_pos apart

/-- A range that does not start where the slider stands, runs backwards or ends beyond the
upstream. -/
def Invalid (slider : Slider μ α π) (call : SliderCall μ α) : Prop :=
  let range := SliderAcquirePolicy.acquire call.acquirePolicy slider.current call.upstream
  range.begin ≠ slider.current ∨ range.endPosition < range.begin ∨ call.upstream < range.endPosition

/-- Nothing is done over such a range. -/
theorem perform_invalid {call : SliderCall μ α} (invalid : slider.Invalid call) :
    (slider.perform call).2 = slider.meet call ∧
      (slider.own = slider.current → slider.current ≤ call.upstream →
        (slider.perform call).1.status = .invalidRange) := by
  unfold perform processAvailable
  by_cases apart : slider.own ≠ slider.current
  · rw [if_pos (show (slider.meet call).own ≠ (slider.meet call).current from apart)]
    exact ⟨rfl, fun same => absurd same apart⟩
  rw [if_neg (show ¬(slider.meet call).own ≠ (slider.meet call).current from apart)]
  by_cases regressed : call.upstream < slider.current
  · rw [if_pos (show call.upstream < (slider.meet call).current from regressed)]
    exact ⟨rfl, fun _ behind => absurd regressed (UInt64.not_lt.mpr behind)⟩
  rw [if_neg (show ¬call.upstream < (slider.meet call).current from regressed)]
  dsimp only
  rw [if_pos]
  · exact ⟨rfl, fun _ _ => rfl⟩
  · simp only [Bool.or_eq_true, decide_eq_true_eq, or_assoc]
    exact invalid

/-- A range of records begins with the current one, which is there. -/
structure Reaches (slider : Slider μ α π) (call : SliderCall μ α) : Prop where
  starts : (SliderAcquirePolicy.acquire call.acquirePolicy slider.current call.upstream).begin =
    slider.current
  forward : slider.current <
    (SliderAcquirePolicy.acquire call.acquirePolicy slider.current call.upstream).endPosition
  within : (SliderAcquirePolicy.acquire call.acquirePolicy slider.current
    call.upstream).endPosition ≤ call.upstream
  seen : (call.source.tryView slider.current).status = .ok

/-- Such a range is gone over. -/
theorem perform_reaches {call : SliderCall μ α} (published : slider.own = slider.current)
    (reaches : slider.Reaches call) : ∃ rounds : ℕ,
    slider.current.toNat + (rounds + 1) ≤ call.upstream.toNat ∧
    ((slider.perform call).2 =
        (processLoop call.source.tryView (rounds + 1) 0 (slider.meet call)).2 ∨
      (slider.perform call).2 = ((processLoop call.source.tryView (rounds + 1) 0
        (slider.meet call)).2.settleRange slider.current).2) := by
  obtain ⟨starts, forward, within, -⟩ := reaches
  have current : (slider.meet call).current = slider.current := rfl
  have policy : (slider.meet call).acquirePolicy = call.acquirePolicy := rfl
  have own : (slider.meet call).own = slider.current := published
  unfold perform processAvailable
  simp only [current, policy, own]
  generalize SliderAcquirePolicy.acquire call.acquirePolicy slider.current call.upstream = range
    at starts forward within ⊢
  obtain ⟨begin, last⟩ := range
  dsimp only at starts forward within ⊢
  subst starts
  have above := UInt64.lt_iff_toNat_lt.mp forward
  have bound := UInt64.le_iff_toNat_le.mp within
  have rounds : last.toNat - slider.current.toNat =
      last.toNat - slider.current.toNat - 1 + 1 := by omega
  have valid : ¬(decide (slider.current ≠ slider.current) || decide (last < slider.current) ||
      decide (last > call.upstream)) = true := by
    simp only [ne_eq, not_true_eq_false, decide_false, Bool.false_or, Bool.or_eq_true,
      decide_eq_true_eq, not_or]
    exact ⟨UInt64.not_lt.mpr (UInt64.le_of_lt forward), UInt64.not_lt.mpr within⟩
  rw [if_neg (not_not.mpr rfl),
    if_neg (UInt64.not_lt.mpr (UInt64.le_trans (UInt64.le_of_lt forward) within)), if_neg valid,
    if_neg (UInt64.ne_of_lt forward), rounds]
  refine ⟨last.toNat - slider.current.toNat - 1, by omega, ?_⟩
  cases (processLoop call.source.tryView (last.toNat - slider.current.toNat - 1 + 1) 0
    (slider.meet call)).1 with
  | error result => exact .inl rfl
  | ok count =>
    refine .inr ?_
    dsimp only
    split_ifs <;> rfl

end Call

/-! ### What a watched module is offered -/

section Watch
variable {slider origin : Slider (Watched μ) α π} {source : ViewSource} {upstream : Position}

omit [SliderModule μ] [SliderAcquirePolicy α] [SliderPublishPolicy π μ] in
/-- A decision of the publish policy leaves the record of offers and the position. -/
private theorem applyPublishDecision_watched (slider : Slider (Watched μ) α π)
    (decision : PublishDecision) :
    (slider.applyPublishDecision decision).2.module.offers = slider.module.offers ∧
      (slider.applyPublishDecision decision).2.current = slider.current ∧
      ((slider.applyPublishDecision decision).2.own = slider.own ∨
        (slider.applyPublishDecision decision).2.own = slider.current) := by
  obtain ⟨own, settled, moved⟩ := applyPublishDecision_cases slider decision
  rw [settled]
  exact ⟨rfl, rfl, moved.imp_right And.right⟩

omit [SliderModule μ] [SliderAcquirePolicy α] in
private theorem settleProcess_watched (slider : Slider (Watched μ) α π) :
    (slider.settleProcess.2).module.offers = slider.module.offers ∧
      slider.settleProcess.2.current = slider.current ∧
      (slider.settleProcess.2.own = slider.own ∨ slider.settleProcess.2.own = slider.current) :=
  applyPublishDecision_watched _ _

omit [SliderModule μ] [SliderAcquirePolicy α] in
private theorem settleRange_watched (slider : Slider (Watched μ) α π) (first : Position) :
    (slider.settleRange first).2.module.offers = slider.module.offers ∧
      (slider.settleRange first).2.current = slider.current ∧
      ((slider.settleRange first).2.own = slider.own ∨
        (slider.settleRange first).2.own = slider.current) :=
  applyPublishDecision_watched _ _

/-- Where a slider stands during a call, seen from where the call began. -/
structure Onward (origin : Slider (Watched μ) α π) (upstream : Position)
    (slider : Slider (Watched μ) α π) : Prop where
  offered : ∃ offers, slider.module.offers = origin.module.offers ++ offers ∧
    Trail origin.current.toNat offers slider.current.toNat
  behind : slider.own ≤ slider.current
  within : slider.current ≤ upstream

omit [SliderAcquirePolicy α] in
/-- The loop offers the positions in order from where the slider stands. -/
private theorem processLoop_onward {rounds : ℕ} {count : UInt64}
    (behind : slider.own ≤ slider.current)
    (inside : slider.current.toNat + rounds ≤ upstream.toNat) :
    Onward slider upstream (processLoop source.tryView rounds count slider).2 := by
  refine processLoop_keeps ?_ ?_ ⟨⟨[], (List.append_nil _).symm, .here _⟩, behind, ?_⟩ inside
  · intro stopped onward seen refused
    obtain ⟨offers, extended, trail⟩ := onward.offered
    refine ⟨⟨offers ++ [⟨stopped.current.toNat, false⟩], ?_, trail.append (.refused (.here _))⟩,
      onward.behind, onward.within⟩
    change stopped.module.offers ++ [⟨_, (SliderModule.process stopped.module _).1⟩] = _
    rw [extended, refused, source.addressed _ seen, List.append_assoc]
  · intro turned onward below seen taken
    obtain ⟨offers, extended, trail⟩ := onward.offered
    obtain ⟨kept, stands, moved⟩ :=
      settleProcess_watched (turned.pass (source.tryView turned.current).record)
    have next := toNat_onward (UInt64.lt_iff_toNat_lt.mp below) upstream.toNat_lt
    have current : (turned.pass (source.tryView turned.current).record).settleProcess.2.current =
      turned.current + 1 := stands
    refine ⟨⟨offers ++ [⟨turned.current.toNat, true⟩], ?_, ?_⟩, ?_, ?_⟩
    · rw [kept]
      change turned.module.offers ++ [⟨_, (SliderModule.process turned.module _).1⟩] = _
      rw [extended, taken, source.addressed _ seen, List.append_assoc]
    · rw [current, next]
      exact trail.append (.accepted (.here _))
    · rw [current, UInt64.le_iff_toNat_le, next]
      have behind := UInt64.le_iff_toNat_le.mp onward.behind
      rcases moved with same | published
      · rw [same]
        exact Nat.le_succ_of_le behind
      · rw [published]
        exact Nat.le_of_eq next
    · rw [current, UInt64.le_iff_toNat_le, next]
      exact UInt64.lt_iff_toNat_lt.mp below
  · rw [UInt64.le_iff_toNat_le]
    omega

/-- A whole call. -/
theorem perform_onward (behind : slider.own ≤ slider.current) (call : SliderCall μ α) :
    (∃ offers, (slider.perform call.watched).2.module.offers = slider.module.offers ++ offers ∧
      Trail slider.current.toNat offers (slider.perform call.watched).2.current.toNat) ∧
    (slider.perform call.watched).2.own ≤ (slider.perform call.watched).2.current ∧
    ((slider.perform call.watched).2.current = slider.current ∨
      (slider.perform call.watched).2.current ≤ call.upstream) := by
  rcases processAvailable_cases (slider.meet call.watched) call.source.tryView call.upstream with
    ⟨status, stays, -⟩ | ⟨last, looped, -, below, within, rfl, ended⟩
  · have same : slider.perform call.watched = _ := stays
    rw [same]
    exact ⟨⟨[], (List.append_nil _).symm, .here _⟩, behind, .inl rfl⟩
  have first := UInt64.lt_iff_toNat_lt.mp below
  have bound := UInt64.le_iff_toNat_le.mp within
  have onward := @processLoop_onward μ α π _ _ (slider.meet call.watched) call.source call.upstream
    (last.toNat - slider.current.toNat) 0 behind (by
      change slider.current.toNat + _ ≤ _
      change slider.current.toNat < _ at first
      omega)
  rcases ended with ⟨result, -, stopped⟩ | ⟨settled, -⟩
  · have same : (slider.perform call.watched).2 = _ := congrArg Prod.snd stopped
    rw [same]
    exact ⟨onward.offered, onward.behind, .inr onward.within⟩
  · have same : (slider.perform call.watched).2 = _ := settled
    obtain ⟨kept, stands, moved⟩ := settleRange_watched
      (processLoop call.source.tryView (last.toNat - slider.current.toNat) 0
        (slider.meet call.watched)).2 (slider.meet call.watched).current
    rw [same]
    refine ⟨?_, ?_, .inr ?_⟩
    · obtain ⟨offers, extended, trail⟩ := onward.offered
      exact ⟨offers, kept.trans extended, stands ▸ trail⟩
    · rcases moved with own | own
      · exact own ▸ stands ▸ onward.behind
      · exact own ▸ stands ▸ UInt64.le_refl _
    · exact stands ▸ onward.within

/-- A call that the module stops leaves the slider where the module refused. -/
theorem perform_refused {call : SliderCall μ α}
    (failed : (slider.perform call.watched).1.status = .moduleFailed) :
    (slider.perform call.watched).1.current = (slider.perform call.watched).2.current ∧
      (slider.perform call.watched).2.module.offers.getLast? =
        some ⟨(slider.perform call.watched).2.current.toNat, false⟩ := by
  rcases processAvailable_cases (slider.meet call.watched) call.source.tryView call.upstream with
    ⟨status, stays, other⟩ | ⟨last, looped, -, below, within, rfl, ended⟩
  · have same : slider.perform call.watched = _ := stays
    rw [same] at failed
    exact absurd failed other
  rcases ended with ⟨result, looped, stopped⟩ | ⟨-, other⟩
  · have same : slider.perform call.watched = _ := stopped
    rw [same] at failed ⊢
    obtain ⟨refusing, seen, refused, ended, current⟩ := processLoop_refused looped failed
    rw [ended]
    refine ⟨current, ?_⟩
    change (refusing.module.offers ++
      [(⟨_, (SliderModule.process refusing.module _).1⟩ : Offer)]).getLast? =
        some ⟨refusing.current.toNat, false⟩
    rw [refused, call.source.addressed _ seen, List.getLast?_concat]
  · exact absurd failed other

omit [SliderAcquirePolicy α] in
private theorem processLoop_offers {rounds : ℕ} {count : UInt64}
    (behind : slider.own ≤ slider.current)
    (seen : (source.tryView slider.current).status = .ok)
    (inside : slider.current.toNat + (rounds + 1) ≤ upstream.toNat) :
    ∃ accepted rest, (processLoop source.tryView (rounds + 1) count slider).2.module.offers =
      slider.module.offers ++ ⟨slider.current.toNat, accepted⟩ :: rest := by
  unfold processLoop
  simp only [seen, ne_eq, not_true_eq_false, if_false]
  cases taken :
    (SliderModule.process slider.module (source.tryView slider.current).record).1 with
  | false =>
    refine ⟨false, [], ?_⟩
    change slider.module.offers ++ [⟨_, (SliderModule.process slider.module _).1⟩] = _
    rw [taken, source.addressed _ seen]
  | true =>
    obtain ⟨kept, stands, moved⟩ :=
      settleProcess_watched (slider.pass (source.tryView slider.current).record)
    have offered : (slider.pass (source.tryView slider.current).record).settleProcess.2.module.offers =
        slider.module.offers ++ [⟨slider.current.toNat, true⟩] := by
      rw [kept]
      change slider.module.offers ++ [⟨_, (SliderModule.process slider.module _).1⟩] = _
      rw [taken, source.addressed _ seen]
    have below : slider.current.toNat < upstream.toNat := by omega
    have next := toNat_onward below upstream.toNat_lt
    simp only [Bool.not_true, Bool.false_eq_true, if_false]
    cases settled : (slider.pass (source.tryView slider.current).record).settleProcess.1 with
    | false => exact ⟨true, [], offered⟩
    | true =>
      simp only [Bool.not_true, Bool.false_eq_true, if_false]
      have onward := @processLoop_onward μ α π _ _
        (slider.pass (source.tryView slider.current).record).settleProcess.2 source upstream rounds
        (count + 1) ?_ ?_
      · obtain ⟨offers, extended, -⟩ := onward.offered
        refine ⟨true, offers, ?_⟩
        rw [extended, offered, List.append_assoc]
        rfl
      · rw [stands]
        change _ ≤ slider.current + 1
        rw [UInt64.le_iff_toNat_le] at behind ⊢
        rw [next]
        rcases moved with same | published
        · rw [same]
          exact Nat.le_succ_of_le behind
        · rw [published]
          exact Nat.le_of_eq next
      · rw [stands]
        change (slider.current + 1).toNat + rounds ≤ _
        omega

/-- A slider with its own progress in place offers the current position again. -/
theorem perform_offers {call : SliderCall μ α} (published : slider.own = slider.current)
    (reaches : slider.Reaches call.watched) :
    ∃ accepted rest, (slider.perform call.watched).2.module.offers =
      slider.module.offers ++ ⟨slider.current.toNat, accepted⟩ :: rest := by
  obtain ⟨rounds, inside, ended⟩ := perform_reaches published reaches
  obtain ⟨accepted, rest, offered⟩ := @processLoop_offers μ α π _ _ (slider.meet call.watched)
    call.source call.upstream rounds 0 (UInt64.le_of_eq published) reaches.seen inside
  refine ⟨accepted, rest, ?_⟩
  rcases ended with stopped | settled
  · rw [stopped]
    exact offered
  · rw [settled, (settleRange_watched _ _).1]
    exact offered

end Watch

/-! ### Runs -/

theorem runWatched_append (slider : Slider μ α π) (calls : List (SliderCall μ α))
    (call : SliderCall μ α) :
    slider.runWatched (calls ++ [call]) =
      ((slider.runWatched calls).perform call.watched).2 := by
  rw [runWatched, List.map_append, List.map_singleton, run_append, runWatched]

/-- The highest upstream position seen; a slider starts behind its upstream. -/
def observed (initial : Position) (calls : List (SliderCall μ α)) : ℕ :=
  calls.foldl (fun highest call => max highest call.upstream.toNat) initial.toNat

/-- What holds of a watched slider behind calls that began at a position. -/
structure Standing (initial : Position) (calls : List (SliderCall μ α))
    (slider : Slider (Watched μ) α π) : Prop where
  behind : slider.own ≤ slider.current
  within : slider.current.toNat ≤ observed initial calls
  trail : Trail initial.toNat slider.module.offers slider.current.toNat

theorem run_standing (initial : Position) (module : μ) (acquirePolicy : α) (publishPolicy : π)
    (calls : List (SliderCall μ α)) :
    Standing initial calls
      ((start initial module acquirePolicy publishPolicy).runWatched calls) := by
  induction calls using List.reverseRecOn with
  | nil => exact ⟨UInt64.le_refl _, Nat.le_refl _, .here _⟩
  | append_singleton calls call ih =>
    rw [runWatched_append]
    generalize (start initial module acquirePolicy publishPolicy).runWatched calls = slider at ih ⊢
    obtain ⟨⟨offers, extended, trail⟩, behind, within⟩ := perform_onward ih.behind call
    have highest : observed initial (calls ++ [call]) =
        max (observed initial calls) call.upstream.toNat := by
      simp only [observed, List.foldl_append, List.foldl_cons, List.foldl_nil]
    refine ⟨behind, ?_, extended ▸ ih.trail.append trail⟩
    rw [highest]
    rcases within with same | within
    · rw [same]
      exact Nat.le_trans ih.within (Nat.le_max_left _ _)
    · exact Nat.le_trans (UInt64.le_iff_toNat_le.mp within) (Nat.le_max_right _ _)

/-- What holds behind any calls, and of every call that may follow. -/
structure Mechanics (initial : Position) (calls : List (SliderCall μ α))
    (slider : Slider (Watched μ) α π) : Prop where
  behind : slider.own ≤ slider.current
  within : slider.current.toNat ≤ observed initial calls
  ordered : slider.module.offers.Pairwise Offer.Precedes
  once : (slider.module.offers.filter Offer.accepted).map Offer.position =
    List.range' initial.toNat (slider.current.toNat - initial.toNat)
  resumes : ∀ call : SliderCall μ α, ∃ offers,
    (slider.perform call.watched).2.module.offers = slider.module.offers ++ offers ∧
      ∀ offer, offers.head? = some offer → offer.position = slider.current.toNat
  refused : ∀ call : SliderCall μ α,
    (slider.perform call.watched).1.status = .moduleFailed →
      (slider.perform call.watched).1.current = (slider.perform call.watched).2.current ∧
      (slider.perform call.watched).2.module.offers.getLast? =
        some ⟨(slider.perform call.watched).2.current.toNat, false⟩
  apart : slider.own ≠ slider.current → ∀ (later : List (SliderCall μ α)) (call : SliderCall μ α),
    (slider.run (later.map SliderCall.watched)).own = slider.own ∧
    (slider.run (later.map SliderCall.watched)).current = slider.current ∧
    (slider.run (later.map SliderCall.watched)).module.offers = slider.module.offers ∧
    ((slider.run (later.map SliderCall.watched)).perform call.watched).1 =
      { status := .progressMismatch, current := slider.current }
  invalid : ∀ call : SliderCall μ α, slider.Invalid call.watched →
    (slider.perform call.watched).2 = slider.meet call.watched ∧
      (slider.own = slider.current → slider.current ≤ call.upstream →
        (slider.perform call.watched).1.status = .invalidRange)

private theorem run_apart {slider : Slider (Watched μ) α π} (apart : slider.own ≠ slider.current)
    (later : List (SliderCall μ α)) :
    (slider.run (later.map SliderCall.watched)).own = slider.own ∧
    (slider.run (later.map SliderCall.watched)).current = slider.current ∧
    (slider.run (later.map SliderCall.watched)).module.offers = slider.module.offers := by
  induction later using List.reverseRecOn with
  | nil => exact ⟨rfl, rfl, rfl⟩
  | append_singleton later call ih =>
    obtain ⟨own, current, offers⟩ := ih
    rw [List.map_append, List.map_singleton, run_append,
      perform_mismatch (own ▸ current ▸ apart) call.watched]
    exact ⟨own, current, offers⟩

theorem Standing.mechanics {initial : Position} {calls : List (SliderCall μ α)}
    {slider : Slider (Watched μ) α π} (standing : Standing initial calls slider) :
    Mechanics initial calls slider where
  behind := standing.behind
  within := standing.within
  ordered := standing.trail.ordered
  once := standing.trail.accepted_positions
  resumes call := by
    obtain ⟨⟨offers, extended, trail⟩, -⟩ := perform_onward standing.behind call
    exact ⟨offers, extended, fun offer leads => trail.head leads⟩
  refused _ := perform_refused
  apart apart later call := by
    obtain ⟨own, current, offers⟩ := run_apart apart later
    refine ⟨own, current, offers, ?_⟩
    rw [perform_mismatch (own ▸ current ▸ apart) call.watched, current]
  invalid _ := perform_invalid

/-! ### One position at a time -/

section OnePosition
variable {slider : Slider (Watched μ) α OnePositionPublish}

/-- The own progress is in place, and any range begins with the current position. -/
structure Retries (slider : Slider (Watched μ) α OnePositionPublish) : Prop where
  published : slider.own = slider.current
  offers : ∀ call : SliderCall μ α, slider.Reaches call.watched → ∃ accepted rest,
    (slider.perform call.watched).2.module.offers =
      slider.module.offers ++ ⟨slider.current.toNat, accepted⟩ :: rest

omit [SliderModule μ] [SliderAcquirePolicy α] [SliderPublishPolicy π μ] in
private theorem settleProcess_published (behind : slider.own ≤ slider.current) :
    slider.settleProcess.2.own = slider.settleProcess.2.current := by
  simp only [settleProcess, SliderPublishPolicy.afterProcess, applyPublishDecision, publish,
    reduceCtorEq, if_false, if_neg (UInt64.not_lt.mpr behind)]

omit [SliderPublishPolicy π μ] in
theorem perform_published (published : slider.own = slider.current) (call : SliderCall μ α) :
    (slider.perform call.watched).2.own = (slider.perform call.watched).2.current := by
  rcases processAvailable_cases (slider.meet call.watched) call.source.tryView call.upstream with
    ⟨status, stays, -⟩ | ⟨last, looped, -, below, within, rfl, ended⟩
  · have same : slider.perform call.watched = _ := stays
    rw [same]
    exact published
  have first := UInt64.lt_iff_toNat_lt.mp below
  have bound := UInt64.le_iff_toNat_le.mp within
  have kept := @processLoop_keeps (Watched μ) α OnePositionPublish _ _ (slider.meet call.watched)
    call.source.tryView call.upstream (fun slider => slider.own = slider.current)
    (last.toNat - slider.current.toNat) 0 (fun _ same _ _ => same)
    (fun turned same below _ _ => settleProcess_published (by
      have next := toNat_onward (UInt64.lt_iff_toNat_lt.mp below) call.upstream.toNat_lt
      change turned.own ≤ turned.current + 1
      rw [same, UInt64.le_iff_toNat_le, next]
      exact Nat.le_succ _)) published (by
      change slider.current.toNat + _ ≤ _
      change slider.current.toNat < _ at first
      omega)
  rcases ended with ⟨result, -, stopped⟩ | ⟨settled, -⟩
  · have same : (slider.perform call.watched).2 = _ := congrArg Prod.snd stopped
    rw [same]
    exact kept
  · have same : (slider.perform call.watched).2 = _ := settled
    rw [same]
    exact kept

omit [SliderPublishPolicy π μ] in
theorem run_retries (initial : Position) (module : μ) (acquirePolicy : α)
    (calls : List (SliderCall μ α)) :
    Retries ((start initial module acquirePolicy OnePositionPublish.policy).runWatched calls) := by
  have published :
      ((start initial module acquirePolicy OnePositionPublish.policy).runWatched calls).own =
      ((start initial module acquirePolicy OnePositionPublish.policy).runWatched calls).current := by
    induction calls using List.reverseRecOn with
    | nil => rfl
    | append_singleton calls call ih =>
      rw [runWatched_append]
      exact perform_published ih call
  exact ⟨published, fun _ => perform_offers published⟩

end OnePosition

end Slider

/-- Over any module and any policies a slider stays between its own progress and its upstream,
offers every position in order and until it is accepted, stops where the module refuses, and
stays where its own progress has been left behind; with every record published at once its
own progress is where it stands, so that a refused position is offered again. -/
theorem slider_mechanics {μ α π : Type} [SliderModule μ] [SliderAcquirePolicy α]
    [SliderPublishPolicy π μ] (initial : Position) (module : μ) (acquirePolicy : α)
    (publishPolicy : π) (calls : List (SliderCall μ α)) :
    ((Slider.start initial module acquirePolicy publishPolicy).runWatched calls).unwatch =
      (Slider.start initial module acquirePolicy publishPolicy).run calls ∧
    ((Slider.start initial module acquirePolicy publishPolicy).runWatched calls).Mechanics
      initial calls ∧
    ((Slider.start initial module acquirePolicy OnePositionPublish.policy).runWatched calls).Retries := by
  refine ⟨Slider.run_unwatch _ calls, ?_, Slider.run_retries initial module acquirePolicy calls⟩
  exact (Slider.run_standing initial module acquirePolicy publishPolicy calls).mechanics

/-- A string of two records. -/
def twoRecords : WalCore :=
  (((({} : WalCore).open_ { payloadSize := 1, capacity := 2 } true).2.tryPublish [7]).2.tryPublish
    [9]).2

/-- The second call finds an upstream that is ahead of the string. -/
def twoRecordCalls : List (SliderCall NoOpModule AvailableRangeAcquire) :=
  [{ source := twoRecords.viewSource, upstream := 1, acquirePolicy := .policy, module := id },
    { source := twoRecords.viewSource, upstream := 3, acquirePolicy := .policy, module := id }]

/-- Both records are offered once, and no view takes the slider further. -/
theorem slider_mechanics_two_records :
    ((Slider.start 0 NoOpModule.mk AvailableRangeAcquire.policy
      OnePositionPublish.policy).runWatched twoRecordCalls).Mechanics 0 twoRecordCalls ∧
    ((Slider.start 0 NoOpModule.mk AvailableRangeAcquire.policy
      OnePositionPublish.policy).runWatched twoRecordCalls).current = 2 ∧
    ((Slider.start 0 NoOpModule.mk AvailableRangeAcquire.policy
      OnePositionPublish.policy).runWatched twoRecordCalls).module.offers =
        [⟨0, true⟩, ⟨1, true⟩] := by
  obtain ⟨-, mechanics, -⟩ := slider_mechanics 0 NoOpModule.mk AvailableRangeAcquire.policy
    OnePositionPublish.policy twoRecordCalls
  exact ⟨mechanics, by decide, by decide⟩

end Fexma.Wal
