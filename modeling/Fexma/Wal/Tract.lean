import Fexma.Wal.Core
import Fexma.Wal.Persistence

/-! A linear tract: a chain of stages over one log string, each behind the progress of the stage
in front of it. Whatever the schedule, no stage overtakes the one in front of it and no slot is
used again before the last stage has passed it, so every module sees the whole string. -/
namespace Fexma.Wal

/-- A slider with its module and its policies. -/
structure TractStage where
  {μ α π : Type}
  [module : SliderModule μ]
  [acquire : SliderAcquirePolicy α]
  [publish : SliderPublishPolicy π μ]
  [lawful : LawfulAcquire α]
  slider : Slider μ α π

attribute [instance] TractStage.module TractStage.acquire TractStage.publish TractStage.lawful

namespace TractStage

variable (stage : TractStage)

def processAvailable (view : Position → AccessResult) (upstream : Position) :
    SliderResult × TractStage :=
  ((stage.slider.processAvailable view upstream).1,
    { stage with slider := (stage.slider.processAvailable view upstream).2 })

/-- Between two calls the policy and the module of a stage may be changed. -/
def adjust (policy : stage.α) (module : stage.μ) : TractStage :=
  { stage with slider := { stage.slider with acquirePolicy := policy, module } }

end TractStage

/-- `published` records the accepted payloads; no operation reads it. -/
structure Tract where
  core : WalCore
  stages : List TractStage
  published : List (List UInt8) := []

/-- One step of a schedule. -/
inductive TractAction where
  | tryPublish (payload : List UInt8)
  | processAvailable (index : ℕ)
  | reclaim (endPosition : Position)
  | adjust (index : ℕ) (policy : (stage : TractStage) → stage.α)
    (module : (stage : TractStage) → stage.μ)

namespace Tract

/-- A call of the stage at an index, whose upstream is the progress of the stage in front. -/
def processAt (view : Position → AccessResult) :
    Position → ℕ → List TractStage → Option SliderResult × List TractStage
  | _, _, [] => (none, [])
  | upstream, 0, stage :: rest =>
    (some (stage.processAvailable view upstream).1, (stage.processAvailable view upstream).2 :: rest)
  | _, index + 1, stage :: rest =>
    ((processAt view stage.slider.own index rest).1,
      stage :: (processAt view stage.slider.own index rest).2)

/-- The progress of the last stage. -/
def lastProgress : Position → List TractStage → Position
  | upstream, [] => upstream
  | _, stage :: rest => lastProgress stage.slider.own rest

def perform (tract : Tract) : TractAction → Tract
  | .tryPublish payload =>
    { tract with
      core := (tract.core.tryPublish payload).2
      published :=
        if (tract.core.tryPublish payload).1.status = .ok then tract.published ++ [payload]
        else tract.published }
  | .processAvailable index =>
    { tract with stages := (processAt tract.core.tryView tract.core.head index tract.stages).2 }
  | .reclaim endPosition => { tract with core := (tract.core.reclaim endPosition).2 }
  | .adjust index policy module =>
    { tract with
      stages := tract.stages.modify index fun stage => stage.adjust (policy stage) (module stage) }

/-- The owner reclaims between the tail and the progress of the last stage. -/
def Permits (tract : Tract) : TractAction → Prop
  | .reclaim endPosition =>
    tract.core.tail ≤ endPosition ∧ endPosition ≤ lastProgress tract.core.head tract.stages
  | _ => True

/-- What a schedule makes of a tract. -/
inductive Reaches (start : Tract) : Tract → Prop
  | start : Reaches start start
  | step {tract : Tract} (reached : Reaches start tract) (action : TractAction)
    (permitted : tract.Permits action) : Reaches start (tract.perform action)

end Tract

/-! ### One stage -/

section Stage
variable {μ α π : Type} {records : List RecordView} {upper : ℕ} {slider : Slider μ α π}
variable {view : Position → AccessResult} {upstream : Position}

/-- A stage behind its upstream has processed the records below its position, and nothing
else. -/
structure Slider.Follows (records : List RecordView) (upper : ℕ) (slider : Slider μ α π) : Prop where
  behind : slider.own ≤ slider.current
  inside : slider.current.toNat ≤ upper
  processed : slider.processed = records.take slider.current.toNat

/-- No answer that speaks of a frontier out of place. -/
structure SliderResult.InPlace (result : SliderResult) : Prop where
  seen : result.status ≠ .viewUnavailable
  forward : result.status ≠ .upstreamRegression
  range : result.status ≠ .invalidRange

theorem Slider.Follows.mono {upper' : ℕ} (follows : slider.Follows records upper)
    (above : upper ≤ upper') : slider.Follows records upper' :=
  ⟨follows.behind, Nat.le_trans follows.inside above, follows.processed⟩

/-- Records that come behind the upstream change nothing. -/
theorem Slider.Follows.append {more : List RecordView} (follows : slider.Follows records upper)
    (inside : upper ≤ records.length) : slider.Follows (records ++ more) upper := by
  refine ⟨follows.behind, follows.inside, ?_⟩
  rw [List.take_append_of_le_length (Nat.le_trans follows.inside inside)]
  exact follows.processed

/-- The progress that a stage publishes is never ahead of its position. -/
private theorem Slider.Follows.settled {own : Position} {publishPolicy : π} {module : μ}
    (follows : slider.Follows records upper)
    (moved : own = slider.own ∨ slider.own ≤ slider.current ∧ own = slider.current) :
    Slider.Follows records upper { slider with own, publishPolicy, module } ∧ slider.own ≤ own := by
  rcases moved with rfl | ⟨behind, rfl⟩
  · exact ⟨⟨follows.behind, follows.inside, follows.processed⟩, UInt64.le_refl _⟩
  · exact ⟨⟨UInt64.le_refl _, follows.inside, follows.processed⟩, behind⟩

variable [SliderModule μ] [SliderAcquirePolicy α] [SliderPublishPolicy π μ]

omit [SliderAcquirePolicy α] [SliderPublishPolicy π μ] in
/-- A record that the module has processed is the next of the string. -/
private theorem Slider.Follows.pass (follows : slider.Follows records upper)
    (shows_records : Shows view records slider.own.toNat) (below : slider.current.toNat < upper)
    (inside : upper ≤ records.length) (fits : upper < 2 ^ 64) :
    (view slider.current).status = .ok ∧
      (slider.pass (view slider.current).record).Follows records upper := by
  have here := List.getElem?_eq_getElem (Nat.lt_of_lt_of_le below inside)
  have seen := shows_records slider.current (UInt64.le_iff_toNat_le.mp follows.behind) _ here
  have next := toNat_onward below fits
  refine ⟨congrArg AccessResult.status seen, ?_, ?_, ?_⟩
  · change slider.own ≤ slider.current + 1
    rw [UInt64.le_iff_toNat_le, next]
    exact Nat.le_succ_of_le (UInt64.le_iff_toNat_le.mp follows.behind)
  · change (slider.current + 1).toNat ≤ upper
    rwa [next]
  · change slider.processed ++ [(view slider.current).record] = records.take (slider.current + 1).toNat
    rw [next, List.take_add_one, here, seen, follows.processed]
    rfl

omit [SliderAcquirePolicy α] in
/-- The rule of a stage of a tract. -/
theorem Slider.Follows.turns (shows_records : Shows view records slider.own.toNat)
    (inside : upstream.toNat ≤ records.length) :
    Slider.Turns view upstream
      (fun next : Slider μ α π => next.Follows records upstream.toNat ∧ slider.own ≤ next.own)
      (fun next => next.Follows records upstream.toNat ∧ slider.own ≤ next.own) := by
  have later {next : Slider μ α π} (above : slider.own ≤ next.own) :
      Shows view records next.own.toNat := fun position behind =>
    shows_records position (Nat.le_trans (UInt64.le_iff_toNat_le.mp above) behind)
  have passes {next : Slider μ α π}
      (kept : next.Follows records upstream.toNat ∧ slider.own ≤ next.own)
      (below : next.current < upstream) :=
    kept.1.pass (later kept.2) (UInt64.lt_iff_toNat_lt.mp below) inside upstream.toNat_lt
  have settles {next : Slider μ α π}
      (kept : next.Follows records upstream.toNat ∧ slider.own ≤ next.own)
      (below : next.current < upstream) :
      (next.pass (view next.current).record).settleProcess.2.Follows records upstream.toNat ∧
        slider.own ≤ (next.pass (view next.current).record).settleProcess.2.own := by
    obtain ⟨own, publishPolicy, module, settled, moved⟩ :=
      Slider.settleProcess_cases (next.pass (view next.current).record)
    obtain ⟨follows, above⟩ := (passes kept below).2.settled moved
    rw [settled]
    exact ⟨follows, UInt64.le_trans kept.2 above⟩
  constructor
  case seen => exact fun next kept below => (passes kept below).1
  case refused =>
    intro next kept _ _
    exact ⟨⟨kept.1.behind, kept.1.inside, kept.1.processed⟩, kept.2⟩
  case turned => exact fun next kept below _ _ => settles kept below
  case stopped => exact fun next kept below _ _ => settles kept below

/-- What a call of a stage comes to. -/
theorem Slider.Follows.processAvailable [LawfulAcquire α]
    (follows : slider.Follows records upstream.toNat)
    (shows_records : Shows view records slider.own.toNat)
    (inside : upstream.toNat ≤ records.length) :
    (slider.processAvailable view upstream).2.Follows records upstream.toNat ∧
      slider.own ≤ (slider.processAvailable view upstream).2.own ∧
      (slider.processAvailable view upstream).1.InPlace := by
  have settles (next : Slider μ α π)
      (kept : next.Follows records upstream.toNat ∧ slider.own ≤ next.own) :
      (next.settleRange slider.current).2.Follows records upstream.toNat ∧
        slider.own ≤ (next.settleRange slider.current).2.own := by
    obtain ⟨own, publishPolicy, module, settled, moved⟩ :=
      Slider.settleRange_cases next slider.current
    obtain ⟨follows', above⟩ := kept.1.settled moved
    rw [settled]
    exact ⟨follows', UInt64.le_trans kept.2 above⟩
  have passes : Slider.Passes slider _ _
      (fun next => next.Follows records upstream.toNat ∧ slider.own ≤ next.own)
      (slider.processAvailable view upstream) :=
    (Slider.Follows.turns shows_records inside).passes (fun _ => ⟨follows, UInt64.le_refl _⟩)
      (UInt64.le_iff_toNat_le.mpr follows.inside) (fun next kept _ _ _ => settles next kept)
      (fun next kept _ _ _ => settles next kept)
  generalize slider.processAvailable view upstream = answer at passes
  cases passes with
  | mismatch apart => exact ⟨follows, UInt64.le_refl _, nofun, nofun, nofun⟩
  | empty => exact ⟨follows, UInt64.le_refl _, nofun, nofun, nofun⟩
  | processed reached advance some_records =>
    exact ⟨reached.1, reached.2, nofun, nofun, nofun⟩
  | stopped failed stops current =>
    refine ⟨failed.1, failed.2, ?_⟩
    rcases stops with status | status <;> exact ⟨status ▸ nofun, status ▸ nofun, status ▸ nofun⟩

end Stage

/-! ### The chain -/

namespace Tract

/-- Every stage follows the progress of the stage in front of it, down to a lower frontier. -/
def Chain (records : List RecordView) (lower : ℕ) : ℕ → List TractStage → Prop
  | upper, [] => lower ≤ upper
  | upper, stage :: rest =>
    stage.slider.Follows records upper ∧ Chain records lower stage.slider.own.toNat rest

variable {records more : List RecordView} {lower lower' upper upper' index : ℕ}
variable {stages : List TractStage} {view : Position → AccessResult} {upstream : Position}

private theorem own_le {stage : TractStage} (follows : stage.slider.Follows records upper) :
    stage.slider.own.toNat ≤ upper :=
  Nat.le_trans (UInt64.le_iff_toNat_le.mp follows.behind) follows.inside

theorem Chain.ordered (chain : Chain records lower upper stages) : lower ≤ upper := by
  induction stages generalizing upper with
  | nil => exact chain
  | cons stage rest ih => exact Nat.le_trans (ih chain.2) (own_le chain.1)

theorem Chain.mono (chain : Chain records lower upper stages) (above : upper ≤ upper') :
    Chain records lower upper' stages := by
  cases stages with
  | nil => exact Nat.le_trans chain above
  | cons stage rest => exact ⟨chain.1.mono above, chain.2⟩

theorem Chain.append (chain : Chain records lower upper stages) (inside : upper ≤ records.length) :
    Chain (records ++ more) lower upper stages := by
  induction stages generalizing upper with
  | nil => exact chain
  | cons stage rest ih =>
    exact ⟨chain.1.append inside, ih chain.2 (Nat.le_trans (own_le chain.1) inside)⟩

/-- The lower frontier may move up to the progress of the last stage. -/
theorem Chain.raise (chain : Chain records lower upstream.toNat stages)
    (behind : lower' ≤ (lastProgress upstream stages).toNat) :
    Chain records lower' upstream.toNat stages := by
  induction stages generalizing upstream with
  | nil => exact behind
  | cons stage rest ih => exact ⟨chain.1, ih chain.2 behind⟩

theorem Chain.lastProgress_le (chain : Chain records lower upstream.toNat stages) :
    (lastProgress upstream stages).toNat ≤ upstream.toNat := by
  induction stages generalizing upstream with
  | nil => exact Nat.le_refl _
  | cons stage rest ih => exact Nat.le_trans (ih chain.2) (own_le chain.1)

theorem Chain.adjust {policy : (stage : TractStage) → stage.α}
    {module : (stage : TractStage) → stage.μ} (chain : Chain records lower upper stages) :
    Chain records lower upper
      (stages.modify index fun stage => stage.adjust (policy stage) (module stage)) := by
  induction stages generalizing upper index with
  | nil =>
    rw [List.modify_nil]
    exact chain
  | cons stage rest ih =>
    obtain ⟨follows, behind⟩ := chain
    cases index with
    | zero => exact ⟨⟨follows.behind, follows.inside, follows.processed⟩, behind⟩
    | succ index => exact ⟨follows, ih behind⟩

/-- A call of one stage keeps the chain, and it finds its frontiers in place. -/
theorem Chain.processAt (chain : Chain records lower upstream.toNat stages)
    (shows_records : Shows view records lower) (inside : upstream.toNat ≤ records.length) :
    Chain records lower upstream.toNat (processAt view upstream index stages).2 ∧
      ∀ result, (processAt view upstream index stages).1 = some result → result.InPlace := by
  induction stages generalizing upstream index with
  | nil =>
    rw [Tract.processAt]
    exact ⟨chain, nofun⟩
  | cons stage rest ih =>
    obtain ⟨follows, behind⟩ := chain
    cases index with
    | zero =>
      have seen : Shows view records stage.slider.own.toNat := fun position above =>
        shows_records position (Nat.le_trans behind.ordered above)
      obtain ⟨follows', above, in_place⟩ := follows.processAvailable seen inside
      refine ⟨⟨follows', behind.mono (UInt64.le_iff_toNat_le.mp above)⟩, fun result answer => ?_⟩
      cases answer
      exact in_place
    | succ index =>
      obtain ⟨chain', in_place⟩ := @ih index stage.slider.own behind
        (Nat.le_trans (own_le follows) inside)
      exact ⟨⟨follows, chain'⟩, in_place⟩

/-- The frontiers descend from the head over the stages to the tail. -/
theorem Chain.descends (chain : Chain records lower upper stages) :
    (upper :: (stages.map (·.slider.own.toNat) ++ [lower])).Pairwise (· ≥ ·) := by
  induction stages generalizing upper with
  | nil => simpa using (show lower ≤ upper from chain)
  | cons stage rest ih =>
    obtain ⟨follows, behind⟩ := chain
    have rest_descends := ih behind
    refine List.pairwise_cons.mpr ⟨fun frontier member => ?_, rest_descends⟩
    have below := own_le follows
    rcases List.mem_cons.mp member with rfl | member
    · exact below
    · exact Nat.le_trans ((List.pairwise_cons.mp rest_descends).1 frontier member) below

theorem Chain.processed (chain : Chain records lower upper stages) :
    ∀ stage ∈ stages, stage.slider.processed = records.take stage.slider.current.toNat := by
  induction stages generalizing upper with
  | nil => exact nofun
  | cons stage rest ih => exact List.forall_mem_cons.mpr ⟨chain.1.processed, ih chain.2⟩

/-! ### Runs -/

/-- The ring holds the published string and the stages follow one another over it. -/
structure Sound (config : WalRuntimeConfig) (tract : Tract) : Prop where
  core : tract.core.Holds tract.published
  isOpen : tract.core.isOpen = true
  configured : tract.core.config = config
  chain : Chain (stringRecords config.firstSequence tract.published) tract.core.tail.toNat
    tract.core.head.toNat tract.stages

variable {config : WalRuntimeConfig} {tract : Tract} {published : List (List UInt8)}

theorem Sound.inside (sound : Sound config tract) : tract.core.head.toNat ≤
    (stringRecords config.firstSequence tract.published).length := by
  rw [length_stringRecords, sound.core.head]

theorem Sound.shows (sound : Sound config tract) : Shows tract.core.tryView
    (stringRecords config.firstSequence tract.published) tract.core.tail.toNat := by
  have seen := sound.core.shows sound.isOpen
  rwa [sound.configured] at seen

theorem Sound.tryPublish (sound : Sound config tract) (payload : List UInt8) :
    Sound config (tract.perform (.tryPublish payload)) := by
  unfold perform
  dsimp only
  rcases WalCore.tryPublish_cases tract.core payload with
    ⟨status, exhausted, refused, answer⟩ | ⟨opened, size, room, more, answer⟩
  · rw [answer]
    dsimp only
    rw [if_neg refused]
    exact ⟨sound.core.exhausted exhausted, sound.isOpen, sound.configured, sound.chain⟩
  · rw [answer]
    dsimp only
    rw [if_pos rfl]
    have holds := sound.core.push size room more
    have grown : tract.core.head.toNat ≤ (tract.core.push payload).head.toNat := by
      rw [sound.core.head, holds.head, List.length_append]
      exact Nat.le_add_right _ _
    refine ⟨holds, opened, sound.configured, ?_⟩
    change Chain (stringRecords config.firstSequence (tract.published ++ [payload])) _ _ _
    rw [stringRecords, List.mapIdx_concat]
    exact (sound.chain.append sound.inside).mono grown

theorem Sound.perform (sound : Sound config tract) {action : TractAction}
    (permitted : tract.Permits action) : Sound config (tract.perform action) := by
  cases action with
  | tryPublish payload => exact sound.tryPublish payload
  | processAvailable index =>
    exact { sound with chain := (sound.chain.processAt sound.shows sound.inside).1 }
  | reclaim endPosition =>
    obtain ⟨above, behind⟩ := permitted
    rw [UInt64.le_iff_toNat_le] at above behind
    have inside : endPosition.toNat ≤ tract.published.length := by
      rw [← sound.core.head]
      exact Nat.le_trans behind sound.chain.lastProgress_le
    obtain ⟨answer, holds⟩ := sound.core.reclaim sound.isOpen above inside
    unfold Tract.perform
    dsimp only
    rw [answer]
    exact ⟨holds, sound.isOpen, sound.configured, sound.chain.raise behind⟩
  | adjust index policy module => exact { sound with chain := sound.chain.adjust }

/-- A ring that has just been opened, and stages that have processed nothing. -/
theorem Sound.start {closed : WalCore} {allocated : Bool}
    (opened : (closed.open_ config allocated).1 = .ok) {stages : List TractStage}
    (fresh : ∀ stage ∈ stages, stage.slider.own = 0 ∧ stage.slider.current = 0 ∧
      stage.slider.processed = []) :
    Sound config { core := (closed.open_ config allocated).2, stages } := by
  obtain ⟨holds, configured, open_core, tail, -⟩ := WalCore.open_cases opened
  refine ⟨holds, open_core, configured, ?_⟩
  change Chain [] (closed.open_ config allocated).2.tail.toNat
    (closed.open_ config allocated).2.head.toNat stages
  rw [tail, holds.head]
  clear holds configured open_core tail opened
  induction stages with
  | nil => exact Nat.le_refl 0
  | cons stage rest ih =>
    obtain ⟨⟨own, current, processed⟩, fresh⟩ := List.forall_mem_cons.mp fresh
    refine ⟨⟨?_, ?_, ?_⟩, ?_⟩
    · rw [own, current]
      exact UInt64.le_refl _
    · rw [current]
      exact Nat.le_refl _
    · rw [processed, current]
      rfl
    · rw [own]
      exact ih fresh

theorem Reaches.sound {start : Tract} (reached : Reaches start tract)
    (begins : Sound config start) : Sound config tract := by
  induction reached with
  | start => exact begins
  | step reached action permitted ih => exact ih.perform permitted

/-- What is promised of a tract. -/
structure Safe (config : WalRuntimeConfig) (tract : Tract) : Prop where
  frontiers : (tract.core.head.toNat :: (tract.stages.map (·.slider.own.toNat) ++
    [tract.core.tail.toNat])).Pairwise (· ≥ ·)
  window : tract.core.head.toNat ≤ tract.core.tail.toNat + config.capacity.toNat
  published : tract.core.head.toNat = tract.published.length
  in_place : ∀ index result,
    (Tract.processAt tract.core.tryView tract.core.head index tract.stages).1 = some result →
      result.InPlace
  processed : ∀ stage ∈ tract.stages, stage.slider.processed =
    (stringRecords config.firstSequence tract.published).take stage.slider.current.toNat

/-- Any number of stages under any schedule: the frontiers are in order, no stage misses a
record, and every module processes a prefix of the published string, record by record. -/
theorem tract_safe {closed : WalCore} {allocated : Bool}
    (opened : (closed.open_ config allocated).1 = .ok) {stages : List TractStage}
    (fresh : ∀ stage ∈ stages, stage.slider.own = 0 ∧ stage.slider.current = 0 ∧
      stage.slider.processed = [])
    (reached : Reaches { core := (closed.open_ config allocated).2, stages } tract) :
    Safe config tract := by
  have sound := reached.sound (.start opened fresh)
  constructor
  case frontiers => exact sound.chain.descends
  case window =>
    rw [sound.core.head, ← sound.configured]
    exact sound.core.window
  case published => exact sound.core.head
  case in_place =>
    intro index result answer
    exact (sound.chain.processAt sound.shows sound.inside).2 result answer
  case processed => exact sound.chain.processed

/-- A ring of one slot under two stages that accept every record. -/
def oneSlotRing : WalRuntimeConfig := { payloadSize := 1, capacity := 1, alignment := 8 }

def noOpStages : List TractStage :=
  [{ slider :=
      { module := NoOpModule.mk, acquirePolicy := BoundedRangeAcquire.mk 1
        publishPolicy := OnePositionPublish.policy } },
    { slider :=
      { module := NoOpModule.mk, acquirePolicy := AvailableRangeAcquire.policy
        publishPolicy := OnePositionPublish.policy } }]

/-- The slot of the first record is used again behind both stages. -/
theorem tract_safe_slot_reused : ∃ tract,
    Reaches { core := (({} : WalCore).open_ oneSlotRing true).2, stages := noOpStages } tract ∧
      Safe oneSlotRing tract ∧ tract.core.tail = 1 ∧ tract.core.head = 2 ∧
      tract.stages.map (·.slider.processed) = [[⟨0, 1, [7]⟩], [⟨0, 1, [7]⟩]] := by
  have opened : (({} : WalCore).open_ oneSlotRing true).1 = .ok := by decide
  have fresh : ∀ stage ∈ noOpStages, stage.slider.own = 0 ∧ stage.slider.current = 0 ∧
      stage.slider.processed = [] := by
    simp [noOpStages]
  have started : Reaches { core := (({} : WalCore).open_ oneSlotRing true).2, stages := noOpStages }
      { core := (({} : WalCore).open_ oneSlotRing true).2, stages := noOpStages } := .start
  have passed := ((started.step (.tryPublish [7]) trivial).step (.processAvailable 0) trivial).step
    (.processAvailable 1) trivial
  have reused := (passed.step (.reclaim 1) ⟨by decide, by decide⟩).step (.tryPublish [9]) trivial
  exact ⟨_, reused, tract_safe opened fresh reused, by decide, by decide, by decide⟩

end Tract

end Fexma.Wal
