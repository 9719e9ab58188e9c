import Fexma.SnapshotDemo.RecordString

/-! A stage of the demo over the record string: its module stands behind the prefix that the
slider has passed, and its slot holds the capture of the first snapshot position that has
not been released. -/
namespace Fexma.SnapshotDemo

open Wal RecordString

variable {β α : Type} [Participant β] {text : RecordString} {floor current : ℕ}

abbrev Stage (β α : Type) := Slider (StatefulModule β) α OnePositionPublish

/-- What the slot of a module holds when all snapshot positions below the floor have been
released and the module stands behind a prefix. -/
inductive Slot (text : RecordString) (floor current : ℕ) : Option (Capture β) → Prop
  | free (clear : ∀ index, floor ≤ index → index < current → ¬ text.IsSnapshot index) :
    Slot text floor current none
  | full {index : ℕ} (next : Next text floor index) (behind : index < current)
    (clear : ∀ later, index < later → later < current → ¬ text.IsSnapshot later) :
    Slot text floor current (some (text.captureAt β index))

structure Standing (text : RecordString) (floor : ℕ) (stage : Stage β α) : Prop where
  state : stage.module.state = text.stateAfter β stage.current.toNat
  published : stage.own = stage.current
  inside : stage.current.toNat ≤ text.length
  reached : floor ≤ stage.current.toNat
  slot : Slot text floor stage.current.toNat stage.module.capture

/-- A stage in front of a snapshot record that it cannot take yet. -/
structure Refused (text : RecordString) (floor : ℕ) (stage : Stage β α) : Prop where
  standing : Standing text floor stage
  snapshot : text.IsSnapshot stage.current.toNat
  occupied : stage.module.capture.isSome

/-! ### The slot -/

omit [Participant β] in
private theorem ofNat_add_one (count : ℕ) : UInt64.ofNat count + 1 = .ofNat (count + 1) :=
  (UInt64.ofNat_add count 1).symm

/-- A capture stays until it is released: the slot of a stage that has gone on holds the
same capture. -/
theorem Slot.kept {later : ℕ} {slot other : Option (Capture β)} {capture : Capture β}
    (before : Slot text floor current slot) (behind : Slot text floor later other)
    (onward : current ≤ later) (full : slot = some capture) : other = some capture := by
  cases before with
  | free clear => cases full
  | @full index next passed clear =>
    cases full
    cases behind with
    | free clear => exact absurd next.snapshot (clear index next.above (Nat.lt_of_lt_of_le passed onward))
    | @full other next' passed' clear' =>
      rw [next.unique next']

/-- A release moves the floor above the released position. -/
theorem Slot.released {index : ℕ} {slot : Option (Capture β)} {capture : Capture β}
    (before : Slot text floor current slot) (full : slot = some capture)
    (next : Next text floor index) : @Slot β _ text (index + 1) current none ∧ index < current := by
  cases before with
  | free clear => cases full
  | @full other next' passed clear =>
    obtain rfl := next.unique next'
    exact ⟨.free fun later above => clear later above, passed⟩

omit [Participant β] in
theorem advance_stateAfter [Participant β] {module : StatefulModule β}
    (state : module.state = text.stateAfter β current) :
    module.advance (text.recordAt current) = text.stateAfter β (current + 1) := by
  rw [StatefulModule.advance, state]
  simp only [stateAfter, bodyAfter, ofNat_add_one]

theorem captured_captureAt {module : StatefulModule β} (inside : current < text.length)
    (state : module.state = text.stateAfter β current) :
    module.captured (text.recordAt current) = text.captureAt β current := by
  rw [StatefulModule.captured, advance_stateAfter state, state, recordAt_position inside]
  simp only [captureAt, stateAfter, ofNat_add_one]

/-! ### One record -/

/-- The stage behind a record that its module has processed. -/
def turned (stage : Stage β α) (module : StatefulModule β) (record : RecordView) : Stage β α :=
  { stage with
    module, own := stage.current + 1, current := stage.current + 1
    processed := stage.processed ++ [record] }

/-- A stage refuses the next record without a change, or it takes it and stands behind it. -/
inductive Turn (text : RecordString) (floor : ℕ) (stage : Stage β α) : Bool × StatefulModule β → Prop
  | refused (refused : Refused text floor stage) : Turn text floor stage (false, stage.module)
  | taken {module : StatefulModule β}
    (standing : Standing text floor (turned stage module (text.recordAt stage.current.toNat))) :
    Turn text floor stage (true, module)

variable {stage : Stage β α}

omit [Participant β] in
private theorem onward (inside : stage.current.toNat < text.length) :
    (stage.current + 1).toNat = stage.current.toNat + 1 := by
  have fits := text.fits
  rw [UInt64.toNat_add]
  exact Nat.mod_eq_of_lt (Nat.lt_of_le_of_lt inside fits)

/-- Behind a record that it takes, a stage stands if its slot is right. -/
private theorem Standing.taken {capture : Option (Capture β)} (standing : Standing text floor stage)
    (inside : stage.current.toNat < text.length)
    (slot : Slot text floor (stage.current.toNat + 1) capture) :
    Standing text floor (turned stage
      { state := stage.module.advance (text.recordAt stage.current.toNat), capture }
      (text.recordAt stage.current.toNat)) := by
  have next := onward inside
  constructor
  case state =>
    change stage.module.advance _ = text.stateAfter β (stage.current + 1).toNat
    rw [next, advance_stateAfter standing.state]
  case published => rfl
  case inside =>
    change (stage.current + 1).toNat ≤ _
    rwa [next]
  case reached =>
    change _ ≤ (stage.current + 1).toNat
    rw [next]
    exact Nat.le_succ_of_le standing.reached
  case slot =>
    change Slot _ _ (stage.current + 1).toNat _
    rwa [next]

theorem Standing.turn (standing : Standing text floor stage)
    (inside : stage.current.toNat < text.length) :
    Turn text floor stage (stage.module.process (text.recordAt stage.current.toNat)) := by
  have admits := RecordString.admits inside standing.state
  have slot := standing.slot
  by_cases snapshot : text.IsSnapshot stage.current.toNat
  · cases full : stage.module.capture with
    | some capture =>
      have occupied : stage.module.capture.isSome := full ▸ rfl
      rw [admits.refuse snapshot.2 occupied]
      exact .refused ⟨standing, snapshot, occupied⟩
    | none =>
      rw [admits.capture snapshot.2 full, captured_captureAt inside standing.state]
      rw [full] at slot
      cases slot with
      | free clear =>
        refine .taken (standing.taken inside (.full ⟨standing.reached, snapshot, clear⟩ (Nat.lt_succ_self _) ?_))
        intro later above below
        omega
  · have data : (decodeRecord (text.recordAt stage.current.toNat).payload).record.kind ≠
        .saveSnapshot := fun kind => snapshot ⟨inside, kind⟩
    rw [admits.pass data]
    refine .taken (standing.taken inside ?_)
    generalize stage.module.capture = held at slot ⊢
    cases slot with
    | free clear =>
      refine .free fun index above below => ?_
      rcases Nat.lt_succ_iff_lt_or_eq.mp below with before | rfl
      · exact clear index above before
      · exact snapshot
    | full next behind clear =>
      refine .full next (Nat.lt_succ_of_lt behind) fun later above below => ?_
      rcases Nat.lt_succ_iff_lt_or_eq.mp below with before | rfl
      · exact clear later above before
      · exact snapshot

/-! ### One call -/

/-- A module that has taken a record is published at once. -/
private theorem settled_eq {record : RecordView} (standing : Standing text floor stage)
    (inside : stage.current.toNat < text.length) : (stage.pass record).settleProcess =
      (true, turned stage (stage.module.process record).2 record) := by
  have behind : (stage.pass record).own ≤ (stage.pass record).current := by
    change stage.own ≤ stage.current + 1
    rw [standing.published, UInt64.le_iff_toNat_le, onward inside]
    exact Nat.le_succ _
  rw [Slider.settleProcess_onePosition behind]
  rfl

/-- The rule of a stage of the demo: it keeps its standing, and it stops nowhere but in
front of a snapshot record that meets an occupied slot. -/
theorem Standing.turns {upstream : Position}
    (within : upstream.toNat ≤ text.length) :
    Slider.Turns text.view upstream
      (fun next : Stage β α => Standing text floor next ∧ stage.current.toNat ≤ next.current.toNat)
      (fun next => Refused text floor next ∧ stage.current.toNat ≤ next.current.toNat) := by
  have inside {next : Stage β α} (below : next.current < upstream) :
      next.current.toNat < text.length :=
    Nat.lt_of_lt_of_le (UInt64.lt_iff_toNat_lt.mp below) within
  constructor
  case seen =>
    intro next _ below
    rw [view_eq (inside below)]
  case refused =>
    intro next ⟨stands, above⟩ below refused
    rw [view_eq (inside below)] at refused ⊢
    have turn := stands.turn (inside below)
    change (next.module.process (text.recordAt next.current.toNat)).1 = false at refused
    change Refused text floor
      { next with module := (next.module.process (text.recordAt next.current.toNat)).2 } ∧ _
    generalize next.module.process (text.recordAt next.current.toNat) = answer at turn refused
    cases turn with
    | refused front => exact ⟨front, above⟩
    | taken => cases refused
  case turned =>
    intro next ⟨stands, above⟩ below accepted _
    rw [view_eq (inside below)] at accepted ⊢
    rw [settled_eq stands (inside below)]
    have turn := stands.turn (inside below)
    change (next.module.process (text.recordAt next.current.toNat)).1 = true at accepted
    have moved : stage.current.toNat ≤ (next.current + 1).toNat := by
      rw [onward (inside below)]
      exact Nat.le_succ_of_le above
    generalize next.module.process (text.recordAt next.current.toNat) = answer at turn accepted ⊢
    cases turn with
    | refused => cases accepted
    | taken behind => exact ⟨behind, moved⟩
  case stopped =>
    intro next ⟨stands, above⟩ below _ unsettled
    rw [view_eq (inside below), settled_eq stands (inside below)] at unsettled
    cases unsettled

section Call
variable [SliderAcquirePolicy α] [LawfulAcquire α] {upstream : Position}

/-- What a call of a standing stage comes to. -/
theorem Standing.processAvailable (standing : Standing text floor stage)
    (within : upstream.toNat ≤ text.length) :
    (Standing text floor (stage.processAvailable text.view upstream).2 ∧
      stage.current.toNat ≤ (stage.processAvailable text.view upstream).2.current.toNat) ∧
    (stage.processAvailable text.view upstream).1.current =
      (stage.processAvailable text.view upstream).2.current ∧
    ((stage.processAvailable text.view upstream).1.ok ∨
      upstream < stage.current ∧
        (stage.processAvailable text.view upstream).1.status = .upstreamRegression ∨
      Refused text floor (stage.processAvailable text.view upstream).2) := by
  by_cases backward : upstream < stage.current
  · have regressed : stage.processAvailable text.view upstream =
        ({ status := .upstreamRegression, current := stage.current }, stage) := by
      unfold Slider.processAvailable
      rw [if_neg (not_not.mpr standing.published), if_pos backward]
    rw [regressed]
    exact ⟨⟨standing, Nat.le_refl _⟩, rfl, .inr (.inl ⟨backward, rfl⟩)⟩
  have passes : Slider.Passes stage _ _
      (fun next => Standing text floor next ∧ stage.current.toNat ≤ next.current.toNat)
      (stage.processAvailable text.view upstream) :=
    (Standing.turns within).passes (fun _ => ⟨standing, Nat.le_refl _⟩)
      (UInt64.not_lt.mp backward) (fun _ kept _ _ _ => kept) (fun _ _ _ _ unsettled => nomatch unsettled)
  generalize stage.processAvailable text.view upstream = answer at passes
  cases passes with
  | mismatch apart => exact absurd standing.published apart
  | empty => exact ⟨⟨standing, Nat.le_refl _⟩, rfl, .inl rfl⟩
  | processed reached advance some_records => exact ⟨reached, rfl, .inl rfl⟩
  | stopped failed stops current => exact ⟨⟨failed.1.standing, failed.2⟩, current, .inr (.inr failed.1)⟩

theorem Standing.capture_kept (standing : Standing text floor stage)
    (within : upstream.toNat ≤ text.length) {capture : Capture β}
    (full : stage.module.capture = some capture) :
    (stage.processAvailable text.view upstream).2.module.capture = some capture := by
  obtain ⟨⟨stands, above⟩, -⟩ := standing.processAvailable within
  exact standing.slot.kept stands.slot above full

omit [SliderAcquirePolicy α] [LawfulAcquire α] in
/-- In front of a record that it cannot take a module refuses, and it stays as it is. -/
theorem Refused.process (refused : Refused text floor stage) :
    stage.module.process (text.recordAt stage.current.toNat) = (false, stage.module) :=
  (RecordString.admits refused.snapshot.1 refused.standing.state).refuse refused.snapshot.2
    refused.occupied

omit [SliderAcquirePolicy α] [LawfulAcquire α] in
/-- With the slot released, the module takes the record. -/
theorem Refused.released (refused : Refused text floor stage) :
    ({ stage.module with capture := none }.process (text.recordAt stage.current.toNat)).1 = true := by
  have admits := @RecordString.admits _ _ _ _ { stage.module with capture := none }
    refused.snapshot.1 refused.standing.state
  rw [admits.capture refused.snapshot.2 rfl]

/-- A call in front of such a record leaves the stage as it is. -/
theorem Refused.processAvailable (refused : Refused text floor stage) :
    (stage.processAvailable text.view upstream).2 = stage := by
  by_cases backward : upstream < stage.current
  · unfold Slider.processAvailable
    rw [if_neg (not_not.mpr refused.standing.published), if_pos backward]
  have seen := view_eq refused.snapshot.1
  have refuses : SliderModule.process stage.module (text.recordAt stage.current.toNat) =
      (false, stage.module) := refused.process
  have turns : Slider.Turns text.view upstream (· = stage) (· = stage) := by
    constructor
    case seen =>
      intro next same _
      rw [same, seen]
    case refused =>
      intro next same _ _
      rw [same, seen, refuses]
    case turned =>
      intro next same _ accepted
      rw [same, seen, refuses] at accepted
      cases accepted
    case stopped =>
      intro next same _ accepted
      rw [same, seen, refuses] at accepted
      cases accepted
  have passes : Slider.Passes stage _ _ (· = stage) (stage.processAvailable text.view upstream) :=
    turns.passes (fun _ => rfl) (UInt64.not_lt.mp backward) (fun _ same _ _ _ => same)
      (fun _ _ _ _ unsettled => nomatch unsettled)
  generalize stage.processAvailable text.view upstream = answer at passes
  cases passes with
  | mismatch apart => rfl
  | empty => rfl
  | processed reached advance some_records => exact reached
  | stopped failed stops current => exact failed

/-! ### The next record -/

/-- What the slot holds behind one more record: nothing, or the capture of that record. -/
private theorem Slot.onward {slot : Option (Capture β)} (before : @Slot β _ text floor current none)
    (behind : Slot text floor (current + 1) slot) (reached : floor ≤ current) :
    slot = if text.IsSnapshot current then some (text.captureAt β current) else none := by
  cases before with
  | free clear =>
    cases behind with
    | free clear' =>
      have data : ¬ text.IsSnapshot current := clear' current reached (Nat.lt_succ_self _)
      exact (if_neg data).symm
    | @full index next passed clear' =>
      rcases Nat.lt_succ_iff_lt_or_eq.mp passed with earlier | rfl
      · exact absurd next.snapshot (clear index next.above earlier)
      · exact (if_pos next.snapshot).symm

/-- A stage that has taken one record, with what it holds. -/
structure Onward (text : RecordString) (floor : ℕ) (stage next : Stage β α) : Prop where
  standing : Standing text floor next
  current : next.current.toNat = stage.current.toNat + 1
  rule : next.acquirePolicy = stage.acquirePolicy
  capture : next.module.capture =
    if text.IsSnapshot stage.current.toNat then some (text.captureAt β stage.current.toNat) else none

/-- With a free slot and a policy that moves, a stage takes the record in front of it. -/
theorem Standing.processAvailable_next (standing : Standing text floor stage)
    (moves : Moves stage.acquirePolicy) (inside : stage.current.toNat < text.length)
    (free : stage.module.capture = none) :
    Onward text floor stage (stage.processAvailable text.view (stage.current + 1)).2 := by
  have fits := text.fits
  have seen := view_eq inside
  have turn := standing.turn inside
  cases answer : stage.module.process (text.recordAt stage.current.toNat) with
  | mk accepted module =>
    rw [answer] at turn
    cases turn with
    | refused refused =>
      have occupied := refused.occupied
      rw [free] at occupied
      cases occupied
    | taken behind =>
      have next := onward inside
      have moved : (stage.processAvailable text.view (stage.current + 1)).2 =
          turned stage module (text.recordAt stage.current.toNat) := by
        have taken : SliderModule.process stage.module (text.view stage.current).record =
            (true, module) := by
          rw [seen]
          exact answer
        rw [Slider.processAvailable_next moves standing.published (Nat.lt_of_le_of_lt inside fits)
          (congrArg AccessResult.status seen) taken, seen]
        rfl
      rw [moved]
      refine ⟨behind, next, rfl, ?_⟩
      have before := standing.slot
      have slot := behind.slot
      change Slot text floor (stage.current + 1).toNat module.capture at slot
      rw [next] at slot
      rw [free] at before
      exact before.onward slot standing.reached

end Call

end Fexma.SnapshotDemo
