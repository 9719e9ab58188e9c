import Fexma.Library.FairRun
import Fexma.SnapshotDemo.DemoSafety
import Fexma.Wal.CoreRuns

/-! Liveness of the complete tract: under a fair schedule every record of a plan is published,
becomes durable and goes through both stages, every generation is collected and released, and
every slot of the ring is let go. -/
namespace Fexma.SnapshotDemo

open Wal RecordString WalFacade
open Wal.PhysicalWalAdapter (ReliableDevice)

/-! ### One stage -/

section Stage
variable {β α : Type} [Participant β] {text : RecordString} {floor current : ℕ}

/-- The floor and the position decide what a slot holds. -/
theorem Slot.unique {slot other : Option (Capture β)} (holds : Slot text floor current slot)
    (holds' : Slot text floor current other) : slot = other := by
  cases holds with
  | free clear =>
    cases holds' with
    | free => rfl
    | full next behind => exact absurd next.snapshot (clear _ next.above behind)
  | full next behind => exact ((Slot.full next behind ‹_›).kept holds' (Nat.le_refl _) rfl).symm

/-- A slot is occupied behind the next snapshot position from the floor on. -/
theorem Slot.isSome_iff {slot : Option (Capture β)} (holds : Slot text floor current slot) :
    slot.isSome ↔ ∃ index, Next text floor index ∧ index < current := by
  cases holds with
  | free clear =>
    refine ⟨fun occupied => (by cases occupied), ?_⟩
    rintro ⟨index, next, behind⟩
    exact absurd next.snapshot (clear index next.above behind)
  | @full index next behind => exact ⟨fun _ => ⟨index, next, behind⟩, fun _ => rfl⟩

/-- No stage is behind two snapshot positions of which neither has been released. -/
theorem Slot.single {slot : Option (Capture β)} {index later : ℕ}
    (holds : Slot text floor current slot) (next : Next text floor index) (behind : index < later)
    (snapshot : text.IsSnapshot later) : current ≤ later := by
  by_contra further
  have further := Nat.not_le.mp further
  cases holds with
  | free clear => exact clear index next.above (Nat.lt_trans behind further) next.snapshot
  | full next' _ clear =>
    obtain rfl := next.unique next'
    exact clear later behind further snapshot

variable [SliderAcquirePolicy α] [LawfulAcquire α] {upstream : Position} {stage : Stage β α}
variable {view : Position → AccessResult} {answer : SliderResult × Stage β α}

omit [SliderAcquirePolicy α] [LawfulAcquire α] in
/-- A stage that stays where it is holds what it held. -/
theorem Stepped.still (stepped : Stepped text floor upstream stage answer)
    (standing : Standing text floor stage) (stays : answer.2.own = stage.own) :
    answer.2.current = stage.current ∧ answer.2.module.capture = stage.module.capture := by
  have here : answer.2.current = stage.current :=
    stepped.standing.published.symm.trans (stays.trans standing.published)
  refine ⟨here, ?_⟩
  have slot := stepped.standing.slot
  rw [here] at slot
  exact slot.unique standing.slot

/-- A stage behind its upstream moves on unless it stands at an occupied slot. -/
theorem Standing.step_moves (standing : Standing text floor stage) {policy : α} (moves : Moves policy)
    (behind : stage.own < upstream) (within : upstream.toNat ≤ text.length)
    (alike : Slider.ShowAlike view text.view stage.own upstream)
    (free : ¬AtOccupied text stage) :
    stage.own < ((stage.under policy).processAvailable view upstream).2.own := by
  have stepped := standing.step policy (UInt64.le_of_lt behind) within alike
  rw [stepped.standing.published, standing.published]
  rw [standing.published] at behind alike
  have inside : stage.current.toNat < text.length :=
    Nat.lt_of_lt_of_le (UInt64.lt_iff_toNat_lt.mp behind) within
  have seen := (alike stage.current (UInt64.le_refl _) behind).trans (view_eq inside)
  refine @Slider.processAvailable_moves _ _ _ _ _ _ (stage.under policy) view upstream _
    standing.published (UInt64.le_of_lt behind) (moves _ _ behind) ?_ ?_
  · change (view stage.current).status = .ok
    rw [seen]
  · change (stage.module.process (view stage.current).record).1 = true
    rw [seen]
    have turn := standing.turn inside
    change (stage.module.process (text.recordAt stage.current.toNat)).1 = true
    generalize stage.module.process (text.recordAt stage.current.toNat) = taken at turn
    cases turn with
    | refused refused => exact absurd ⟨refused.snapshot, refused.occupied⟩ free
    | taken => rfl

end Stage

/-! ### The coordinator -/

section Coordinator
variable {α α' : Type} {text : RecordString} {floor : ℕ} {composition : Composition α α'}

/-- A pending generation has been collected. -/
theorem Consistent.collected_pos (consistent : Consistent text 0 floor composition)
    {generation : CaptureGeneration}
    (pending : composition.coordinator.generation = some generation) :
    0 < composition.collected.length := by
  obtain ⟨index, next, -, -, -, collected⟩ := consistent.pending generation pending
  rw [collected, next.snapshots (Nat.zero_le _), List.length_map, List.length_append]
  exact Nat.succ_pos _

/-- A pending generation is released when that is asked for. -/
theorem Consistent.releaseGeneration (consistent : Consistent text 0 floor composition)
    {generation : CaptureGeneration}
    (pending : composition.coordinator.generation = some generation) :
    (composition.releaseGeneration generation.generationId).2.coordinator.generation = none ∧
      (composition.releaseGeneration generation.generationId).2.collected =
        composition.collected := by
  obtain ⟨index, -, rfl, hash_full, bits_full, -⟩ := consistent.pending generation pending
  have hash : CaptureGenerationCoordinator.holds composition.hash.module
      (text.generationAt index).generationId (text.generationAt index).processedEnd := by
    simp [CaptureGenerationCoordinator.holds, hash_full, captureAt, generationAt]
  have bits : CaptureGenerationCoordinator.holds composition.bits.module
      (text.generationAt index).generationId (text.generationAt index).processedEnd := by
    simp [CaptureGenerationCoordinator.holds, bits_full, captureAt, generationAt]
  unfold Composition.releaseGeneration
  rw [CaptureGenerationCoordinator.releaseGeneration_held pending hash bits]
  exact ⟨rfl, rfl⟩

end Coordinator

/-! ### Turns of a schedule -/

/-- One call of a schedule that has a plan of payloads to publish. -/
inductive DemoTurn (α α' : Type) where
  | publishNext
  | persistenceStep (maximumCount : UInt64)
  | hashStep (policy : α)
  | bitStep (policy : α')
  | collect
  | saveAndRelease (saved : SnapshotSaveStatus)
  | reclaim

inductive DemoRole where
  | producer
  | persistence
  | hash
  | bits
  | coordinator
  | sink
  | reclaimer
  deriving DecidableEq, Repr

def DemoTurn.role {α α' : Type} : DemoTurn α α' → DemoRole
  | publishNext => .producer
  | persistenceStep _ => .persistence
  | hashStep _ => .hash
  | bitStep _ => .bits
  | collect => .coordinator
  | saveAndRelease _ => .sink
  | reclaim => .reclaimer

/-- How many generations have been released. -/
def Composition.released {α α' : Type} (composition : Composition α α') : ℕ :=
  composition.collected.length - (if composition.coordinator.generation.isSome then 1 else 0)

namespace DemoTract

section Turns
variable {δ α α' : Type} [Device δ] [SliderAcquirePolicy α] [SliderAcquirePolicy α']

/-- The producer offers the first payload of the plan that has not been accepted. -/
def turn (plan : List (List UInt8)) (tract : DemoTract δ α α') :
    DemoTurn α α' → DemoTract δ α α'
  | .publishNext =>
    match plan[tract.published.length]? with
    | some payload => tract.perform (.tryPublish payload)
    | none => tract
  | .persistenceStep maximumCount => tract.perform (.persistenceStep maximumCount)
  | .hashStep policy => tract.perform (.hashStep policy)
  | .bitStep policy => tract.perform (.bitStep policy)
  | .collect => tract.perform .collect
  | .saveAndRelease saved => tract.perform (.saveAndRelease saved)
  | .reclaim => tract.perform .reclaim

omit [Device δ] [SliderAcquirePolicy α] [SliderAcquirePolicy α'] in
/-- There is something for the role to do, as long as the plan is not carried out. -/
def Due (plan : List (List UInt8)) (text : RecordString) (tract : DemoTract δ α α') :
    DemoRole → Prop
  | .producer => tract.published.length < plan.length ∧
      tract.source.head.toNat < tract.source.tail.toNat + tract.source.config.capacity.toNat
  | .persistence => tract.durable < tract.source.head
  | .hash => tract.composition.hash.own < tract.durable ∧ ¬AtOccupied text tract.composition.hash
  | .bits => tract.composition.bits.own < tract.composition.hash.own ∧
      ¬AtOccupied text tract.composition.bits
  | .coordinator => tract.composition.coordinator.generation = none ∧
      tract.composition.hash.module.capture.isSome ∧ tract.composition.bits.module.capture.isSome
  | .sink => tract.composition.coordinator.generation.isSome
  | .reclaimer => tract.source.tail < tract.composition.bits.own

/-- A turn in which the role does what is due: the device serves the call, the generation is
saved, the policies let a stage move. -/
def Serves (role : DemoRole) (tract : DemoTract δ α α') (turn : DemoTurn α α') : Prop :=
  turn.role = role ∧ match turn with
    | .persistenceStep maximumCount => maximumCount ≠ 0 ∧
        (tract.persistenceStep maximumCount).2.persistence.failed = false
    | .hashStep policy => Moves policy
    | .bitStep policy => Moves policy
    | .saveAndRelease saved => saved = .ok
    | .publishNext | .collect | .reclaim => True

omit [Device δ] [SliderAcquirePolicy α] [SliderAcquirePolicy α'] in
/-- How far the tract has come. -/
def passed (tract : DemoTract δ α α') : ℕ :=
  tract.source.head.toNat + tract.durable.toNat + tract.composition.hash.own.toNat +
    tract.composition.bits.own.toNat + tract.source.tail.toNat +
    tract.composition.collected.length + tract.composition.released

omit [Device δ] [SliderAcquirePolicy α] [SliderAcquirePolicy α'] in
/-- Nothing that a role looks at has changed. -/
structure Unmoved (before after : DemoTract δ α α') : Prop where
  published : after.published = before.published
  head : after.source.head = before.source.head
  tail : after.source.tail = before.source.tail
  config : after.source.config = before.source.config
  durable : after.durable = before.durable
  hash : after.composition.hash.own = before.composition.hash.own
  bits : after.composition.bits.own = before.composition.bits.own
  hash_current : after.composition.hash.current = before.composition.hash.current
  bits_current : after.composition.bits.current = before.composition.bits.current
  hash_capture : after.composition.hash.module.capture = before.composition.hash.module.capture
  bits_capture : after.composition.bits.module.capture = before.composition.bits.module.capture
  generation : after.composition.coordinator.generation =
    before.composition.coordinator.generation
  collected : after.composition.collected = before.composition.collected

omit [Device δ] [SliderAcquirePolicy α] [SliderAcquirePolicy α'] in
/-- What a turn comes to: nothing was due and nothing has changed, or the tract has come
further. -/
inductive Turned (due : Prop) (before after : DemoTract δ α α') : Prop
  | idle (nothing : ¬due) (unmoved : Unmoved before after)
  | raised (further : before.passed < after.passed)

end Turns

section Unmoved
variable {δ α α' : Type} {plan : List (List UInt8)} {text : RecordString}
variable {tract before after : DemoTract δ α α'}

theorem Unmoved.refl (tract : DemoTract δ α α') : Unmoved tract tract := by
  constructor
  all_goals rfl

theorem Unmoved.due (unmoved : Unmoved before after) {role : DemoRole}
    (due : before.Due plan text role) : after.Due plan text role := by
  cases role with
  | producer =>
    change _ < _ ∧ _ < _
    rw [unmoved.published, unmoved.head, unmoved.tail, unmoved.config]
    exact due
  | persistence =>
    change _ < _
    rw [unmoved.durable, unmoved.head]
    exact due
  | hash =>
    change _ < _ ∧ ¬(text.IsSnapshot _ ∧ _)
    rw [unmoved.durable, unmoved.hash, unmoved.hash_current, unmoved.hash_capture]
    exact due
  | bits =>
    change _ < _ ∧ ¬(text.IsSnapshot _ ∧ _)
    rw [unmoved.hash, unmoved.bits, unmoved.bits_current, unmoved.bits_capture]
    exact due
  | coordinator =>
    change _ = none ∧ _ ∧ _
    rw [unmoved.generation, unmoved.hash_capture, unmoved.bits_capture]
    exact due
  | sink =>
    change _ = true
    rw [unmoved.generation]
    exact due
  | reclaimer =>
    change _ < _
    rw [unmoved.tail, unmoved.bits]
    exact due

theorem Unmoved.passed (unmoved : Unmoved before after) : after.passed = before.passed := by
  unfold DemoTract.passed Composition.released
  rw [unmoved.head, unmoved.durable, unmoved.hash, unmoved.bits, unmoved.tail, unmoved.collected,
    unmoved.generation]

theorem Turned.of {due due' : Prop} (turned : Turned due before after) (weaker : due' → due) :
    Turned due' before after := by
  cases turned with
  | idle nothing unmoved => exact .idle (fun here => nothing (weaker here)) unmoved
  | raised further => exact .raised further

theorem Turned.passed_le {due : Prop} (turned : Turned due before after) :
    before.passed ≤ after.passed := by
  cases turned with
  | idle nothing unmoved => exact Nat.le_of_eq unmoved.passed.symm
  | raised further => exact Nat.le_of_lt further

/-- A tract that moves forward comes further with any of its frontiers. -/
theorem Forward.passed_lt (forward : Forward before after)
    (released : before.composition.released ≤ after.composition.released)
    (further : before.source.head < after.source.head ∨ before.durable < after.durable ∨
      before.composition.hash.own < after.composition.hash.own ∨
      before.composition.bits.own < after.composition.bits.own ∨
      before.source.tail < after.source.tail ∨
      before.composition.collected.length < after.composition.collected.length ∨
      before.composition.released < after.composition.released) :
    before.passed < after.passed := by
  have head := UInt64.le_iff_toNat_le.mp forward.head
  have durable := UInt64.le_iff_toNat_le.mp forward.durable
  have hash := UInt64.le_iff_toNat_le.mp forward.hash
  have bits := UInt64.le_iff_toNat_le.mp forward.bits
  have tail := UInt64.le_iff_toNat_le.mp forward.tail
  have collected := forward.collected.length_le
  simp only [UInt64.lt_iff_toNat_lt] at further
  unfold DemoTract.passed
  omega

/-! ### What every turn keeps -/

/-- A tract that carries out a plan. -/
structure Running (config : WalConfig) (plan : List (List UInt8)) (tract : DemoTract δ α α') :
    Prop where
  sound : ∃ beginning, Sound config beginning tract
  planned : tract.published <+: plan
  numbered : tract.source.sequenceExhausted = false

section Running
variable {config : WalConfig} (loggable : Loggable config plan)
variable (records : text.records = storedRecords config plan) (running : Running config plan tract)
include records running

/-- The string of what has been published is a beginning of the plan's. -/
theorem Running.alike {beginning : RecordString} (sound : Sound config beginning tract) :
    text.Alike beginning beginning.length := by
  rw [sound.length]
  refine alike_of_take records ?_ running.planned.length_le
  rw [← List.prefix_iff_eq_take.mp running.planned]
  exact sound.records

theorem Running.consistent : ∃ floor, Consistent text 0 floor tract.composition := by
  obtain ⟨beginning, sound⟩ := running.sound
  obtain ⟨floor, consistent⟩ := sound.consistent
  exact ⟨floor, consistent.over (running.alike records sound).symm consistent.hash.inside
    consistent.bits.inside⟩

theorem Running.head_le : tract.source.head.toNat ≤ text.length := by
  obtain ⟨beginning, sound⟩ := running.sound
  rw [sound.head]
  exact (running.alike records sound).inside

/-- Between the tail and the head the ring shows the records of the plan. -/
theorem Running.shows {first last : Position} (above : tract.source.tail ≤ first)
    (below : last ≤ tract.source.head) :
    Slider.ShowAlike tract.source.tryView text.view first last := by
  obtain ⟨beginning, sound⟩ := running.sound
  intro position from_first to_last
  rw [sound.alike above below position from_first to_last]
  have behind := UInt64.lt_iff_toNat_lt.mp (UInt64.lt_of_lt_of_le to_last below)
  rw [sound.head] at behind
  have same := (running.alike records sound).records position.toNat behind
  unfold RecordString.view
  rw [same]

omit records in
include loggable in
/-- A publication that is due is accepted. -/
theorem Running.publishes {payload : List UInt8} (here : plan[tract.published.length]? = some payload)
    (room : tract.source.head.toNat < tract.source.tail.toNat + tract.source.config.capacity.toNat) :
    tract.source.tryPublish payload =
      ({ status := .ok, sequence := tract.source.config.firstSequence + tract.source.head },
        tract.source.push payload) := by
  obtain ⟨beginning, sound⟩ := running.sound
  have below := (List.getElem?_eq_some_iff.mp here).1
  have sequences := loggable.sequences
  refine sound.holds.tryPublish_ok sound.isOpen ?_ running.numbered room ?_
  · rw [sound.runtime]
    exact loggable.sizes payload (List.mem_of_getElem? here)
  · rw [sound.runtime]
    change config.firstSequence.toNat + _ < _
    omega

/-! ### What a turn comes to -/

variable [Device δ] [SliderAcquirePolicy α] [SliderAcquirePolicy α']
variable [LawfulAcquire α] [LawfulAcquire α']

omit records in
include loggable in
theorem Running.publishNext :
    Turned (tract.Due plan text .producer) tract (tract.turn plan .publishNext) := by
  obtain ⟨beginning, sound⟩ := running.sound
  unfold turn
  cases here : plan[tract.published.length]? with
  | none =>
    refine .idle (fun due => ?_) (.refl tract)
    exact absurd due.1 (Nat.not_lt.mpr (List.getElem?_eq_none_iff.mp here))
  | some payload =>
    have forward := sound.forward (.tryPublish payload)
    change Forward tract (tract.tryPublish payload).2 at forward
    change Turned _ tract (tract.tryPublish payload).2
    unfold DemoTract.tryPublish at forward ⊢
    dsimp only at forward ⊢
    rcases WalCore.tryPublish_cases tract.source payload with
      ⟨status, exhausted, refused, answer⟩ | ⟨-, size, room, more, answer⟩
    · rw [answer]
      dsimp only
      rw [if_neg refused]
      refine .idle ?_ { Unmoved.refl tract with }
      rintro ⟨-, room⟩
      rw [running.publishes loggable here room] at answer
      exact refused (congrArg (fun given => given.1.status) answer).symm
    · rw [answer] at forward ⊢
      refine .raised (forward.passed_lt (Nat.le_refl _) (.inl ?_))
      have holds := sound.holds.push size room more
      change tract.source.head < (tract.source.push payload).head
      rw [UInt64.lt_iff_toNat_lt, sound.holds.head, holds.head, List.length_append]
      exact Nat.lt_succ_self _

omit records in
theorem Running.persistenceStep (maximumCount : UInt64) :
    Turned (tract.Due plan text .persistence ∧ maximumCount ≠ 0 ∧
        (tract.persistenceStep maximumCount).2.persistence.failed = false)
      tract (tract.persistenceStep maximumCount).2 := by
  obtain ⟨beginning, sound⟩ := running.sound
  have forward := sound.forward (.persistenceStep maximumCount)
  rcases (UInt64.le_iff_lt_or_eq.mp forward.durable) with further | same
  · exact .raised (forward.passed_lt (Nat.le_refl _) (.inr (.inl further)))
  · refine .idle ?_ { Unmoved.refl tract with durable := same.symm }
    rintro ⟨due, some_count, served⟩
    obtain ⟨adapter, stands⟩ := sound.stands
    have inside : tract.source.head.toNat ≤ tract.published.length := Nat.le_of_eq sound.holds.head
    have bounded : Stands (stored config) tract.published adapter
        (tract.persistenceSlider.under ⟨maximumCount⟩) :=
      ⟨stands.stores, stands.inside, stands.running⟩
    have positive : (0 : UInt64) < maximumCount := UInt64.pos_iff_ne_zero.mpr some_count
    have moved := bounded.processAvailable_moves sound.shows (BoundedRangeAcquire.moves positive) due
      inside served
    exact UInt64.ne_of_lt moved same

theorem Running.hashStep (policy : α) :
    Turned (tract.Due plan text .hash ∧ Moves policy) tract (tract.hashStep policy).2 := by
  obtain ⟨beginning, sound⟩ := running.sound
  obtain ⟨floor, consistent⟩ := running.consistent records
  have forward := sound.forward (.hashStep policy)
  have below := UInt64.le_iff_toNat_le.mp sound.durable_le
  have within := Nat.le_trans below (running.head_le records)
  have alike := running.shows records (UInt64.le_trans sound.tail_le sound.bits_le) sound.durable_le
  rcases (UInt64.le_iff_lt_or_eq.mp forward.hash) with further | same
  · exact .raised (forward.passed_lt (Nat.le_refl _) (.inr (.inr (.inl further))))
  · have stepped := consistent.hash.step policy sound.hash_le within alike
    obtain ⟨current, capture⟩ := stepped.still consistent.hash same.symm
    refine .idle ?_ { Unmoved.refl tract with
      hash := same.symm, hash_current := current, hash_capture := capture }
    rintro ⟨⟨due, free⟩, moves⟩
    exact UInt64.ne_of_lt (consistent.hash.step_moves moves due within alike free) same

theorem Running.bitStep (policy : α') :
    Turned (tract.Due plan text .bits ∧ Moves policy) tract (tract.bitStep policy).2 := by
  obtain ⟨beginning, sound⟩ := running.sound
  obtain ⟨floor, consistent⟩ := running.consistent records
  have forward := sound.forward (.bitStep policy)
  have behind := UInt64.le_trans sound.hash_le sound.durable_le
  have within := Nat.le_trans (UInt64.le_iff_toNat_le.mp behind) (running.head_le records)
  have alike := running.shows records sound.tail_le behind
  rcases (UInt64.le_iff_lt_or_eq.mp forward.bits) with further | same
  · exact .raised (forward.passed_lt (Nat.le_refl _) (.inr (.inr (.inr (.inl further)))))
  · have stepped := consistent.bits.step policy sound.bits_le within alike
    obtain ⟨current, capture⟩ := stepped.still consistent.bits same.symm
    refine .idle ?_ { Unmoved.refl tract with
      bits := same.symm, bits_current := current, bits_capture := capture }
    rintro ⟨⟨due, free⟩, moves⟩
    exact UInt64.ne_of_lt (consistent.bits.step_moves moves due within alike free) same

theorem Running.collect : Turned (tract.Due plan text .coordinator) tract (tract.perform .collect) := by
  obtain ⟨beginning, sound⟩ := running.sound
  obtain ⟨floor, consistent⟩ := running.consistent records
  have forward := sound.forward .collect
  change Forward tract { tract with composition := tract.composition.collect.2 } at forward
  change Turned _ tract { tract with composition := tract.composition.collect.2 }
  obtain ⟨-, kept | ⟨free, index, next, -, -, collected⟩⟩ := consistent.collect_cases
  · rw [kept]
    refine .idle ?_ (.refl tract)
    rintro ⟨free, hash_full, bits_full⟩
    obtain ⟨hash, hash_full⟩ := Option.isSome_iff_exists.mp hash_full
    obtain ⟨bits, bits_full⟩ := Option.isSome_iff_exists.mp bits_full
    obtain ⟨index, next, rfl, rfl⟩ := consistent.together hash_full bits_full
    rw [collect_captures free hash_full bits_full] at kept
    have pending := congrArg (fun given => given.coordinator.generation) kept
    rw [free] at pending
    cases pending
  · rw [collected] at forward ⊢
    refine .raised (forward.passed_lt ?_ (.inr (.inr (.inr (.inr (.inr (.inl ?_)))))))
    · unfold Composition.released
      rw [free, List.length_append]
      exact Nat.le_refl _
    · rw [List.length_append]
      exact Nat.lt_succ_self _

theorem Running.saveAndRelease (saved : SnapshotSaveStatus) :
    Turned (tract.Due plan text .sink ∧ saved = .ok) tract
      (tract.perform (.saveAndRelease saved)) := by
  obtain ⟨beginning, sound⟩ := running.sound
  obtain ⟨floor, consistent⟩ := running.consistent records
  have forward := sound.forward (.saveAndRelease saved)
  change Forward tract
    { tract with composition := (tract.composition.saveAndRelease fun _ => saved).2 } at forward
  change Turned _ tract
    { tract with composition := (tract.composition.saveAndRelease fun _ => saved).2 }
  unfold Composition.saveAndRelease at forward ⊢
  cases pending : tract.composition.coordinator.generation with
  | none =>
    refine .idle ?_ (.refl tract)
    rintro ⟨due, -⟩
    change tract.composition.coordinator.generation.isSome = true at due
    rw [pending] at due
    cases due
  | some generation =>
    rw [pending] at forward
    dsimp only at forward ⊢
    by_cases unsaved : saved ≠ .ok
    · rw [if_pos unsaved]
      exact .idle (fun due => unsaved due.2) (.refl tract)
    · rw [if_neg unsaved] at forward ⊢
      obtain ⟨released, collected⟩ := consistent.releaseGeneration pending
      have more : tract.composition.released <
          (tract.composition.releaseGeneration generation.generationId).2.released := by
        unfold Composition.released
        rw [released, collected, pending]
        exact Nat.sub_lt (consistent.collected_pos pending) Nat.one_pos
      exact .raised (forward.passed_lt (Nat.le_of_lt more)
        (.inr (.inr (.inr (.inr (.inr (.inr more)))))))

omit records in
theorem Running.reclaim : Turned (tract.Due plan text .reclaimer) tract tract.reclaim.2 := by
  obtain ⟨beginning, sound⟩ := running.sound
  have forward := sound.forward .reclaim
  change Forward tract tract.reclaim.2 at forward
  unfold DemoTract.reclaim at forward ⊢
  rw [sound.reclaim.1] at forward ⊢
  rcases (UInt64.le_iff_lt_or_eq.mp sound.tail_le) with further | same
  · exact .raised (forward.passed_lt (Nat.le_refl _) (.inr (.inr (.inr (.inr (.inl further))))))
  · refine .idle (fun due => UInt64.ne_of_lt due same) { Unmoved.refl tract with tail := same.symm }

include loggable in
/-- What any turn comes to, and it does what is due when its role is served. -/
theorem Running.turned (turn : DemoTurn α α') :
    Turned (tract.Due plan text turn.role ∧ Serves turn.role tract turn) tract
      (tract.turn plan turn) := by
  cases turn with
  | publishNext => exact (running.publishNext loggable).of fun due => due.1
  | persistenceStep maximumCount =>
    exact (running.persistenceStep maximumCount).of fun due => ⟨due.1, due.2.2⟩
  | hashStep policy => exact (running.hashStep records policy).of fun due => ⟨due.1, due.2.2⟩
  | bitStep policy => exact (running.bitStep records policy).of fun due => ⟨due.1, due.2.2⟩
  | collect => exact (running.collect records).of fun due => due.1
  | saveAndRelease saved =>
    exact (running.saveAndRelease records saved).of fun due => ⟨due.1, due.2.2⟩
  | reclaim => exact running.reclaim.of fun due => due.1

include loggable in
/-- A turn keeps to the plan. -/
theorem Running.step (turn : DemoTurn α α') : Running config plan (tract.turn plan turn) := by
  obtain ⟨beginning, sound⟩ := running.sound
  have kept (action : DemoAction α α') (permitted : tract.Permits action)
      (published : (tract.perform action).published = tract.published)
      (numbered : (tract.perform action).source.sequenceExhausted = false) :
      Running config plan (tract.perform action) :=
    ⟨sound.perform permitted, published ▸ running.planned, numbered⟩
  cases turn with
  | publishNext =>
    unfold DemoTract.turn
    cases here : plan[tract.published.length]? with
    | none => exact running
    | some payload =>
      have permitted : tract.Permits (.tryPublish payload) := admissible_of_text records here
      refine ⟨sound.perform permitted, ?_, ?_⟩
      · change (if _ then _ else _) <+: plan
        split_ifs
        · have next := List.take_prefix (tract.published.length + 1) plan
          rwa [List.take_add_one, here, ← List.prefix_iff_eq_take.mp running.planned] at next
        · exact running.planned
      · refine sound.holds.tryPublish_numbered running.numbered ?_
        have below := (List.getElem?_eq_some_iff.mp here).1
        have sequences := loggable.sequences
        rw [sound.runtime]
        change config.firstSequence.toNat + _ < _
        omega
  | persistenceStep maximumCount =>
    exact kept (.persistenceStep maximumCount) trivial rfl running.numbered
  | hashStep policy => exact kept (.hashStep policy) trivial rfl running.numbered
  | bitStep policy => exact kept (.bitStep policy) trivial rfl running.numbered
  | collect => exact kept .collect trivial rfl running.numbered
  | saveAndRelease saved => exact kept (.saveAndRelease saved) trivial rfl running.numbered
  | reclaim =>
    refine kept .reclaim trivial rfl ?_
    change tract.reclaim.2.source.sequenceExhausted = false
    unfold DemoTract.reclaim
    rw [sound.reclaim.1]
    exact running.numbered

end Running

end Unmoved

/-! ### The end of the plan -/

/-- The plan has been carried out, and nothing is held any more. -/
structure Drained (plan : List (List UInt8)) (text : RecordString) (tract : DemoTract δ α α') :
    Prop where
  published : tract.published = plan
  frontiers : tract.source.tail = tract.composition.bits.own ∧
    tract.composition.bits.own = tract.composition.hash.own ∧
    tract.composition.hash.own = tract.durable ∧ tract.durable = tract.source.head
  hash : tract.composition.hash.module.state = text.stateAfter HashChain text.length
  bits : tract.composition.bits.module.state = text.stateAfter BitAccumulator text.length
  collected : tract.composition.collected = (text.snapshots 0 text.length).map text.generationAt
  released : tract.composition.coordinator.generation = none ∧
    tract.composition.hash.module.capture = none ∧ tract.composition.bits.module.capture = none

section Drained
variable {config : WalConfig} {plan : List (List UInt8)} {text : RecordString}
variable {tract : DemoTract δ α α'}
variable (records : text.records = storedRecords config plan) (running : Running config plan tract)
include records running

theorem Running.drained (whole : tract.source.tail.toNat = text.length)
    (free : tract.composition.coordinator.generation = none)
    (hash_free : tract.composition.hash.module.capture = none)
    (bits_free : tract.composition.bits.module.capture = none) : Drained plan text tract := by
  obtain ⟨beginning, sound⟩ := running.sound
  obtain ⟨floor, consistent⟩ := running.consistent records
  have head_le := running.head_le records
  have bits_le := UInt64.le_iff_toNat_le.mp sound.bits_le
  have hash_le := UInt64.le_iff_toNat_le.mp sound.hash_le
  have durable_le := UInt64.le_iff_toNat_le.mp sound.durable_le
  have tail_le := UInt64.le_iff_toNat_le.mp sound.tail_le
  have hash : tract.composition.hash.current.toNat = text.length := by
    rw [← sound.hash_current]
    omega
  have bits : tract.composition.bits.current.toNat = text.length := by
    rw [← sound.bits_current]
    omega
  constructor
  case published =>
    refine running.planned.eq_of_length_le ?_
    have length : text.length = plan.length := by
      rw [RecordString.length, records, length_storedRecords]
    have head := sound.holds.head
    omega
  case frontiers =>
    simp only [← UInt64.toNat_inj]
    omega
  case hash => rw [consistent.hash.state, hash]
  case bits => rw [consistent.bits.state, bits]
  case collected =>
    rw [consistent.idle free, ← consistent.hash.snapshots (Nat.zero_le _) hash_free, hash]
  case released => exact ⟨free, hash_free, bits_free⟩

/-- While the plan is not carried out, some role has something due. -/
theorem Running.some_due (left : ¬Drained plan text tract) : ∃ role, tract.Due plan text role := by
  by_contra idle
  push Not at idle
  obtain ⟨beginning, sound⟩ := running.sound
  obtain ⟨floor, consistent⟩ := running.consistent records
  have hash_slot := consistent.hash.slot
  have bits_slot := consistent.bits.slot
  have free : tract.composition.coordinator.generation = none :=
    Option.not_isSome_iff_eq_none.mp (idle .sink)
  have tail : tract.composition.bits.own = tract.source.tail :=
    UInt64.le_antisymm (UInt64.not_lt.mp (idle .reclaimer)) sound.tail_le
  have durable : tract.source.head = tract.durable :=
    UInt64.le_antisymm (UInt64.not_lt.mp (idle .persistence)) sound.durable_le
  -- the last stage is held up by the first one only
  have bits : tract.composition.bits.own = tract.composition.hash.own := by
    by_contra apart
    have below := UInt64.lt_of_le_of_ne sound.bits_le apart
    obtain ⟨snapshot, occupied⟩ := not_not.mp fun clear => idle .bits ⟨below, clear⟩
    obtain ⟨index, next, behind⟩ := bits_slot.isSome_iff.mp occupied
    have stands := hash_slot.single next behind snapshot
    rw [← sound.hash_current, ← sound.bits_current] at stands
    exact Nat.not_lt.mpr stands (UInt64.lt_iff_toNat_lt.mp below)
  have same : tract.composition.bits.current = tract.composition.hash.current := by
    rw [← sound.bits_current, ← sound.hash_current, bits]
  rw [same] at bits_slot
  -- both slots are occupied or neither is, and then there would be a generation to collect
  have hash_free : tract.composition.hash.module.capture = none := by
    by_contra occupied
    have full := Option.isSome_iff_ne_none.mpr occupied
    exact idle .coordinator ⟨free, full, bits_slot.isSome_iff.mpr (hash_slot.isSome_iff.mp full)⟩
  have bits_free : tract.composition.bits.module.capture = none := by
    by_contra occupied
    have full := Option.isSome_iff_ne_none.mpr occupied
    exact idle .coordinator ⟨free, hash_slot.isSome_iff.mpr (bits_slot.isSome_iff.mp full), full⟩
  have hash : tract.composition.hash.own = tract.durable := by
    by_contra apart
    refine idle .hash ⟨UInt64.lt_of_le_of_ne sound.hash_le apart, ?_⟩
    rintro ⟨-, occupied⟩
    rw [hash_free] at occupied
    cases occupied
  have empty : tract.source.tail = tract.source.head := by
    rw [← tail, bits, hash, durable]
  refine left (running.drained records ?_ free hash_free bits_free)
  have whole : plan.length ≤ tract.published.length := by
    by_contra short
    refine idle .producer ⟨Nat.not_le.mp short, ?_⟩
    rw [empty]
    exact Nat.lt_add_of_pos_right sound.holds.capacity
  have length : text.length = plan.length := by
    rw [RecordString.length, records, length_storedRecords]
  have head := sound.holds.head
  have planned := running.planned.length_le
  rw [empty]
  omega

/-- There is no more than the frontiers at the end of the plan and its generations. -/
theorem Running.passed_le :
    tract.passed ≤ 5 * text.length + 2 * (text.snapshots 0 text.length).length := by
  obtain ⟨beginning, sound⟩ := running.sound
  obtain ⟨floor, consistent⟩ := running.consistent records
  have head_le := running.head_le records
  have bits_le := UInt64.le_iff_toNat_le.mp sound.bits_le
  have hash_le := UInt64.le_iff_toNat_le.mp sound.hash_le
  have durable_le := UInt64.le_iff_toNat_le.mp sound.durable_le
  have tail_le := UInt64.le_iff_toNat_le.mp sound.tail_le
  obtain ⟨stop, inside, same⟩ := consistent.collected
  have collected : tract.composition.collected.length ≤ (text.snapshots 0 text.length).length := by
    rw [same, List.length_map, snapshots_append (Nat.zero_le stop) inside, List.length_append]
    exact Nat.le_add_right _ _
  unfold DemoTract.passed Composition.released
  omega

omit running in
theorem Drained.passed (drained : Drained plan text tract)
    (sound : ∃ beginning, Sound config beginning tract) :
    tract.passed = 5 * text.length + 2 * (text.snapshots 0 text.length).length := by
  obtain ⟨beginning, sound⟩ := sound
  obtain ⟨tail, bits, hash, durable⟩ := drained.frontiers
  have head := sound.holds.head
  have length : text.length = plan.length := by
    rw [RecordString.length, records, length_storedRecords]
  unfold DemoTract.passed Composition.released
  rw [tail, bits, hash, durable, head, drained.published, drained.released.1, drained.collected,
    List.length_map, length]
  simp only [Option.isSome_none, Bool.false_eq_true, if_false]
  omega

end Drained

section Fair
variable {config : WalConfig} {plan : List (List UInt8)} {text : RecordString}
variable {tract start : DemoTract δ α α'}
variable [Device δ] [SliderAcquirePolicy α] [SliderAcquirePolicy α']
variable [LawfulAcquire α] [LawfulAcquire α']
variable (loggable : Loggable config plan) (records : text.records = storedRecords config plan)
include loggable records

/-- The roles of a tract bring a plan to its end. -/
theorem progress : FairRun.Progress (@DemoTract.turn δ α α' _ _ _ plan) (Running config plan)
    (Drained plan text) (fun role tract => tract.Due plan text role) Serves DemoTract.passed
    (5 * text.length + 2 * (text.snapshots 0 text.length).length) where
  keeps _ turn running := running.step loggable records turn
  bounded _ running := running.passed_le records
  never_lower _ turn running := (running.turned loggable records turn).passed_le
  some_due _ running left := running.some_due records left
  still_due role tract turn running due still := by
    cases running.turned loggable records turn with
    | idle nothing unmoved => exact unmoved.due due
    | raised further => exact absurd still (Nat.ne_of_gt further)
  served role tract turn running due serves := by
    obtain rfl := serves.1
    cases running.turned loggable records turn with
    | idle nothing unmoved => exact absurd ⟨due, serves⟩ nothing
    | raised further => exact further

/-- A plan that has been carried out stays so. -/
theorem Drained.stays (drained : Drained plan text tract) (running : Running config plan tract)
    (turn : DemoTurn α α') : Drained plan text (tract.turn plan turn) := by
  have running' := running.step loggable records turn
  have whole := drained.passed records running.sound
  cases running.turned loggable records turn with
  | idle nothing unmoved =>
    obtain ⟨tail, bits, hash, durable⟩ := drained.frontiers
    obtain ⟨free, hash_free, bits_free⟩ := drained.released
    obtain ⟨beginning, sound⟩ := running.sound
    refine running'.drained records ?_ ?_ ?_ ?_
    · have head := sound.holds.head
      rw [unmoved.tail, tail, bits, hash, durable, head, drained.published, RecordString.length,
        records, length_storedRecords]
    · rw [unmoved.generation, free]
    · rw [unmoved.hash_capture, hash_free]
    · rw [unmoved.bits_capture, bits_free]
  | raised further =>
    have most := running'.passed_le records
    omega

end Fair

/-- The roles have their turns one behind the other. -/
def roundRobin (k : ℕ) : DemoTurn AvailableRangeAcquire AvailableRangeAcquire :=
  match k % 7 with
  | 0 => .publishNext
  | 1 => .persistenceStep 1
  | 2 => .hashStep .policy
  | 3 => .bitStep .policy
  | 4 => .collect
  | 5 => .saveAndRelease .ok
  | _ => .reclaim

section Served
variable {config : WalConfig} {plan : List (List UInt8)} {text : RecordString}
variable {tract : DemoTract ReliableDevice AvailableRangeAcquire AvailableRangeAcquire}

/-- On a device that serves every call persistence goes on as long as the file has room. -/
theorem Running.persistence_served (loggable : Loggable config plan)
    (room : (fileImage config plan).length ≤ maxFileSize) (running : Running config plan tract)
    (alive : tract.persistence.failed = false) (maximumCount : UInt64) :
    (tract.persistenceStep maximumCount).2.persistence.failed = false := by
  obtain ⟨beginning, sound⟩ := running.sound
  obtain ⟨adapter, stands⟩ := sound.stands
  have bounded : Stands (stored config) tract.published adapter
      (tract.persistenceSlider.under ⟨maximumCount⟩) :=
    ⟨stands.stores, stands.inside, stands.running⟩
  refine bounded.processAvailable_served alive sound.shows sound.durable_le
    (Nat.le_of_eq sound.holds.head) ?_ ?_
  · exact fun payload member => loggable.sizes payload (running.planned.subset member)
  · obtain ⟨rest, whole⟩ := running.planned
    have begins : fileImage config tract.published <+: fileImage config plan :=
      whole ▸ fileImage_prefix
    rw [fileImage_stored]
    exact Nat.le_trans begins.length_le room

theorem Running.turn_served (loggable : Loggable config plan)
    (room : (fileImage config plan).length ≤ maxFileSize) (running : Running config plan tract)
    (alive : tract.persistence.failed = false)
    (turn : DemoTurn AvailableRangeAcquire AvailableRangeAcquire) :
    (tract.turn plan turn).persistence.failed = false := by
  cases turn with
  | publishNext =>
    unfold DemoTract.turn
    cases plan[tract.published.length]? with
    | none => exact alive
    | some payload => exact alive
  | persistenceStep maximumCount =>
    exact running.persistence_served loggable room alive maximumCount
  | _ => exact alive

/-- Every role has its turn, and persistence never fails. -/
theorem roundRobin_fair (loggable : Loggable config plan)
    (room : (fileImage config plan).length ≤ maxFileSize)
    (records : text.records = storedRecords config plan) (running : Running config plan tract)
    (alive : tract.persistence.failed = false) :
    FairRun.Fair Serves (DemoTract.turn plan) tract roundRobin := by
  have holds := @FairRun.stateAt_invariant _ _ (DemoTract.turn plan) tract roundRobin
    (fun state => Running config plan state ∧ state.persistence.failed = false) ⟨running, alive⟩
    fun state turn kept => ⟨kept.1.step loggable records turn,
      kept.1.turn_served loggable room kept.2 turn⟩
  intro role k
  have turn (i : ℕ) : roundRobin (7 * k + i) = roundRobin i := by
    rw [roundRobin, Nat.mul_add_mod, roundRobin]
  have later (i : ℕ) : k ≤ 7 * k + i := by omega
  cases role with
  | producer =>
    refine ⟨7 * k + 0, later 0, ?_⟩
    rw [turn]
    exact ⟨rfl, trivial⟩
  | persistence =>
    refine ⟨7 * k + 1, later 1, ?_⟩
    rw [turn]
    obtain ⟨running, alive⟩ := holds (7 * k + 1)
    exact ⟨rfl, by decide, running.persistence_served loggable room alive 1⟩
  | hash =>
    refine ⟨7 * k + 2, later 2, ?_⟩
    rw [turn]
    exact ⟨rfl, AvailableRangeAcquire.moves _⟩
  | bits =>
    refine ⟨7 * k + 3, later 3, ?_⟩
    rw [turn]
    exact ⟨rfl, AvailableRangeAcquire.moves _⟩
  | coordinator =>
    refine ⟨7 * k + 4, later 4, ?_⟩
    rw [turn]
    exact ⟨rfl, trivial⟩
  | sink =>
    refine ⟨7 * k + 5, later 5, ?_⟩
    rw [turn]
    exact ⟨rfl, rfl⟩
  | reclaimer =>
    refine ⟨7 * k + 6, later 6, ?_⟩
    rw [turn]
    exact ⟨rfl, trivial⟩

end Served

end DemoTract

end Fexma.SnapshotDemo
