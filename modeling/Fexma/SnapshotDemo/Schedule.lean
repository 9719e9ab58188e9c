import Fexma.SnapshotDemo.Stage

/-! The composition of the demo under any schedule. Its two stages run at their own positions
and the coordinator may collect or release at any moment; the generations that it collects
are those of the snapshot positions, in order. -/
namespace Fexma.SnapshotDemo

open Wal RecordString

/-- `collected` records the generations that were completed; no operation reads it. -/
structure Composition (α α' : Type) where
  hash : Stage HashChain α
  bits : Stage BitAccumulator α'
  coordinator : CaptureGenerationCoordinator := {}
  collected : List CaptureGeneration := []

namespace Composition

variable {α α' : Type}

def collect (composition : Composition α α') : CollectStatus × Composition α α' :=
  let answer := composition.coordinator.collect composition.hash.module composition.bits.module
  (answer.1,
    { composition with
      coordinator := answer.2
      collected :=
        if answer.1 = .complete then composition.collected ++ answer.2.generation.toList
        else composition.collected })

def releaseGeneration (composition : Composition α α') (generationId : UInt64) :
    Bool × Composition α α' :=
  let answer := composition.coordinator.releaseGeneration composition.hash.module
    composition.bits.module generationId
  (answer.1,
    { composition with
      coordinator := answer.2.1
      hash := { composition.hash with module := answer.2.2.1 }
      bits := { composition.bits with module := answer.2.2.2 } })

/-- `SnapshotSink::save_and_release`, with the outcome of saving a generation as a parameter. -/
def saveAndRelease (save : CaptureGeneration → SnapshotSaveStatus) (composition : Composition α α') :
    SnapshotSaveStatus × Composition α α' :=
  match composition.coordinator.generation with
  | none => (.generationUnavailable, composition)
  | some generation =>
    if save generation ≠ .ok then (save generation, composition)
    else
      let released := composition.releaseGeneration generation.generationId
      (if released.1 then .ok else .releaseError, released.2)

/-- Fresh modules at position zero. -/
def initial (rule : α) (rule' : α') : Composition α α' where
  hash := { module := .initial, acquirePolicy := rule, publishPolicy := .policy }
  bits := { module := .initial, acquirePolicy := rule', publishPolicy := .policy }

end Composition

/-- One atomic step of a schedule. A stage step names what its upstream has published. -/
inductive Action where
  | hashStep (upstream : Position)
  | bitStep (upstream : Position)
  | collect
  | release (generationId : UInt64)
  | saveAndRelease (saved : SnapshotSaveStatus)
  deriving DecidableEq, Repr

/-- The upstream of a stage is within the record string. -/
def Action.Within (text : RecordString) : Action → Prop
  | hashStep upstream | bitStep upstream => upstream.toNat ≤ text.length
  | _ => True

instance {text : RecordString} : (action : Action) → Decidable (action.Within text)
  | .hashStep upstream | .bitStep upstream =>
    inferInstanceAs (Decidable (upstream.toNat ≤ text.length))
  | .collect | .release _ | .saveAndRelease _ => .isTrue trivial

section Schedule
variable {α α' : Type} [SliderAcquirePolicy α] [SliderAcquirePolicy α']
variable (text : RecordString)

def perform (composition : Composition α α') : Action → Composition α α'
  | .hashStep upstream =>
    { composition with hash := (composition.hash.processAvailable text.view upstream).2 }
  | .bitStep upstream =>
    { composition with bits := (composition.bits.processAvailable text.view upstream).2 }
  | .collect => composition.collect.2
  | .release generationId => (composition.releaseGeneration generationId).2
  | .saveAndRelease saved => (composition.saveAndRelease fun _ => saved).2

/-- What any schedule makes of a composition. -/
inductive Reaches (start : Composition α α') : Composition α α' → Prop
  | start : Reaches start start
  | step {composition : Composition α α'} (reached : Reaches start composition) (action : Action)
    (within : action.Within text) : Reaches start (perform text composition action)

variable {text} in
theorem Reaches.trans {first second third : Composition α α'} (before : Reaches text first second)
    (behind : Reaches text second third) : Reaches text first third := by
  induction behind with
  | start => exact before
  | step _ action within ih => exact ih.step action within

end Schedule

/-! ### What every schedule keeps -/

section Consistency
variable {α α' : Type} {text : RecordString} {start floor : ℕ} {composition : Composition α α'}

/-- All generations below the floor have been released. Both stages stand over the same floor,
and a pending generation is the one of the next snapshot position, which both slots hold. -/
structure Consistent (text : RecordString) (start floor : ℕ) (composition : Composition α α') :
    Prop where
  hash : Standing text floor composition.hash
  bits : Standing text floor composition.bits
  from_start : start ≤ floor
  pending : ∀ generation, composition.coordinator.generation = some generation →
    ∃ index, Next text floor index ∧ generation = text.generationAt index ∧
      composition.hash.module.capture = some (text.captureAt HashChain index) ∧
      composition.bits.module.capture = some (text.captureAt BitAccumulator index) ∧
      composition.collected = (text.snapshots start (index + 1)).map text.generationAt
  idle : composition.coordinator.generation = none →
    composition.collected = (text.snapshots start floor).map text.generationAt

/-- With a free slot there is no snapshot position between the floor and the stage. -/
theorem Standing.snapshots {β : Type} [Participant β] {stage : Stage β α}
    (standing : Standing text floor stage) (from_start : start ≤ floor)
    (free : stage.module.capture = none) :
    text.snapshots start stage.current.toNat = text.snapshots start floor := by
  have slot := standing.slot
  rw [free] at slot
  cases slot with
  | free clear =>
    rw [snapshots_append from_start standing.reached, snapshots_eq_nil clear, List.append_nil]

/-- With a free slot nothing is pending. -/
theorem Consistent.idle_of_free (consistent : Consistent text start floor composition)
    (free : composition.hash.module.capture = none) :
    composition.coordinator.generation = none := by
  by_contra pending
  obtain ⟨generation, pending⟩ := Option.ne_none_iff_exists'.mp pending
  obtain ⟨_, _, _, full, _⟩ := consistent.pending generation pending
  rw [free] at full
  cases full

/-- Two full slots over one floor hold the captures of one position. -/
theorem Consistent.together (consistent : Consistent text start floor composition)
    {hash : HashChainCapture} {bits : BitAccumulatorCapture}
    (hash_full : composition.hash.module.capture = some hash)
    (bits_full : composition.bits.module.capture = some bits) :
    ∃ index, Next text floor index ∧ hash = text.captureAt HashChain index ∧
      bits = text.captureAt BitAccumulator index := by
  have hash_slot := consistent.hash.slot
  have bits_slot := consistent.bits.slot
  rw [hash_full] at hash_slot
  rw [bits_full] at bits_slot
  cases hash_slot with
  | @full index next behind clear =>
    cases bits_slot with
    | @full other next' behind' clear' =>
      obtain rfl := next.unique next'
      exact ⟨index, next, rfl, rfl⟩

/-- Captures of one position are a generation. -/
theorem collect_captures {index : ℕ} (free : composition.coordinator.generation = none)
    (hash_full : composition.hash.module.capture = some (text.captureAt HashChain index))
    (bits_full : composition.bits.module.capture = some (text.captureAt BitAccumulator index)) :
    composition.collect =
      (.complete,
        { composition with
          coordinator := { generation := some (text.generationAt index) }
          collected := composition.collected ++ [text.generationAt index] }) := by
  unfold Composition.collect CaptureGenerationCoordinator.collect
  rw [free, hash_full, bits_full]
  simp [captureAt, stateAfter, generationAt]

/-- What a collection comes to: nothing, or the generation of the next snapshot position. -/
theorem Consistent.collect_cases (consistent : Consistent text start floor composition) :
    composition.collect.1 ≠ .mismatch ∧ (composition.collect.2 = composition ∨
      composition.coordinator.generation = none ∧
      ∃ index, Next text floor index ∧
        composition.hash.module.capture = some (text.captureAt HashChain index) ∧
        composition.bits.module.capture = some (text.captureAt BitAccumulator index) ∧
        composition.collect =
          (.complete,
            { composition with
              coordinator := { generation := some (text.generationAt index) }
              collected := composition.collected ++ [text.generationAt index] })) := by
  cases pending : composition.coordinator.generation with
  | some generation =>
    unfold Composition.collect CaptureGenerationCoordinator.collect
    rw [pending]
    exact ⟨nofun, .inl rfl⟩
  | none =>
    cases hash_full : composition.hash.module.capture with
    | none =>
      unfold Composition.collect CaptureGenerationCoordinator.collect
      rw [pending, hash_full]
      exact ⟨nofun, .inl rfl⟩
    | some hash =>
      cases bits_full : composition.bits.module.capture with
      | none =>
        unfold Composition.collect CaptureGenerationCoordinator.collect
        rw [pending, hash_full, bits_full]
        exact ⟨nofun, .inl rfl⟩
      | some bits =>
        obtain ⟨index, next, rfl, rfl⟩ := consistent.together hash_full bits_full
        have collected := collect_captures pending hash_full bits_full
        refine ⟨?_, .inr ⟨rfl, index, next, rfl, rfl, collected⟩⟩
        rw [collected]
        exact nofun

/-- What a release comes to: nothing, or the generation and both slots are cleared and the
floor is behind the released position. -/
theorem Consistent.release_cases (consistent : Consistent text start floor composition)
    (generationId : UInt64) :
    composition.releaseGeneration generationId = (false, composition) ∨
      ∃ index, Next text floor index ∧
        composition.coordinator.generation = some (text.generationAt index) ∧
        (composition.releaseGeneration generationId).1 = true ∧
        (composition.releaseGeneration generationId).2.coordinator.generation = none ∧
        (composition.releaseGeneration generationId).2.hash.module.capture = none ∧
        (composition.releaseGeneration generationId).2.bits.module.capture = none ∧
        Consistent text start (index + 1) (composition.releaseGeneration generationId).2 := by
  unfold Composition.releaseGeneration
  rcases CaptureGenerationCoordinator.releaseGeneration_cases with kept | ⟨⟨generation, pending, -⟩, cleared⟩
  · rw [kept]
    exact .inl rfl
  · rw [cleared]
    obtain ⟨index, next, rfl, hash_full, bits_full, collected⟩ :=
      consistent.pending generation pending
    obtain ⟨hash_slot, hash_behind⟩ := consistent.hash.slot.released hash_full next
    obtain ⟨bits_slot, bits_behind⟩ := consistent.bits.slot.released bits_full next
    refine .inr ⟨index, next, pending, rfl, rfl, rfl, rfl, ?_⟩
    constructor
    case hash =>
      obtain ⟨state, published, inside, -, -⟩ := consistent.hash
      exact ⟨state, published, inside, hash_behind, hash_slot⟩
    case bits =>
      obtain ⟨state, published, inside, -, -⟩ := consistent.bits
      exact ⟨state, published, inside, bits_behind, bits_slot⟩
    case from_start => exact Nat.le_succ_of_le (Nat.le_trans consistent.from_start next.above)
    case pending => exact fun _ impossible => nomatch impossible
    case idle => exact fun _ => collected

/-- A saved generation is released; without one, or when it is not saved, nothing changes. -/
theorem Composition.saveAndRelease_cases (save : CaptureGeneration → SnapshotSaveStatus) :
    (composition.saveAndRelease save).2 = composition ∨
      ∃ generationId, (composition.saveAndRelease save).2 =
        (composition.releaseGeneration generationId).2 := by
  unfold Composition.saveAndRelease
  split
  · exact .inl rfl
  · next generation pending =>
    split_ifs with unsaved
    · exact .inl rfl
    · exact .inr ⟨generation.generationId, rfl⟩

section Steps
variable [SliderAcquirePolicy α] [SliderAcquirePolicy α'] [LawfulAcquire α] [LawfulAcquire α']

theorem Consistent.step (consistent : Consistent text start floor composition) {action : Action}
    (within : action.Within text) :
    ∃ floor', floor ≤ floor' ∧ Consistent text start floor' (perform text composition action) := by
  have released (generationId : UInt64) : ∃ floor', floor ≤ floor' ∧
      Consistent text start floor' (composition.releaseGeneration generationId).2 := by
    rcases consistent.release_cases generationId with kept | ⟨index, next, -, -, -, -, -, consistent'⟩
    · rw [kept]
      exact ⟨floor, Nat.le_refl _, consistent⟩
    · exact ⟨index + 1, Nat.le_succ_of_le next.above, consistent'⟩
  cases action with
  | hashStep upstream =>
    refine ⟨floor, Nat.le_refl _, ?_⟩
    obtain ⟨⟨stands, -⟩, -⟩ := consistent.hash.processAvailable within
    refine { consistent with hash := stands, pending := fun generation pending => ?_ }
    obtain ⟨index, next, same, hash_full, bits_full, collected⟩ := consistent.pending generation pending
    exact ⟨index, next, same, consistent.hash.capture_kept within hash_full, bits_full, collected⟩
  | bitStep upstream =>
    refine ⟨floor, Nat.le_refl _, ?_⟩
    obtain ⟨⟨stands, -⟩, -⟩ := consistent.bits.processAvailable within
    refine { consistent with bits := stands, pending := fun generation pending => ?_ }
    obtain ⟨index, next, same, hash_full, bits_full, collected⟩ := consistent.pending generation pending
    exact ⟨index, next, same, hash_full, consistent.bits.capture_kept within bits_full, collected⟩
  | collect =>
    refine ⟨floor, Nat.le_refl _, ?_⟩
    rcases consistent.collect_cases with
      ⟨-, kept | ⟨free, index, next, hash_full, bits_full, collected⟩⟩
    · change Consistent text start floor composition.collect.2
      rwa [kept]
    · change Consistent text start floor composition.collect.2
      rw [collected]
      refine
        { consistent with
          pending := fun generation pending => ?_
          idle := fun impossible => nomatch impossible }
      obtain rfl := Option.some.inj pending
      refine ⟨index, next, rfl, hash_full, bits_full, ?_⟩
      rw [next.snapshots consistent.from_start, List.map_append, ← consistent.idle free]
      rfl
  | release generationId => exact released generationId
  | saveAndRelease saved =>
    rcases composition.saveAndRelease_cases (fun _ => saved) with kept | ⟨generationId, same⟩
    · refine ⟨floor, Nat.le_refl _, ?_⟩
      change Consistent text start floor (composition.saveAndRelease fun _ => saved).2
      rwa [kept]
    · obtain ⟨floor', above, consistent'⟩ := released generationId
      refine ⟨floor', above, ?_⟩
      change Consistent text start floor' (composition.saveAndRelease fun _ => saved).2
      rwa [same]

/-- Every schedule keeps a composition consistent. -/
theorem Reaches.consistent {first : Composition α α'} (reached : Reaches text first composition)
    (begins : Consistent text start floor first) :
    ∃ floor', Consistent text start floor' composition := by
  induction reached with
  | start => exact ⟨floor, begins⟩
  | step reached action within ih =>
    obtain ⟨floor', consistent⟩ := ih
    obtain ⟨floor'', -, consistent'⟩ := consistent.step within
    exact ⟨floor'', consistent'⟩

omit [SliderAcquirePolicy α] [SliderAcquirePolicy α'] [LawfulAcquire α] [LawfulAcquire α'] in
theorem Consistent.initial (rule : α) (rule' : α') :
    Consistent text 0 0 (.initial rule rule') where
  hash := ⟨rfl, rfl, Nat.zero_le _, Nat.le_refl _, .free nofun⟩
  bits := ⟨rfl, rfl, Nat.zero_le _, Nat.le_refl _, .free nofun⟩
  from_start := Nat.le_refl _
  pending := nofun
  idle _ := rfl

end Steps

end Consistency

/-! ### What the schedule shows -/

section Results
variable {α α' β : Type} [Participant β]

/-- Everything that is held is still held. -/
structure Keeps (before after : Composition α α') : Prop where
  generation : ∀ generation, before.coordinator.generation = some generation →
    after.coordinator.generation = some generation
  hash : ∀ capture, before.hash.module.capture = some capture →
    after.hash.module.capture = some capture
  bits : ∀ capture, before.bits.module.capture = some capture →
    after.bits.module.capture = some capture

/-- A generation and both captures were held, and none of them is. -/
structure Clears (before after : Composition α α') : Prop where
  generation : before.coordinator.generation.isSome ∧ after.coordinator.generation = none
  hash : before.hash.module.capture.isSome ∧ after.hash.module.capture = none
  bits : before.bits.module.capture.isSome ∧ after.bits.module.capture = none

def Action.Releases : Action → Prop
  | release _ | saveAndRelease _ => True
  | _ => False

/-- The module refuses the record in front of it without a change, its calls leave the stage as
it is, and it takes the record once its slot is free. -/
structure RefusesUntilReleased [SliderAcquirePolicy α] (text : RecordString) (stage : Stage β α) :
    Prop where
  refuses : stage.module.process (text.recordAt stage.current.toNat) = (false, stage.module)
  stays : ∀ upstream, (stage.processAvailable text.view upstream).2 = stage
  takes : ({ stage.module with capture := none }.process
    (text.recordAt stage.current.toNat)).1 = true

/-- A stage in front of a snapshot record with its slot occupied. -/
def AtOccupied (text : RecordString) (stage : Stage β α) : Prop :=
  text.IsSnapshot stage.current.toNat ∧ stage.module.capture.isSome

variable [SliderAcquirePolicy α] [SliderAcquirePolicy α']

/-- A call goes well unless its upstream went back or it ends at an occupied slot. -/
def StopsOnlyOccupied (text : RecordString) (stage : Stage β α) : Prop :=
  ∀ upstream : Position, upstream.toNat ≤ text.length → stage.current ≤ upstream →
    (stage.processAvailable text.view upstream).1.ok ∨
      AtOccupied text (stage.processAvailable text.view upstream).2

/-- What is promised of the generations of a composition that started at position zero. -/
structure SoundGenerations (text : RecordString) (composition : Composition α α') : Prop where
  no_mismatch : composition.collect.1 ≠ .mismatch
  whole : ∀ generation, generation ∈ composition.collected ∨
    composition.coordinator.generation = some generation →
    ∃ index, text.IsSnapshot index ∧ generation = text.generationAt index
  held : ∀ action : Action, action.Within text →
    Keeps composition (perform text composition action) ∨
      action.Releases ∧ Clears composition (perform text composition action)
  hash_refuses : AtOccupied text composition.hash → RefusesUntilReleased text composition.hash
  bits_refuses : AtOccupied text composition.bits → RefusesUntilReleased text composition.bits
  hash_stops : StopsOnlyOccupied text composition.hash
  bits_stops : StopsOnlyOccupied text composition.bits
  hash_running : composition.hash.module.state.failed = false
  bits_running : composition.bits.module.state.failed = false
  in_order : composition.collected <+: (text.snapshots 0 text.length).map text.generationAt
  complete : composition.hash.module.capture = none → composition.bits.module.capture = none →
    composition.collected =
        (text.snapshots 0 composition.hash.current.toNat).map text.generationAt ∧
      composition.collected =
        (text.snapshots 0 composition.bits.current.toNat).map text.generationAt

section Proofs
variable {text : RecordString} {floor : ℕ} {composition : Composition α α'}
variable [LawfulAcquire α] [LawfulAcquire α']

omit [SliderAcquirePolicy α'] [LawfulAcquire α'] in
private theorem Standing.refusesUntilReleased {stage : Stage β α} (standing : Standing text floor stage)
    (occupied : AtOccupied text stage) : RefusesUntilReleased text stage := by
  have refused : Refused text floor stage := ⟨standing, occupied.1, occupied.2⟩
  exact ⟨refused.process, fun _ => refused.processAvailable, refused.released⟩

omit [SliderAcquirePolicy α'] [LawfulAcquire α'] in
private theorem Standing.stopsOnlyOccupied {stage : Stage β α} (standing : Standing text floor stage) :
    StopsOnlyOccupied text stage := by
  intro upstream within ahead
  obtain ⟨-, -, fine | ⟨backward, -⟩ | refused⟩ := standing.processAvailable within
  · exact .inl fine
  · exact absurd ahead (UInt64.not_le.mpr backward)
  · exact .inr ⟨refused.snapshot, refused.occupied⟩

omit [Participant β] [SliderAcquirePolicy α] [SliderAcquirePolicy α'] [LawfulAcquire α]
  [LawfulAcquire α'] in
private theorem Keeps.refl : Keeps composition composition := ⟨fun _ same => same, fun _ same => same, fun _ same => same⟩

omit [Participant β] [SliderAcquirePolicy α] [SliderAcquirePolicy α'] [LawfulAcquire α]
  [LawfulAcquire α'] in
private theorem Consistent.released (consistent : Consistent text 0 floor composition)
    (generationId : UInt64) :
    Keeps composition (composition.releaseGeneration generationId).2 ∨
      Clears composition (composition.releaseGeneration generationId).2 := by
  rcases consistent.release_cases generationId with
    kept | ⟨index, next, pending, -, generation, hash, bits, -⟩
  · rw [kept]
    exact .inl .refl
  · obtain ⟨_, _, _, hash_full, bits_full, _⟩ := consistent.pending _ pending
    refine .inr ⟨⟨?_, generation⟩, ⟨?_, hash⟩, ⟨?_, bits⟩⟩
    · rw [pending]
      rfl
    · rw [hash_full]
      rfl
    · rw [bits_full]
      rfl

private theorem Consistent.held (consistent : Consistent text 0 floor composition) {action : Action}
    (within : action.Within text) : Keeps composition (perform text composition action) ∨
      action.Releases ∧ Clears composition (perform text composition action) := by
  cases action with
  | hashStep upstream =>
    refine .inl ⟨fun _ same => same, fun capture full => ?_, fun _ same => same⟩
    exact consistent.hash.capture_kept within full
  | bitStep upstream =>
    refine .inl ⟨fun _ same => same, fun _ same => same, fun capture full => ?_⟩
    exact consistent.bits.capture_kept within full
  | collect =>
    left
    change Keeps composition composition.collect.2
    obtain ⟨-, kept | ⟨free, index, -, -, -, collected⟩⟩ := consistent.collect_cases
    · rw [kept]
      exact .refl
    · rw [collected]
      refine ⟨fun generation pending => ?_, fun _ same => same, fun _ same => same⟩
      rw [free] at pending
      cases pending
  | release generationId =>
    exact (consistent.released generationId).imp_right fun cleared => ⟨trivial, cleared⟩
  | saveAndRelease saved =>
    change Keeps composition (composition.saveAndRelease fun _ => saved).2 ∨
      _ ∧ Clears composition (composition.saveAndRelease fun _ => saved).2
    rcases composition.saveAndRelease_cases (fun _ => saved) with kept | ⟨generationId, same⟩
    · rw [kept]
      exact .inl .refl
    · rw [same]
      exact (consistent.released generationId).imp_right fun cleared => ⟨trivial, cleared⟩

omit [Participant β] [SliderAcquirePolicy α] [SliderAcquirePolicy α'] [LawfulAcquire α]
  [LawfulAcquire α'] in
/-- The collected generations are those of the snapshot positions up to some position. -/
theorem Consistent.collected (consistent : Consistent text 0 floor composition) :
    ∃ stop, stop ≤ text.length ∧
      composition.collected = (text.snapshots 0 stop).map text.generationAt := by
  cases pending : composition.coordinator.generation with
  | none =>
    exact ⟨floor, Nat.le_trans consistent.hash.reached consistent.hash.inside,
      consistent.idle pending⟩
  | some generation =>
    obtain ⟨index, next, -, -, -, collected⟩ := consistent.pending generation pending
    exact ⟨index + 1, next.snapshot.1, collected⟩

omit [Participant β] [SliderAcquirePolicy α] [SliderAcquirePolicy α'] [LawfulAcquire α]
  [LawfulAcquire α'] in
private theorem Consistent.whole (consistent : Consistent text 0 floor composition)
    (generation : CaptureGeneration) (held : generation ∈ composition.collected ∨
      composition.coordinator.generation = some generation) :
    ∃ index, text.IsSnapshot index ∧ generation = text.generationAt index := by
  rcases held with member | pending
  · obtain ⟨stop, -, collected⟩ := consistent.collected
    rw [collected, List.mem_map] at member
    obtain ⟨index, member, same⟩ := member
    exact ⟨index, (mem_snapshots.mp member).2, same.symm⟩
  · obtain ⟨index, next, same, -⟩ := consistent.pending generation pending
    exact ⟨index, next.snapshot, same⟩

omit [Participant β] in
theorem Consistent.sound (consistent : Consistent text 0 floor composition) :
    SoundGenerations text composition where
  no_mismatch := consistent.collect_cases.1
  whole := consistent.whole
  held _ within := consistent.held within
  hash_refuses := consistent.hash.refusesUntilReleased
  bits_refuses := consistent.bits.refusesUntilReleased
  hash_stops := consistent.hash.stopsOnlyOccupied
  bits_stops := consistent.bits.stopsOnlyOccupied
  hash_running := by rw [consistent.hash.state]; rfl
  bits_running := by rw [consistent.bits.state]; rfl
  in_order := by
    obtain ⟨stop, inside, collected⟩ := consistent.collected
    rw [collected, snapshots_append (Nat.zero_le stop) inside, List.map_append]
    exact List.prefix_append _ _
  complete hash_free bits_free := by
    have idle := consistent.idle_of_free hash_free
    rw [consistent.hash.snapshots (Nat.zero_le _) hash_free,
      consistent.bits.snapshots (Nat.zero_le _) bits_free]
    exact ⟨consistent.idle idle, consistent.idle idle⟩

end Proofs

end Results

/-- Any schedule of stage steps, collections and releases over a record string: collections
never mismatch, a generation holds both states behind one snapshot position, what is held
stays until it is released as a whole, an occupied slot only delays its stage, no module
fails, and the generations are those of the snapshot positions in order. -/
theorem generations_consistent {α α' : Type} [SliderAcquirePolicy α] [SliderAcquirePolicy α']
    [LawfulAcquire α] [LawfulAcquire α'] {text : RecordString} {rule : α} {rule' : α'}
    {composition : Composition α α'} (reached : Reaches text (.initial rule rule') composition) :
    SoundGenerations text composition := by
  obtain ⟨floor, consistent⟩ := reached.consistent (Consistent.initial rule rule')
  exact consistent.sound

/-- A snapshot record, a data record and another snapshot record. -/
def snapshotString : RecordString where
  records :=
    [⟨1000, (encodeSaveSnapshot 0).val⟩, ⟨1001, (encodeData ⟨List.replicate 48 7, rfl⟩).val⟩,
      ⟨1002, (encodeSaveSnapshot 2).val⟩]
  fits := by decide
  decoded := by
    intro record member
    simp only [List.mem_cons, List.not_mem_nil, or_false] at member
    rcases member with rfl | rfl | rfl
    · rw [decodeRecord_encodeSaveSnapshot]
    · rw [decodeRecord_encodeData]
    · rw [decodeRecord_encodeSaveSnapshot]
  generations := by
    intro position record found snapshot
    match position with
    | 0 =>
      cases found
      rw [decodeRecord_encodeSaveSnapshot]
      rfl
    | 1 =>
      cases found
      rw [decodeRecord_encodeData] at snapshot
      cases snapshot
    | 2 =>
      cases found
      rw [decodeRecord_encodeSaveSnapshot]
      rfl
    | position + 3 => cases found

theorem generations_consistent_in_flight :
    ∃ composition, Reaches snapshotString
        (.initial AvailableRangeAcquire.policy AvailableRangeAcquire.policy) composition ∧
      SoundGenerations snapshotString composition ∧
      composition.hash.current = 2 ∧ composition.hash.module.capture.isSome ∧
      composition.coordinator.generation.isSome := by
  have started : Reaches snapshotString
      (.initial AvailableRangeAcquire.policy AvailableRangeAcquire.policy)
      (.initial AvailableRangeAcquire.policy AvailableRangeAcquire.policy) := .start
  have reached := (started.step (.hashStep 3) (by decide)).step (.bitStep 1) (by decide)
  refine ⟨_, reached.step .collect trivial, generations_consistent (reached.step .collect trivial),
    ?_, ?_, ?_⟩
  · decide
  · decide
  · decide

end Fexma.SnapshotDemo
