import Fexma.SnapshotDemo.Schedule
import Fexma.SnapshotDemo.SnapshotSink

/-! Bootstrap from a snapshot (`bootstrap.hpp`). A composition that is restored from the saved
generation of a snapshot position goes on as the run that took it: behind the same position
it holds the same states, and it makes the same later generations. -/
namespace Fexma.SnapshotDemo

open Wal RecordString CrashProgram Program

variable {α α' : Type}

/-- `restore_snapshot_quiescent`: both modules, both sliders and both frontiers, or nothing. -/
def restoreSnapshotQuiescent (loader : SnapshotLoader) (root : Tree) (generationId : UInt64)
    (composition : Composition α α') : SnapshotLoadStatus × Composition α α' :=
  let loaded := loader.loadFrom root generationId
  match loaded.ok, loaded.prepared with
  | true, some prepared =>
    let resumePosition := prepared.description.processedEnd
    let hash :=
      { composition.hash with module := composition.hash.module.restoreQuiescent prepared.hashChain }
    let bits :=
      { composition.bits with
        module := composition.bits.module.restoreQuiescent prepared.bitAccumulator }
    (.ok,
      { composition with
        hash := hash.resetQuiescent resumePosition
        bits := bits.resetQuiescent resumePosition })
  | _, _ => (loaded.status, composition)

/-! ### A schedule that releases every capture -/

section Schedules
variable [SliderAcquirePolicy α] [SliderAcquirePolicy α']
variable {text : RecordString} {start position : ℕ} {composition : Composition α α'}

/-- Both stages stand at a position with free slots, under policies that move. -/
structure AtRest (text : RecordString) (start position : ℕ) (composition : Composition α α') :
    Prop where
  consistent : ∃ floor, Consistent text start floor composition
  hash : composition.hash.current.toNat = position
  bits : composition.bits.current.toNat = position
  hash_free : composition.hash.module.capture = none
  bits_free : composition.bits.module.capture = none
  hash_moves : Moves composition.hash.acquirePolicy
  bits_moves : Moves composition.bits.acquirePolicy

/-- Both stages stand behind a snapshot position whose generation is pending. -/
structure AtCut (text : RecordString) (start position : ℕ) (composition : Composition α α') :
    Prop where
  consistent : ∃ floor, Consistent text start floor composition
  hash : composition.hash.current.toNat = position + 1
  bits : composition.bits.current.toNat = position + 1
  hash_full : composition.hash.module.capture = some (text.captureAt HashChain position)
  bits_full : composition.bits.module.capture = some (text.captureAt BitAccumulator position)
  pending : composition.coordinator.generation = some (text.generationAt position)
  hash_moves : Moves composition.hash.acquirePolicy
  bits_moves : Moves composition.bits.acquirePolicy

/-- Each stage takes one record. -/
def advanced (text : RecordString) (composition : Composition α α') : Composition α α' :=
  perform text (perform text composition (.hashStep (composition.hash.current + 1)))
    (.bitStep (composition.bits.current + 1))

variable [LawfulAcquire α] [LawfulAcquire α']

theorem AtRest.advanced (rest : AtRest text start position composition)
    (inside : position < text.length) :
    Reaches text composition (advanced text composition) ∧
      ∃ floor, Consistent text start floor (advanced text composition) ∧
        Onward text floor composition.hash (advanced text composition).hash ∧
        Onward text floor composition.bits (advanced text composition).bits := by
  obtain ⟨floor, consistent⟩ := rest.consistent
  have hash_inside : composition.hash.current.toNat < text.length := rest.hash ▸ inside
  have bits_inside : composition.bits.current.toNat < text.length := rest.bits ▸ inside
  have hash := consistent.hash.processAvailable_next rest.hash_moves hash_inside rest.hash_free
  have bits := consistent.bits.processAvailable_next rest.bits_moves bits_inside rest.bits_free
  have within {current : Position} (inside : current.toNat < text.length) :
      (current + 1).toNat ≤ text.length := by
    have fits := text.fits
    rw [UInt64.toNat_add]
    exact Nat.le_trans (Nat.mod_le _ _) inside
  have reached : Reaches text composition (Fexma.SnapshotDemo.advanced text composition) :=
    (Reaches.start.step (.hashStep _) (within hash_inside)).step (.bitStep _) (within bits_inside)
  refine ⟨reached, floor, ?_, hash, bits⟩
  have idle := consistent.idle_of_free rest.hash_free
  refine ⟨hash.standing, bits.standing, consistent.from_start, fun generation pending => ?_,
    fun _ => consistent.idle idle⟩
  change composition.coordinator.generation = some generation at pending
  rw [idle] at pending
  cases pending

theorem AtRest.advanced_atRest (rest : AtRest text start position composition)
    (inside : position < text.length) (data : ¬ text.IsSnapshot position) :
    AtRest text start (position + 1) (Fexma.SnapshotDemo.advanced text composition) := by
  obtain ⟨-, floor, consistent, hash, bits⟩ := rest.advanced inside
  have hash_data : ¬ text.IsSnapshot composition.hash.current.toNat := rest.hash ▸ data
  have bits_data : ¬ text.IsSnapshot composition.bits.current.toNat := rest.bits ▸ data
  constructor
  case consistent => exact ⟨floor, consistent⟩
  case hash => exact hash.current.trans (congrArg (· + 1) rest.hash)
  case bits => exact bits.current.trans (congrArg (· + 1) rest.bits)
  case hash_free => exact hash.capture.trans (if_neg hash_data)
  case bits_free => exact bits.capture.trans (if_neg bits_data)
  case hash_moves => exact hash.rule ▸ rest.hash_moves
  case bits_moves => exact bits.rule ▸ rest.bits_moves

/-- Behind a snapshot position the coordinator collects its generation. -/
theorem AtRest.atCut (rest : AtRest text start position composition)
    (snapshot : text.IsSnapshot position) :
    ∃ cut, Reaches text composition cut ∧ AtCut text start position cut := by
  obtain ⟨reached, floor, consistent, hash, bits⟩ := rest.advanced snapshot.1
  obtain ⟨before, first⟩ := rest.consistent
  have idle : (Fexma.SnapshotDemo.advanced text composition).coordinator.generation = none :=
    first.idle_of_free rest.hash_free
  have hash_full := hash.capture.trans (if_pos (rest.hash ▸ snapshot))
  have bits_full := bits.capture.trans (if_pos (rest.bits ▸ snapshot))
  rw [rest.hash] at hash_full
  rw [rest.bits] at bits_full
  have collected := collect_captures idle hash_full bits_full
  have stepped := reached.step .collect trivial
  have cut : Reaches text composition (Fexma.SnapshotDemo.advanced text composition).collect.2 :=
    stepped
  obtain ⟨floor', consistent'⟩ := cut.consistent first
  rw [collected] at cut consistent'
  refine ⟨_, cut, ⟨floor', consistent'⟩, ?_, ?_, hash_full, bits_full, rfl, ?_, ?_⟩
  · exact hash.current.trans (congrArg (· + 1) rest.hash)
  · exact bits.current.trans (congrArg (· + 1) rest.bits)
  · exact hash.rule ▸ rest.hash_moves
  · exact bits.rule ▸ rest.bits_moves

/-- A pending generation that both slots hold is released. -/
theorem AtCut.released (cut : AtCut text start position composition) :
    AtRest text start (position + 1)
      (perform text composition (.release (.ofNat position))) := by
  have held {β : Type} [Participant β] {module : StatefulModule β}
      (full : module.capture = some (text.captureAt β position)) :
      CaptureGenerationCoordinator.holds module (text.generationAt position).generationId
        (text.generationAt position).processedEnd := by
    rw [CaptureGenerationCoordinator.holds, full]
    exact Bool.and_eq_true_iff.mpr ⟨decide_eq_true rfl, decide_eq_true rfl⟩
  have released := CaptureGenerationCoordinator.releaseGeneration_held cut.pending
    (held cut.hash_full) (held cut.bits_full)
  obtain ⟨floor, consistent⟩ := cut.consistent
  have within : (Action.release (.ofNat position)).Within text := trivial
  obtain ⟨floor', -, consistent'⟩ := consistent.step within
  change Consistent text start floor' (composition.releaseGeneration (.ofNat position)).2
    at consistent'
  change AtRest text start (position + 1) (composition.releaseGeneration (.ofNat position)).2
  have answer : (composition.releaseGeneration (.ofNat position)).2 =
      { composition with
        coordinator := { generation := none }
        hash := { composition.hash with module := { composition.hash.module with capture := none } }
        bits := { composition.bits with module := { composition.bits.module with capture := none } } } := by
    change (composition.releaseGeneration (text.generationAt position).generationId).2 = _
    rw [Composition.releaseGeneration, released]
  rw [answer] at consistent' ⊢
  exact ⟨⟨floor', consistent'⟩, cut.hash, cut.bits, rfl, rfl, cut.hash_moves, cut.bits_moves⟩

theorem AtRest.next (rest : AtRest text start position composition)
    (inside : position < text.length) :
    ∃ next, Reaches text composition next ∧ AtRest text start (position + 1) next := by
  by_cases snapshot : text.IsSnapshot position
  · obtain ⟨cut, reached, held⟩ := rest.atCut snapshot
    exact ⟨_, reached.step (.release (.ofNat position)) trivial, held.released⟩
  · exact ⟨_, (rest.advanced inside).1, rest.advanced_atRest inside snapshot⟩

/-- Every position that is ahead is reached. -/
theorem AtRest.reaches {stop : ℕ} (rest : AtRest text start position composition)
    (ahead : position ≤ stop) (inside : stop ≤ text.length) :
    ∃ next, Reaches text composition next ∧ AtRest text start stop next := by
  induction ahead with
  | refl => exact ⟨composition, .start, rest⟩
  | step _ ih =>
    obtain ⟨middle, reached, rest'⟩ := ih (Nat.le_of_succ_le inside)
    obtain ⟨next, reached', rest''⟩ := rest'.next inside
    exact ⟨next, reached.trans reached', rest''⟩

end Schedules

/-! ### What a restore comes to -/

section Restore
variable {text : RecordString} {position : ℕ} {generation : CaptureGeneration}
variable {composition : Composition α α'}

/-- Both modules hold the captured states and no capture, and both stages resume at one
position. -/
structure Restored (generation : CaptureGeneration) (resume : Position)
    (composition : Composition α α') : Prop where
  hash : composition.hash.module = { state := generation.hashChain.state, capture := none }
  bits : composition.bits.module = { state := generation.bitAccumulator.state, capture := none }
  hash_slider : composition.hash.current = resume
  hash_frontier : composition.hash.own = resume
  bits_slider : composition.bits.current = resume
  bits_frontier : composition.bits.own = resume

/-- A load that is not successful changes nothing. -/
theorem restoreSnapshotQuiescent_failed {loader : SnapshotLoader} {root : Tree}
    {generationId : UInt64} (failed : (loader.loadFrom root generationId).ok = false) :
    restoreSnapshotQuiescent loader root generationId composition =
      ((loader.loadFrom root generationId).status, composition) := by
  unfold restoreSnapshotQuiescent
  dsimp only
  rw [failed]

variable (composition) in
/-- A saved generation is restored, under the policies of the composition. -/
theorem restoreSnapshotQuiescent_saved {sink : SnapshotSink} {root : Tree}
    {fates : List (Fate Remnant)} (saved : ((sink.save generation).run fates root).1 = some .ok) :
    ∃ restored, restoreSnapshotQuiescent sink.loader ((sink.save generation).run fates root).2
        generation.generationId composition = (.ok, restored) ∧
      Restored generation generation.processedEnd restored ∧
      restored.coordinator = composition.coordinator ∧
      restored.collected = composition.collected ∧
      restored.hash.acquirePolicy = composition.hash.acquirePolicy ∧
      restored.bits.acquirePolicy = composition.bits.acquirePolicy := by
  unfold restoreSnapshotQuiescent
  rw [load_of_saved saved]
  exact ⟨_, rfl, ⟨rfl, rfl, rfl, rfl, rfl, rfl⟩, rfl, rfl, rfl, rfl⟩

private theorem toNat_resume (inside : position < text.length) :
    (UInt64.ofNat (position + 1)).toNat = position + 1 :=
  UInt64.toNat_ofNat_of_lt' (Nat.lt_of_le_of_lt inside text.fits)

private theorem restored_standing {β γ : Type} [Participant β] {stage : Stage β γ}
    (inside : position < text.length)
    (module : stage.module = { state := text.stateAfter β (position + 1), capture := none })
    (slider : stage.current = .ofNat (position + 1)) (frontier : stage.own = .ofNat (position + 1)) :
    Standing text (position + 1) stage := by
  have current : stage.current.toNat = position + 1 :=
    (congrArg UInt64.toNat slider).trans (toNat_resume inside)
  constructor
  case state => rw [module, current]
  case published => exact frontier.trans slider.symm
  case inside => exact current ▸ inside
  case reached => exact Nat.le_of_eq current.symm
  case slot =>
    rw [module, current]
    exact .free fun index above below => absurd below (Nat.not_lt.mpr above)

/-- A restored composition with a fresh coordinator is at rest behind the snapshot position. -/
theorem Restored.atRest [SliderAcquirePolicy α] [SliderAcquirePolicy α']
    (restored : Restored (text.generationAt position) (.ofNat (position + 1)) composition)
    (inside : position < text.length) (fresh : composition.coordinator.generation = none)
    (empty : composition.collected = []) (hash_moves : Moves composition.hash.acquirePolicy)
    (bits_moves : Moves composition.bits.acquirePolicy) :
    AtRest text (position + 1) (position + 1) composition := by
  have hash := restored_standing inside restored.hash restored.hash_slider restored.hash_frontier
  have bits := restored_standing inside restored.bits restored.bits_slider restored.bits_frontier
  constructor
  case consistent =>
    refine ⟨position + 1, hash, bits, Nat.le_refl _, fun generation pending => ?_, fun _ => ?_⟩
    · rw [fresh] at pending
      cases pending
    · have no_positions : text.snapshots (position + 1) (position + 1) = [] :=
        snapshots_eq_nil fun index above below => absurd below (Nat.not_lt.mpr above)
      rw [empty, no_positions]
      rfl
  case hash => exact (congrArg UInt64.toNat restored.hash_slider).trans (toNat_resume inside)
  case bits => exact (congrArg UInt64.toNat restored.bits_slider).trans (toNat_resume inside)
  case hash_free => exact congrArg StatefulModule.capture restored.hash
  case bits_free => exact congrArg StatefulModule.capture restored.bits
  case hash_moves => exact hash_moves
  case bits_moves => exact bits_moves

/-- A view that does not have the record of a position there. -/
def Displaced (view : Position → AccessResult) (position : Position) : Prop :=
  (view position).status ≠ .ok ∨ (view position).record.position ≠ position

/-- A stage in front of a displaced record moves neither its slider nor its frontier, and a call
that has something to process is rejected. -/
structure Rejects {β γ : Type} [Participant β] [SliderAcquirePolicy γ]
    (view : Position → AccessResult) (upstream : Position) (stage : Stage β γ) : Prop where
  slider : (stage.processAvailable view upstream).2.current = stage.current
  frontier : (stage.processAvailable view upstream).2.own = stage.own
  status : upstream ≠ stage.current → (stage.processAvailable view upstream).1.ok = false

private theorem rejects_of_displaced {β γ : Type} [Participant β] [SliderAcquirePolicy γ]
    [LawfulAcquire γ] {stage : Stage β γ} {view : Position → AccessResult} {upstream : Position}
    (moves : Moves stage.acquirePolicy) (published : stage.own = stage.current)
    (behind : stage.module.state.processedEnd = stage.current)
    (displaced : Displaced view stage.current) : Rejects view upstream stage := by
  have stuck : (view stage.current).status ≠ .ok ∨
      (SliderModule.process stage.module (view stage.current).record).1 = false := by
    refine displaced.imp_right fun apart => ?_
    have apart' : (view stage.current).record.position ≠ stage.module.state.processedEnd := by
      rwa [behind]
    exact congrArg Prod.fst (StatefulModule.process_displaced apart')
  by_cases backward : upstream < stage.current
  · have regressed : stage.processAvailable view upstream =
        ({ status := .upstreamRegression, current := stage.current }, stage) := by
      unfold Slider.processAvailable
      rw [if_neg (not_not.mpr published), if_pos backward]
    constructor
    case slider => rw [regressed]
    case frontier => rw [regressed]
    case status =>
      intro _
      rw [regressed]
      rfl
  · obtain ⟨⟨module, kept⟩, stops⟩ :=
      Slider.processAvailable_stuck published (UInt64.not_lt.mp backward) stuck
    constructor
    case slider => rw [kept]
    case frontier => rw [kept]
    case status =>
      intro apart
      have below := UInt64.lt_of_le_of_ne (UInt64.not_lt.mp backward) apart.symm
      rcases stops (moves _ _ below) with unseen | failed
      · rw [SliderResult.ok, unseen]
        rfl
      · rw [SliderResult.ok, failed]
        rfl

end Restore

/-! ### The continuous run -/

section Agreement
variable [SliderAcquirePolicy α] [SliderAcquirePolicy α']
variable {text : RecordString} {position : ℕ} {resumed continuous : Composition α α'}

/-- Behind one position both runs hold one state, their captures of one generation are the
same, and with free slots the resumed run has collected what the continuous run has
collected behind the snapshot position. -/
structure Agree (text : RecordString) (position : ℕ) (resumed continuous : Composition α α') :
    Prop where
  hash_state : resumed.hash.current = continuous.hash.current →
    resumed.hash.module.state = continuous.hash.module.state
  bits_state : resumed.bits.current = continuous.bits.current →
    resumed.bits.module.state = continuous.bits.module.state
  hash_capture : ∀ capture capture', resumed.hash.module.capture = some capture →
    continuous.hash.module.capture = some capture' →
    capture.generationId = capture'.generationId → capture = capture'
  bits_capture : ∀ capture capture', resumed.bits.module.capture = some capture →
    continuous.bits.module.capture = some capture' →
    capture.generationId = capture'.generationId → capture = capture'
  generations : resumed.hash.current = continuous.hash.current →
    resumed.hash.module.capture = none → continuous.hash.module.capture = none →
    continuous.collected =
      (text.snapshots 0 (position + 1)).map text.generationAt ++ resumed.collected

/-- A full slot holds the capture of a snapshot position. -/
private theorem full_slot {β γ : Type} [Participant β] {floor : ℕ} {stage : Stage β γ}
    (standing : Standing text floor stage) {capture : Capture β}
    (full : stage.module.capture = some capture) :
    ∃ index, index < text.length ∧ capture = text.captureAt β index := by
  have slot := standing.slot
  rw [full] at slot
  cases slot with
  | @full index next behind clear => exact ⟨index, next.snapshot.1, rfl⟩

private theorem same_capture {β γ : Type} [Participant β] {floor floor' : ℕ}
    {stage stage' : Stage β γ} (standing : Standing text floor stage)
    (standing' : Standing text floor' stage') {capture capture' : Capture β}
    (full : stage.module.capture = some capture) (full' : stage'.module.capture = some capture')
    (same : capture.generationId = capture'.generationId) : capture = capture' := by
  obtain ⟨index, inside, rfl⟩ := full_slot standing full
  obtain ⟨index', inside', rfl⟩ := full_slot standing' full'
  have positions : index = index' :=
    text.ofNat_inj inside inside' same
  rw [positions]

omit [SliderAcquirePolicy α] [SliderAcquirePolicy α'] in
/-- Two compositions that are consistent from the snapshot position and from zero. -/
theorem Consistent.agree {floor floor' : ℕ} (consistent : Consistent text (position + 1) floor resumed)
    (consistent' : Consistent text 0 floor' continuous) : Agree text position resumed continuous := by
  constructor
  case hash_state =>
    intro same
    rw [consistent.hash.state, consistent'.hash.state, same]
  case bits_state =>
    intro same
    rw [consistent.bits.state, consistent'.bits.state, same]
  case hash_capture =>
    intro capture capture' full full' same
    exact same_capture consistent.hash consistent'.hash full full' same
  case bits_capture =>
    intro capture capture' full full' same
    exact same_capture consistent.bits consistent'.bits full full' same
  case generations =>
    intro same free free'
    have behind : position + 1 ≤ resumed.hash.current.toNat :=
      Nat.le_trans consistent.from_start consistent.hash.reached
    rw [consistent.idle (consistent.idle_of_free free),
      consistent'.idle (consistent'.idle_of_free free'),
      ← consistent.hash.snapshots consistent.from_start free,
      ← consistent'.hash.snapshots (Nat.zero_le _) free', ← same, ← List.map_append,
      ← snapshots_append (Nat.zero_le _) behind]

/-- Both stages stand at a position with free slots. -/
def StandsAt (stop : ℕ) (composition : Composition α α') : Prop :=
  composition.hash.current.toNat = stop ∧ composition.bits.current.toNat = stop ∧
    composition.hash.module.capture = none ∧ composition.bits.module.capture = none

/-- What is promised of a composition that was restored from the generation of a position. -/
structure Continues (text : RecordString) (rule : α) (rule' : α') (position : ℕ)
    (restored : Composition α α') : Prop where
  reaches : ∀ stop, position < stop → stop ≤ text.length →
    ∃ resumed, Reaches text restored resumed ∧ StandsAt stop resumed
  agrees : ∀ resumed continuous, Reaches text restored resumed →
    Reaches text (.initial rule rule') continuous → Agree text position resumed continuous
  hash_rejects : ∀ view upstream, Displaced view (.ofNat (position + 1)) →
    Rejects view upstream restored.hash
  bits_rejects : ∀ view upstream, Displaced view (.ofNat (position + 1)) →
    Rejects view upstream restored.bits

variable [LawfulAcquire α] [LawfulAcquire α']

omit [LawfulAcquire α] [LawfulAcquire α'] in
/-- Fresh modules are at rest at position zero. -/
theorem AtRest.initial {rule : α} {rule' : α'} (moves : Moves rule) (moves' : Moves rule') :
    AtRest text 0 0 (.initial rule rule') :=
  ⟨⟨0, .initial rule rule'⟩, rfl, rfl, rfl, rfl, moves, moves'⟩

/-- A composition that is at rest behind the snapshot position continues the run. -/
theorem AtRest.continues {restored : Composition α α'} (rule : α) (rule' : α')
    (rest : AtRest text (position + 1) (position + 1) restored)
    (at_start : Restored (text.generationAt position) (.ofNat (position + 1)) restored) :
    Continues text rule rule' position restored := by
  constructor
  case reaches =>
    intro stop ahead inside
    obtain ⟨resumed, reached, stands⟩ := rest.reaches ahead inside
    exact ⟨resumed, reached, stands.hash, stands.bits, stands.hash_free, stands.bits_free⟩
  case agrees =>
    intro resumed continuous reached reached'
    obtain ⟨before, begins⟩ := rest.consistent
    obtain ⟨floor, consistent⟩ := reached.consistent begins
    obtain ⟨floor', consistent'⟩ := reached'.consistent (.initial rule rule')
    exact consistent.agree consistent'
  case hash_rejects =>
    intro view upstream displaced
    refine rejects_of_displaced rest.hash_moves (at_start.hash_frontier.trans
      at_start.hash_slider.symm) ?_ ?_
    · rw [at_start.hash, at_start.hash_slider]
      rfl
    · rwa [at_start.hash_slider]
  case bits_rejects =>
    intro view upstream displaced
    refine rejects_of_displaced rest.bits_moves (at_start.bits_frontier.trans
      at_start.bits_slider.symm) ?_ ?_
    · rw [at_start.bits, at_start.bits_slider]
      rfl
    · rwa [at_start.bits_slider]

/-- The generation that a run has pending at a snapshot position. -/
private theorem pending_generation {rule : α} {rule' : α'} {generation : CaptureGeneration}
    (inside : position < text.length) (reached : Reaches text (.initial rule rule') continuous)
    (pending : continuous.coordinator.generation = some generation)
    (taken : generation.recordPosition = .ofNat position) :
    generation = text.generationAt position := by
  obtain ⟨floor, consistent⟩ := reached.consistent (.initial rule rule')
  obtain ⟨index, next, rfl, -⟩ := consistent.pending generation pending
  rw [text.ofNat_inj next.snapshot.1 inside taken]

theorem validGeneration_generationAt (inside : position < text.length) :
    validGeneration (text.generationAt position) := by
  have fits := text.fits
  have bounded : UInt64.ofNat position ≠ maxUInt64 := by
    intro same
    have number := congrArg UInt64.toNat same
    rw [UInt64.toNat_ofNat_of_lt' (Nat.lt_trans inside fits)] at number
    change position = 2 ^ 64 - 1 at number
    change text.length < 2 ^ 64 at fits
    omega
  have next : UInt64.ofNat (position + 1) = .ofNat position + 1 := UInt64.ofNat_add position 1
  simp [validGeneration, generationAt, captureAt, stateAfter, bounded, next]

/-- Restore and suffix against the continuous run. For every snapshot position there is a run
that has its generation pending, which can be saved and loaded; from the saved generation of
any run both modules, both sliders and both frontiers resume behind the position, and what
follows is what follows in any continuous run. A load that fails changes nothing. -/
theorem restore_continues {rule : α} {rule' : α'} (moves : Moves rule) (moves' : Moves rule')
    (snapshot : text.IsSnapshot position) :
    (∃ continuous, Reaches text (.initial rule rule') continuous ∧
      continuous.coordinator.generation = some (text.generationAt position)) ∧
    (∀ stop, stop ≤ text.length →
      ∃ continuous, Reaches text (.initial rule rule') continuous ∧ StandsAt stop continuous) ∧
    (∀ (sink : SnapshotSink) (root : Tree), sink.root ≠ "" → validIdentity sink.identity →
      (∀ bytes, root ≠ .file bytes) → root.entry (snapshotName (.ofNat position)) = .absent →
      ((sink.save (text.generationAt position)).run [] root).1 = some .ok) ∧
    (∀ (continuous : Composition α α') (generation : CaptureGeneration),
      Reaches text (.initial rule rule') continuous →
      continuous.coordinator.generation = some generation →
      generation.recordPosition = .ofNat position →
      ∀ (sink : SnapshotSink) (root : Tree) (fates : List (Fate Remnant)),
      ((sink.save generation).run fates root).1 = some .ok →
      ∀ (hash : Stage HashChain α) (bits : Stage BitAccumulator α'),
      Moves hash.acquirePolicy → Moves bits.acquirePolicy →
      ∃ restored, restoreSnapshotQuiescent sink.loader ((sink.save generation).run fates root).2
          generation.generationId { hash, bits } = (.ok, restored) ∧
        Restored generation (.ofNat (position + 1)) restored ∧
        Continues text rule rule' position restored) ∧
    ∀ (loader : SnapshotLoader) (root : Tree) (generationId : UInt64)
      (composition : Composition α α'), (loader.loadFrom root generationId).ok = false →
      restoreSnapshotQuiescent loader root generationId composition =
        ((loader.loadFrom root generationId).status, composition) := by
  have first : AtRest text 0 0 (.initial rule rule') := .initial moves moves'
  refine ⟨?_, ?_, ?_, ?_, fun _ _ _ _ => restoreSnapshotQuiescent_failed⟩
  · obtain ⟨before, reached, rest⟩ := first.reaches (Nat.zero_le position) (Nat.le_of_lt snapshot.1)
    obtain ⟨cut, reached', held⟩ := rest.atCut snapshot
    exact ⟨cut, reached.trans reached', held.pending⟩
  · intro stop inside
    obtain ⟨stopped, reached, rest⟩ := first.reaches (Nat.zero_le stop) inside
    exact ⟨stopped, reached, rest.hash, rest.bits, rest.hash_free, rest.bits_free⟩
  · intro sink root rooted identified directory vacant
    exact save_run rooted identified (validGeneration_generationAt snapshot.1) directory vacant
  · intro continuous generation reached pending taken sink root fates saved hash bits hash_moves
      bits_moves
    obtain rfl := pending_generation snapshot.1 reached pending taken
    obtain ⟨restored, answer, at_start, coordinator, collected, hash_rule, bits_rule⟩ :=
      restoreSnapshotQuiescent_saved { hash, bits } saved
    have rest : AtRest text (position + 1) (position + 1) restored :=
      at_start.atRest snapshot.1 (congrArg _ coordinator) collected (hash_rule ▸ hash_moves)
        (bits_rule ▸ bits_moves)
    exact ⟨restored, answer, at_start, rest.continues rule rule' at_start⟩

/-- The snapshot at position zero of the record string, saved into an empty place and restored
into fresh modules. -/
theorem restore_continues_first :
    ∃ restored, restoreSnapshotQuiescent demoSink.loader
        ((demoSink.save (snapshotString.generationAt 0)).run [] .absent).2 0
        (.initial AvailableRangeAcquire.policy AvailableRangeAcquire.policy) = (.ok, restored) ∧
      Restored (snapshotString.generationAt 0) 1 restored ∧
      Continues snapshotString AvailableRangeAcquire.policy AvailableRangeAcquire.policy 0
        restored := by
  have moves : Moves AvailableRangeAcquire.policy := AvailableRangeAcquire.policy.moves
  have snapshot : snapshotString.IsSnapshot 0 := by decide
  obtain ⟨⟨continuous, reached, pending⟩, -, saves, restores, -⟩ :=
    restore_continues moves moves snapshot
  have saved := saves demoSink .absent (by decide) (by decide) nofun rfl
  exact restores continuous _ reached pending rfl demoSink .absent [] saved _ _ moves moves

end Agreement

end Fexma.SnapshotDemo
