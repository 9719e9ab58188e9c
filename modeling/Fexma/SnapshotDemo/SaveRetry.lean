import Fexma.SnapshotDemo.Bootstrap

/-! Saving a pending generation again and again (`save_and_release`), where any attempt may fail
in any one of its steps. -/
namespace Fexma.SnapshotDemo

open CrashProgram Program Wal RecordString

inductive FileStep where
  | openFile
  | write
  | flush
  | sync
  | close
  deriving DecidableEq, Repr

inductive SavedFile where
  | hashChain
  | bitAccumulator
  | description
  deriving DecidableEq, Repr

/-- The steps of a save, in order. -/
inductive SaveStep where
  | createRoot
  | checkRoot
  | checkPublished
  | removeStaging
  | createStaging
  | file (file : SavedFile) (step : FileStep)
  | renameDescription
  | syncStaging
  | renameStaging
  | syncRoot
  deriving DecidableEq, Repr

def FileStep.index : FileStep → ℕ
  | openFile => 0
  | write => 1
  | flush => 2
  | sync => 3
  | close => 4

def SavedFile.index : SavedFile → ℕ
  | hashChain => 0
  | bitAccumulator => 1
  | description => 2

/-- How many steps come before. -/
def SaveStep.index : SaveStep → ℕ
  | createRoot => 0
  | checkRoot => 1
  | checkPublished => 2
  | removeStaging => 3
  | createStaging => 4
  | file which step => 5 + 5 * which.index + step.index
  | renameDescription => 20
  | syncStaging => 21
  | renameStaging => 22
  | syncRoot => 23

/-- An attempt that fails in a step, which may leave a part of its effect behind. -/
structure FailedAttempt where
  step : SaveStep
  part : Remnant := {}

namespace FailedAttempt

def fates (attempt : FailedAttempt) : List (Fate Remnant) :=
  List.replicate attempt.step.index .succeeds ++ [.fails attempt.part]

/-- The staging directory has its final name when the attempt fails: the last synchronisation
has failed, or the rename was taken that reports a failure. -/
def Publishes (attempt : FailedAttempt) : Prop :=
  attempt.step = .syncRoot ∨ attempt.step = .renameStaging ∧ attempt.part.taken = true

end FailedAttempt

namespace SnapshotSink

/-- The end of `publish`. -/
def publishDirectory (published staging : String) : StorageProgram SnapshotSaveStatus :=
  .call (renameDirectory staging published) fun renamed =>
  if !renamed then .answer .publicationError else
  .call syncCall fun synced =>
  .answer (if synced then .ok else .publicationError)

/-- `save_and_release` under the fates of its calls. -/
def saveAndRelease {α α' : Type} (sink : SnapshotSink) (fates : List (Fate Remnant))
    (state : Tree × Composition α α') : Option SnapshotSaveStatus × Tree × Composition α α' :=
  match state.2.coordinator.generation with
  | none => (some .generationUnavailable, state)
  | some generation =>
    let saved := (sink.save generation).run fates state.1
    match saved.1 with
    | none => (none, saved.2, state.2)
    | some status =>
      let released := state.2.saveAndRelease fun _ => status
      (some released.1, saved.2, released.2)

/-- Failed attempts, one after the other. -/
def attempt {α α' : Type} (sink : SnapshotSink) (attempts : List FailedAttempt)
    (state : Tree × Composition α α') : Tree × Composition α α' :=
  attempts.foldl (fun state attempt => (sink.saveAndRelease attempt.fates state).2) state

end SnapshotSink

/-! ### The steps of a save -/

section Steps
variable {sink : SnapshotSink} {generation : CaptureGeneration} {root : Tree}
variable {published staging name : String} {J : Tree → Prop} {bytes : List UInt8} {count : ℕ}

/-- A property that no step up to the synchronised staging directory can lose. -/
structure Local (staging : String) (J : Tree → Prop) : Prop where
  root : Preserves createDirectories J
  entries : ∀ root node, J root → J (root.setEntry staging node)

private theorem keeps_atomicCall {apply : Tree → Option Tree}
    (keeps : ∀ root after, J root → apply root = some after → J after) :
    Preserves (atomicCall apply) J :=
  fun root before => ⟨torn_atomicCall before fun after => keeps root after before,
    fun after => keeps root after before⟩

private theorem Local.setFile (confined : Local staging J) (before : J root) :
    J (setFile root staging name bytes) := confined.entries _ _ before

private theorem Local.tornWrite (confined : Local staging J) (before : J root) (part : Remnant) :
    J (tornWrite staging name bytes part root) := by
  unfold SnapshotDemo.tornWrite
  cases part.written with
  | none => exact before
  | some count => exact confined.setFile before

private theorem keeps_syncCall : Preserves syncCall J := by
  refine keeps_atomicCall fun root after before applied => ?_
  cases applied
  exact before

/-- The five calls of a file. -/
private theorem writeAndSyncFile_confined {next : StorageProgram SnapshotSaveStatus}
    (confined : Local staging J) (behind : next.Confined J (· ≠ .ok) count) :
    ((writeAndSyncFile staging name bytes).bind fun status =>
      if status ≠ .ok then .answer status else next).Confined J (· ≠ .ok) (count + 5) := by
  refine ⟨⟨.openError, rfl, nofun⟩, ?_, ⟨.writeError, rfl, nofun⟩, ?_, ⟨.flushError, rfl, nofun⟩, ?_,
    ⟨.syncError, rfl, nofun⟩, keeps_syncCall, ⟨.closeError, rfl, nofun⟩, keeps_syncCall, behind⟩
  · refine keeps_atomicCall fun root after before applied => ?_
    split_ifs at applied
    cases applied
    exact confined.setFile before
  · intro root before
    refine ⟨confined.tornWrite before, fun after applied => ?_⟩
    cases applied
    exact before
  · intro root before
    refine ⟨confined.tornWrite before, fun after applied => ?_⟩
    cases applied
    exact confined.setFile before

/-- All steps up to the synchronised staging directory, and what follows them. -/
theorem save_confined
    (confined : Local (stagingName generation.generationId) J)
    (behind : (SnapshotSink.publishDirectory (snapshotName generation.generationId)
      (stagingName generation.generationId)).Confined J (· ≠ .ok) count) :
    (sink.save generation).Confined J (· ≠ .ok) (count + 22) := by
  unfold SnapshotSink.save
  split_ifs with config invalid
  · exact nofun
  · exact nofun
  refine ⟨⟨.directoryError, rfl, nofun⟩, confined.root, ⟨.directoryError, rfl, nofun⟩,
    fun directory => ?_⟩
  cases directory with
  | false => exact nofun
  | true =>
  refine ⟨⟨.directoryError, rfl, nofun⟩, fun existing => ?_⟩
  cases existing with
  | true => exact nofun
  | false =>
  refine ⟨⟨.directoryError, rfl, nofun⟩, ?_, ⟨.directoryError, rfl, nofun⟩, ?_, ?_⟩
  · intro root before
    refine ⟨fun part => confined.entries _ _ before, fun after applied => ?_⟩
    cases applied
    exact confined.entries _ _ before
  · refine keeps_atomicCall fun root after before applied => ?_
    split_ifs at applied
    cases applied
    exact confined.entries _ _ before
  refine writeAndSyncFile_confined confined (writeAndSyncFile_confined confined
    (writeAndSyncFile_confined confined ?_))
  refine ⟨⟨.publicationError, rfl, nofun⟩, ?_, ⟨.publicationError, rfl, nofun⟩, keeps_syncCall, behind⟩
  refine keeps_atomicCall fun root after before applied => ?_
  obtain ⟨entry, -, rfl⟩ := Option.map_eq_some_iff.mp applied
  exact confined.entries _ _ before

/-! ### The steps that publish -/

private theorem writeAndSyncFile_succeeds {base content : String → Tree}
    {next : StorageProgram SnapshotSaveStatus} {fates : List (Fate Remnant)}
    (free : (content name).isDirectory = false) :
    ((writeAndSyncFile staging name bytes).bind fun status =>
      if status ≠ .ok then .answer status else next).run
        (List.replicate 5 .succeeds ++ fates) (staged base staging content) =
      next.run fates (staged base staging (Function.update content name (.file bytes))) := by
  refine (run_call_succeeds (openBinaryFile_staged free)).trans ?_
  refine (run_call_succeeds rfl).trans ?_
  refine (run_call_succeeds flushFile_staged).trans ?_
  refine (run_call_succeeds rfl).trans ?_
  exact run_call_succeeds rfl

/-- When all goes well so far, the directory is complete and has yet to be published. -/
private theorem save_complete (rooted : sink.root ≠ "") (identified : validIdentity sink.identity)
    (valid : validGeneration generation) (directory : ∀ bytes, root ≠ .file bytes)
    (vacant : root.entry (snapshotName generation.generationId) = .absent)
    (fates : List (Fate Remnant)) :
    (sink.save generation).run (List.replicate 22 .succeeds ++ fates) root =
      (SnapshotSink.publishDirectory (snapshotName generation.generationId)
        (stagingName generation.generationId)).run fates
        (staged root.entry (stagingName generation.generationId)
          (describedContent sink generation)) := by
  have created : createDirectories.apply root = some (.directory root.entry) := by
    cases root with
    | absent => rfl
    | file bytes => exact absurd rfl (directory bytes)
    | directory entries => rfl
  have free : (!((Tree.directory root.entry).entry
      (snapshotName generation.generationId)).isAbsent) = false := by
    change (!(root.entry (snapshotName generation.generationId)).isAbsent) = false
    rw [vacant]
    rfl
  have steps : List.replicate 22 Fate.succeeds ++ fates =
    .succeeds :: .succeeds :: .succeeds :: .succeeds :: .succeeds ::
      (List.replicate 5 .succeeds ++ (List.replicate 5 .succeeds ++ (List.replicate 5 .succeeds ++
        (.succeeds :: .succeeds :: fates)))) := rfl
  unfold SnapshotSink.save
  rw [if_neg (by simp [rooted, identified]), if_neg (by simp [valid]), steps, SnapshotSink.saveValid,
    run_guarded_succeeds created]
  simp only [run, free, Tree.isDirectory, ne_eq, not_true_eq_false, if_false, reduceCtorEq,
    Option.some.injEq, Bool.false_eq_true]
  rw [SnapshotSink.stage, run_guarded_succeeds rfl, run_guarded_succeeds createDirectory_removed,
    SnapshotSink.writeFiles]
  refine (writeAndSyncFile_succeeds rfl).trans ?_
  refine (writeAndSyncFile_succeeds ?_).trans ?_
  · rw [Function.update_of_ne (by decide)]
    rfl
  refine (writeAndSyncFile_succeeds ?_).trans ?_
  · rw [Function.update_of_ne (by decide), Function.update_of_ne (by decide)]
    rfl
  refine (run_call_succeeds renameFile_written).trans ?_
  exact run_call_succeeds rfl

end Steps

/-! ### One attempt -/

section Attempt
variable {sink : SnapshotSink} {generation : CaptureGeneration} {root : Tree}
variable {attempt : FailedAttempt}

/-- A place that is, or can become, a directory without a snapshot of the generation. -/
structure Usable (generation : CaptureGeneration) (root : Tree) : Prop where
  directory : ∀ bytes, root ≠ .file bytes
  vacant : root.entry (snapshotName generation.generationId) = .absent

private theorem index_lt (step : SaveStep) : step.index < 24 ∧
    (step.index < 22 ∨ step = .renameStaging ∨ step = .syncRoot) := by
  cases step with
  | file which step => cases which <;> cases step <;> decide
  | _ => decide

private theorem local_trivial {staging : String} : Local staging fun _ => True :=
  ⟨fun _ _ => ⟨fun _ => trivial, fun _ _ => trivial⟩, fun _ _ _ => trivial⟩

/-- An attempt that fails is answered with an error. -/
theorem FailedAttempt.answers (attempt : FailedAttempt) (sink : SnapshotSink)
    (generation : CaptureGeneration) (root : Tree) :
    ∃ status after, (sink.save generation).run attempt.fates root = (some status, after) ∧
      status ≠ .ok := by
  have confined : (sink.save generation).Confined (fun _ => True) (· ≠ .ok) (2 + 22) := by
    refine save_confined local_trivial ⟨⟨.publicationError, rfl, nofun⟩, ?_,
      ⟨.publicationError, rfl, nofun⟩, ?_, trivial⟩
    · exact fun _ _ => ⟨fun _ => trivial, fun _ _ => trivial⟩
    · exact keeps_syncCall
  obtain ⟨status, after, answered, wrong, -⟩ :=
    confined.run trivial (index_lt attempt.step).1 attempt.part []
  exact ⟨status, after, answered, wrong⟩

/-- Where there is a file in place of the directory, it stays. -/
private theorem attempt_file {bytes : List UInt8} :
    ((sink.save generation).run attempt.fates (.file bytes)).2 = .file bytes := by
  have place : Local (stagingName generation.generationId) fun root => root = .file bytes := by
    constructor
    case root =>
      refine keeps_atomicCall fun root after before applied => ?_
      subst before
      cases applied
    case entries =>
      intro root node before
      subst before
      rfl
  have confined : (sink.save generation).Confined (fun root => root = .file bytes) (· ≠ .ok)
      (2 + 22) := by
    refine save_confined place ⟨⟨.publicationError, rfl, nofun⟩, ?_,
      ⟨.publicationError, rfl, nofun⟩, keeps_syncCall, trivial⟩
    refine keeps_atomicCall fun root after before applied => ?_
    subst before
    cases applied
  obtain ⟨status, after, answered, -, kept⟩ :=
    confined.run rfl (index_lt attempt.step).1 attempt.part []
  exact (congrArg Prod.snd answered).trans kept

/-- A failure before the directory is published leaves the place as usable as it was. -/
private theorem attempt_early (usable : Usable generation root) (early : attempt.step.index < 22) :
    Usable generation ((sink.save generation).run attempt.fates root).2 := by
  have place : Local (stagingName generation.generationId) (Usable generation) := by
    constructor
    case root =>
      refine keeps_atomicCall fun root after before applied => ?_
      obtain rfl := created_root applied
      exact ⟨nofun, before.vacant⟩
    case entries =>
      intro root node before
      refine ⟨fun bytes same => ?_, ?_⟩
      · cases root with
        | file bytes' => exact before.directory bytes' rfl
        | absent => cases same
        | directory entries => cases same
      · rw [Tree.entry_setEntry_ne (snapshotName_ne_stagingName _ _)]
        exact before.vacant
  have confined : (sink.save generation).Confined (Usable generation) (· ≠ .ok) (0 + 22) :=
    save_confined place trivial
  obtain ⟨status, after, answered, -, kept⟩ := confined.run usable early attempt.part []
  change Usable generation ((sink.save generation).run (_ ++ [_]) root).2
  rw [answered]
  exact kept

private theorem entry_of_published {root' : Tree} {staging : String}
    (done : Published sink generation (snapshotName generation.generationId) staging root root') :
    root'.entry (snapshotName generation.generationId) ≠ .absent := by
  intro absent
  have saved := congrArg SnapshotFiles.description done.saved
  rw [absent] at saved
  cases saved

/-- Failures in the publication of the directory. -/
private theorem attempt_ended (rooted : sink.root ≠ "") (identified : validIdentity sink.identity)
    (valid : validGeneration generation) (usable : Usable generation root) :
    ∃ after, Published sink generation (snapshotName generation.generationId)
        (stagingName generation.generationId) root after ∧
      (∀ part, ((sink.save generation).run (FailedAttempt.fates ⟨.renameStaging, part⟩) root).2 =
        if part.taken then after
        else staged root.entry (stagingName generation.generationId)
          (describedContent sink generation)) ∧
      ∀ part, ((sink.save generation).run (FailedAttempt.fates ⟨.syncRoot, part⟩) root).2 = after := by
  have complete := save_complete rooted identified valid usable.directory usable.vacant
  obtain ⟨after, renamed, done⟩ := @renameEntry_staged sink generation root _ _ root.entry
    (snapshotName_ne_stagingName generation.generationId generation.generationId) usable.vacant
    fun _ => rfl
  have applied : (renameDirectory (stagingName generation.generationId)
      (snapshotName generation.generationId)).apply (staged root.entry
        (stagingName generation.generationId) (describedContent sink generation)) = some after :=
    renamed
  refine ⟨after, done, fun part => ?_, fun part => ?_⟩
  · refine (congrArg Prod.snd (complete [.fails part])).trans ?_
    change (if part.taken then ((renameDirectory _ _).apply _).getD _ else _) = _
    rw [applied]
    rfl
  · refine (congrArg Prod.snd (complete [.succeeds, .fails part])).trans ?_
    refine (congrArg Prod.snd (run_call_succeeds applied)).trans ?_
    exact torn_syncCall part after

private theorem attempt_late (rooted : sink.root ≠ "") (identified : validIdentity sink.identity)
    (valid : validGeneration generation) (usable : Usable generation root)
    (late : attempt.step = .renameStaging ∨ attempt.step = .syncRoot) :
    Usable generation ((sink.save generation).run attempt.fates root).2 ↔ ¬attempt.Publishes := by
  obtain ⟨after, done, renamed, synced⟩ := attempt_ended rooted identified valid usable
  have taken_place : ¬Usable generation after := fun free => entry_of_published done free.vacant
  obtain ⟨step, part⟩ := attempt
  rcases late with rename | sync
  · subst rename
    rw [renamed]
    cases taken : part.taken with
    | true => exact iff_of_false taken_place (not_not.mpr (.inr ⟨rfl, taken⟩))
    | false =>
      refine iff_of_true ⟨nofun, ?_⟩ ?_
      · exact (entry_staged_ne (snapshotName_ne_stagingName _ _)).trans usable.vacant
      · rintro (other | ⟨-, other⟩)
        · cases other
        · exact absurd (taken.symm.trans other) Bool.false_ne_true
  · subst sync
    rw [synced]
    exact iff_of_false taken_place (not_not.mpr (.inl rfl))

/-- An attempt leaves a usable place exactly if it found one and did not publish. -/
theorem usable_attempt (rooted : sink.root ≠ "") (identified : validIdentity sink.identity)
    (valid : validGeneration generation) :
    Usable generation ((sink.save generation).run attempt.fates root).2 ↔
      Usable generation root ∧ ¬attempt.Publishes := by
  have found (usable : Usable generation ((sink.save generation).run attempt.fates root).2) :
      Usable generation root := by
    refine ⟨fun bytes same => ?_, ?_⟩
    · subst same
      exact usable.directory bytes attempt_file
    · by_contra existing
      exact existing ((ended_existing existing attempt.fates _).symm.trans usable.vacant)
  rcases (index_lt attempt.step).2 with early | late
  · refine ⟨fun usable => ⟨found usable, ?_⟩, fun usable => attempt_early usable.1 early⟩
    rintro (same | ⟨same, -⟩)
    · rw [same] at early
      exact absurd early (by decide)
    · rw [same] at early
      exact absurd early (by decide)
  · constructor
    · intro usable
      exact ⟨found usable, (attempt_late rooted identified valid (found usable) late).mp usable⟩
    · rintro ⟨usable, unpublished⟩
      exact (attempt_late rooted identified valid usable late).mpr unpublished

end Attempt

/-! ### Attempt after attempt -/

section Retries
variable {α α' : Type} {sink : SnapshotSink} {generation : CaptureGeneration} {root : Tree}
variable {composition : Composition α α'} {attempts : List FailedAttempt}

/-- What a failed attempt leaves: the composition as it was, and some directory. -/
theorem saveAndRelease_failed (attempt : FailedAttempt)
    (pending : composition.coordinator.generation = some generation) :
    (sink.saveAndRelease attempt.fates (root, composition)).2 =
      (((sink.save generation).run attempt.fates root).2, composition) := by
  obtain ⟨status, after, answered, wrong⟩ := attempt.answers sink generation root
  simp only [SnapshotSink.saveAndRelease, pending, answered, Composition.saveAndRelease]
  rw [if_pos wrong]

theorem attempt_composition (pending : composition.coordinator.generation = some generation) :
    (sink.attempt attempts (root, composition)).2 = composition := by
  induction attempts generalizing root with
  | nil => rfl
  | cons attempt attempts ih =>
    rw [SnapshotSink.attempt, List.foldl_cons, saveAndRelease_failed attempt pending]
    exact ih

/-- The place is usable behind the attempts exactly if it was and none of them has published. -/
theorem usable_attempts (rooted : sink.root ≠ "") (identified : validIdentity sink.identity)
    (valid : validGeneration generation)
    (pending : composition.coordinator.generation = some generation) :
    Usable generation (sink.attempt attempts (root, composition)).1 ↔
      Usable generation root ∧ ∀ attempt ∈ attempts, ¬attempt.Publishes := by
  induction attempts generalizing root with
  | nil => exact ⟨fun usable => ⟨usable, nofun⟩, And.left⟩
  | cons attempt attempts ih =>
    rw [SnapshotSink.attempt, List.foldl_cons, saveAndRelease_failed attempt pending]
    refine ih.trans ?_
    rw [usable_attempt rooted identified valid, List.forall_mem_cons, and_assoc]

/-- A save in which nothing fails succeeds exactly in a usable place. -/
theorem save_ok_iff (valid : validGeneration generation) :
    ((sink.save generation).run [] root).1 = some .ok ↔
      sink.root ≠ "" ∧ validIdentity sink.identity ∧ Usable generation root := by
  constructor
  · intro saved
    obtain ⟨rooted, identified, -⟩ := valid_of_saved saved
    refine ⟨rooted, identified, fun bytes same => ?_, ?_⟩
    · subst same
      unfold SnapshotSink.save at saved
      rw [if_neg (by simp [rooted, identified]), if_neg (by simp [valid])] at saved
      cases saved
    · by_contra existing
      have ended := (@save_safe_existing sink _ _ existing).run []
      generalize (sink.save generation).run [] root = result at saved ended
      obtain ⟨answer, root'⟩ := result
      obtain rfl : answer = some .ok := saved
      exact absurd rfl ended.1
  · rintro ⟨rooted, identified, usable⟩
    exact save_run rooted identified valid usable.directory usable.vacant

/-- An attempt is successful when the generation is saved and both slots hold it. -/
theorem saveAndRelease_ok_iff {fates : List (Fate Remnant)}
    (pending : composition.coordinator.generation = some generation)
    (held : (composition.releaseGeneration generation.generationId).1 = true) :
    (sink.saveAndRelease fates (root, composition)).1 = some .ok ↔
      ((sink.save generation).run fates root).1 = some .ok := by
  simp only [SnapshotSink.saveAndRelease, pending]
  cases (sink.save generation).run fates root with
  | mk answer after =>
  cases answer with
  | none => exact ⟨nofun, nofun⟩
  | some status =>
    simp only [Composition.saveAndRelease, pending, held, if_true, Option.some.injEq]
    by_cases saved : status = .ok
    · rw [if_neg (not_not.mpr saved)]
      exact ⟨fun _ => saved, fun _ => rfl⟩
    · rw [if_pos saved]

theorem saveAndRelease_saved {fates : List (Fate Remnant)}
    (pending : composition.coordinator.generation = some generation)
    (saved : ((sink.save generation).run fates root).1 = some .ok) :
    (sink.saveAndRelease fates (root, composition)).2 =
      (((sink.save generation).run fates root).2,
        (composition.releaseGeneration generation.generationId).2) := by
  simp only [SnapshotSink.saveAndRelease, pending, saved, Composition.saveAndRelease, ne_eq,
    not_true_eq_false, if_false]

/-- Behind an attempt that has published, an attempt in which nothing fails is refused, and
nothing is released. -/
theorem saveAndRelease_existing (rooted : sink.root ≠ "") (identified : validIdentity sink.identity)
    (valid : validGeneration generation)
    (pending : composition.coordinator.generation = some generation)
    (existing : root.entry (snapshotName generation.generationId) ≠ .absent) :
    (sink.saveAndRelease [] (root, composition)).1 = some .alreadyPublished ∧
      (sink.saveAndRelease [] (root, composition)).2.2 = composition := by
  have created : createDirectories.apply root = some (.directory root.entry) := by
    cases root with
    | directory entries => rfl
    | _ => exact absurd rfl existing
  have taken : (!((Tree.directory root.entry).entry
      (snapshotName generation.generationId)).isAbsent) = true := by
    change (!(root.entry (snapshotName generation.generationId)).isAbsent) = true
    cases found : root.entry (snapshotName generation.generationId) with
    | absent => exact absurd found existing
    | _ => rfl
  have answered : ((sink.save generation).run [] root).1 = some .alreadyPublished := by
    unfold SnapshotSink.save
    rw [if_neg (by simp [rooted, identified]), if_neg (by simp [valid]), SnapshotSink.saveValid,
      run_guarded created]
    simp only [run, taken, Tree.isDirectory, ne_eq, not_true_eq_false, if_false, reduceCtorEq, if_true]
  simp only [SnapshotSink.saveAndRelease, pending, answered, Composition.saveAndRelease]
  exact ⟨rfl, rfl⟩

/-- The module of a stage takes the record in front of it, a snapshot record or not. -/
def Takes {β : Type} [Participant β] (text : RecordString) (stage : Stage β α) : Prop :=
  stage.current.toNat < text.length →
    (stage.module.process (text.recordAt stage.current.toNat)).1 = true

/-- What is promised of failed attempts: each leaves the generation and both captures, and the
next attempt in which nothing fails saves the generation and releases it. -/
structure Retried (text : RecordString) (sink : SnapshotSink) (root : Tree)
    (composition : Composition α α') (generation : CaptureGeneration)
    (attempts : List FailedAttempt) : Prop where
  kept : ∀ earlier, earlier <+: attempts →
    (sink.attempt earlier (root, composition)).2 = composition
  saved : (sink.saveAndRelease [] (sink.attempt attempts (root, composition))).1 = some .ok
  published : snapshotFiles
      ((sink.saveAndRelease [] (sink.attempt attempts (root, composition))).2.1.entry
        (snapshotName generation.generationId)) = savedFiles sink.identity generation
  loaded : sink.loader.loadFrom
      (sink.saveAndRelease [] (sink.attempt attempts (root, composition))).2.1
      generation.generationId =
    { status := .ok, prepared := some (preparedOf sink.identity generation) }
  released : Clears composition
    (sink.saveAndRelease [] (sink.attempt attempts (root, composition))).2.2
  hash_takes : Takes text
    (sink.saveAndRelease [] (sink.attempt attempts (root, composition))).2.2.hash
  bits_takes : Takes text
    (sink.saveAndRelease [] (sink.attempt attempts (root, composition))).2.2.bits

end Retries

section Results
variable {α α' : Type} [SliderAcquirePolicy α] [SliderAcquirePolicy α'] [LawfulAcquire α]
variable [LawfulAcquire α'] {text : RecordString} {rule : α} {rule' : α'}
variable {composition : Composition α α'} {generation : CaptureGeneration}

omit [SliderAcquirePolicy α] [LawfulAcquire α] in
private theorem Standing.takes {β : Type} [Participant β] {floor : ℕ} {stage : Stage β α}
    (standing : Standing text floor stage) (free : stage.module.capture = none) :
    Takes text stage := by
  intro inside
  have turn := standing.turn inside
  generalize stage.module.process (text.recordAt stage.current.toNat) = answer at turn
  cases turn with
  | refused refused =>
    have occupied := refused.occupied
    rw [free] at occupied
    cases occupied
  | taken => rfl

omit [SliderAcquirePolicy α] [SliderAcquirePolicy α'] [LawfulAcquire α] [LawfulAcquire α'] in
/-- A pending generation is released as a whole, and both stages go on. -/
private theorem Consistent.releases {floor : ℕ} (consistent : Consistent text 0 floor composition)
    (pending : composition.coordinator.generation = some generation) :
    (composition.releaseGeneration generation.generationId).1 = true ∧
      Clears composition (composition.releaseGeneration generation.generationId).2 ∧
      Takes text (composition.releaseGeneration generation.generationId).2.hash ∧
      Takes text (composition.releaseGeneration generation.generationId).2.bits := by
  obtain ⟨index, next, rfl, hash_full, bits_full, -⟩ := consistent.pending generation pending
  have held : (composition.releaseGeneration (text.generationAt index).generationId).1 = true := by
    refine congrArg Prod.fst (CaptureGenerationCoordinator.releaseGeneration_held pending ?_ ?_)
    · simp [CaptureGenerationCoordinator.holds, hash_full, captureAt, generationAt]
    · simp [CaptureGenerationCoordinator.holds, bits_full, captureAt, generationAt]
  rcases consistent.release_cases (text.generationAt index).generationId with
    kept | ⟨_, _, _, _, generation, hash, bits, released⟩
  · rw [kept] at held
    cases held
  · refine ⟨held, ⟨⟨?_, generation⟩, ⟨?_, hash⟩, ⟨?_, bits⟩⟩, released.hash.takes hash,
      released.bits.takes bits⟩
    · rw [pending]
      rfl
    · rw [hash_full]
      rfl
    · rw [bits_full]
      rfl

/-- Failed attempts can be retried exactly if the sink has a place for the generation and no
attempt has published it: behind such an attempt every further one finds it published, and
nothing is ever released. -/
theorem save_retried_iff (reached : Reaches text (.initial rule rule') composition)
    (pending : composition.coordinator.generation = some generation) (sink : SnapshotSink)
    (root : Tree) (attempts : List FailedAttempt) :
    Retried text sink root composition generation attempts ↔
      (sink.root ≠ "" ∧ validIdentity sink.identity ∧ Usable generation root) ∧
        ∀ attempt ∈ attempts, ¬attempt.Publishes := by
  obtain ⟨floor, consistent⟩ := reached.consistent (Consistent.initial rule rule')
  obtain ⟨index, next, whole, hash_full, bits_full, -⟩ := consistent.pending generation pending
  have valid : validGeneration generation := whole ▸ validGeneration_generationAt next.snapshot.1
  have same : (sink.attempt attempts (root, composition)).2 = composition :=
    attempt_composition pending
  generalize place : (sink.attempt attempts (root, composition)).1 = left
  have state : sink.attempt attempts (root, composition) = (left, composition) :=
    Prod.ext place same
  obtain ⟨held, cleared, hash_takes, bits_takes⟩ := consistent.releases pending
  have usable : sink.root ≠ "" → validIdentity sink.identity →
      (Usable generation left ↔ Usable generation root ∧ ∀ attempt ∈ attempts, ¬attempt.Publishes) := by
    intro rooted identified
    rw [← place]
    exact usable_attempts rooted identified valid pending
  constructor
  · intro retried
    have answered := retried.saved
    rw [state, saveAndRelease_ok_iff pending held, save_ok_iff valid] at answered
    obtain ⟨rooted, identified, free⟩ := answered
    obtain ⟨before, unpublished⟩ := (usable rooted identified).mp free
    exact ⟨⟨rooted, identified, before⟩, unpublished⟩
  · rintro ⟨⟨rooted, identified, before⟩, unpublished⟩
    have free := (usable rooted identified).mpr ⟨before, unpublished⟩
    have saved := (save_ok_iff valid).mpr ⟨rooted, identified, free⟩
    have ended := saveAndRelease_saved pending saved
    constructor
    case kept => exact fun earlier _ => attempt_composition pending
    case saved =>
      rw [state, saveAndRelease_ok_iff pending held]
      exact saved
    case published =>
      rw [state, ended]
      exact (published_of_saved saved).saved
    case loaded =>
      rw [state, ended]
      exact load_of_saved saved
    case released =>
      rw [state, ended]
      exact cleared
    case hash_takes =>
      rw [state, ended]
      exact hash_takes
    case bits_takes =>
      rw [state, ended]
      exact bits_takes

private theorem generation_in_flight :
    ∃ (composition : Composition AvailableRangeAcquire AvailableRangeAcquire) (generation : _),
      Reaches snapshotString
        (.initial AvailableRangeAcquire.policy AvailableRangeAcquire.policy) composition ∧
      composition.coordinator.generation = some generation := by
  have started : Reaches snapshotString
      (.initial AvailableRangeAcquire.policy AvailableRangeAcquire.policy)
      (.initial AvailableRangeAcquire.policy AvailableRangeAcquire.policy) := .start
  have reached := (started.step (.hashStep 3) (by decide)).step (.bitStep 1) (by decide)
  have collected := reached.step .collect trivial
  refine ⟨_, _, collected, (Option.some_get (?_ : Option.isSome _ = true)).symm⟩
  decide

/-- A failed write and a failed rename, behind which the generation is saved. -/
theorem save_retried_iff_torn :
    ∃ (composition : Composition AvailableRangeAcquire AvailableRangeAcquire) (generation : _),
      Reaches snapshotString
        (.initial AvailableRangeAcquire.policy AvailableRangeAcquire.policy) composition ∧
      composition.coordinator.generation = some generation ∧
      Retried snapshotString demoSink .absent composition generation
        [{ step := .file .hashChain .write, part := { written := some 10 } },
          { step := .renameDescription }] := by
  obtain ⟨composition, generation, reached, pending⟩ := generation_in_flight
  refine ⟨composition, generation, reached, pending,
    (save_retried_iff reached pending demoSink .absent _).mpr ⟨⟨by decide, by decide, nofun, rfl⟩, ?_⟩⟩
  intro attempt member
  simp only [List.mem_cons, List.not_mem_nil, or_false] at member
  rcases member with rfl | rfl <;> simp [FailedAttempt.Publishes]

/-- The last synchronisation fails: the generation is published, the next attempt in which
nothing fails is refused, and the captures stay where they are. -/
theorem save_not_retried :
    ∃ (composition : Composition AvailableRangeAcquire AvailableRangeAcquire) (generation : _),
      Reaches snapshotString
        (.initial AvailableRangeAcquire.policy AvailableRangeAcquire.policy) composition ∧
      composition.coordinator.generation = some generation ∧
      (demoSink.saveAndRelease []
        (demoSink.attempt [{ step := .syncRoot }] (.absent, composition))).1 =
          some .alreadyPublished ∧
      (demoSink.saveAndRelease []
        (demoSink.attempt [{ step := .syncRoot }] (.absent, composition))).2.2 = composition ∧
      ¬Retried snapshotString demoSink .absent composition generation [{ step := .syncRoot }] := by
  obtain ⟨composition, generation, reached, pending⟩ := generation_in_flight
  obtain ⟨floor, consistent⟩ := reached.consistent (Consistent.initial _ _)
  obtain ⟨index, next, whole, -⟩ := consistent.pending generation pending
  have valid : validGeneration generation := whole ▸ validGeneration_generationAt next.snapshot.1
  have rooted : demoSink.root ≠ "" := by decide
  have identified : validIdentity demoSink.identity := by decide
  obtain ⟨after, done, -, synced⟩ :=
    @attempt_ended demoSink generation .absent rooted identified valid ⟨nofun, rfl⟩
  have state : demoSink.attempt [{ step := .syncRoot }] (.absent, composition) =
      (after, composition) := by
    refine (saveAndRelease_failed _ pending).trans ?_
    rw [synced]
  have existing := entry_of_published done
  obtain ⟨refused, kept⟩ := saveAndRelease_existing rooted identified valid pending existing
  rw [← state] at refused kept
  refine ⟨composition, generation, reached, pending, refused, kept, fun retried => ?_⟩
  cases refused.symm.trans retried.saved

end Results

end Fexma.SnapshotDemo
