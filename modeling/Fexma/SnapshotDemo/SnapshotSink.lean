import Fexma.SnapshotDemo.Storage

/-! Publishing a generation (`snapshot_sink.cpp`): the three files are written into a staging
directory, which is then renamed. However the attempt ends, the loader finds the whole
generation or no description. -/
namespace Fexma.SnapshotDemo

open CrashProgram Program

/-- Open, write, flush, synchronise and close one file. -/
def writeAndSyncFile (directory name : String) (bytes : List UInt8) :
    StorageProgram SnapshotSaveStatus :=
  .call (openBinaryFile directory name) fun opened =>
  if !opened then .answer .openError else
  .call (writeFile directory name bytes) fun written =>
  if !written then .answer .writeError else
  .call (flushFile directory name bytes) fun flushed =>
  if !flushed then .answer .flushError else
  .call syncCall fun synced =>
  if !synced then .answer .syncError else
  .call syncCall fun closed =>
  .answer (if closed then .ok else .closeError)

structure SnapshotSink where
  root : String
  identity : SnapshotIdentity
  deriving DecidableEq, Repr

namespace SnapshotSink

/-- The two renames that publish a staging directory. -/
def publish (published staging : String) : StorageProgram SnapshotSaveStatus :=
  .call (renameFile staging pendingDescriptionFile descriptionFile) fun described =>
  if !described then .answer .publicationError else
  .call syncCall fun synced =>
  if !synced then .answer .publicationError else
  .call (renameDirectory staging published) fun renamed =>
  if !renamed then .answer .publicationError else
  .call syncCall fun synced =>
  .answer (if synced then .ok else .publicationError)

/-- `save` from the serialisation on: the files are written into an empty staging directory. -/
def writeFiles (sink : SnapshotSink) (generation : CaptureGeneration) (published staging : String) :
    StorageProgram SnapshotSaveStatus :=
  (writeAndSyncFile staging hashChainFile
    (serializeHashChainSnapshot generation.hashChain)).bind fun status =>
  if status ≠ .ok then .answer status else
  (writeAndSyncFile staging bitAccumulatorFile
    (serializeBitAccumulatorSnapshot generation.bitAccumulator)).bind fun status =>
  if status ≠ .ok then .answer status else
  (writeAndSyncFile staging pendingDescriptionFile
    (serializeSnapshotDescription (describe sink.identity generation))).bind fun status =>
  if status ≠ .ok then .answer status else publish published staging

/-- `save` from the removal of a stale staging directory on. -/
def stage (sink : SnapshotSink) (generation : CaptureGeneration) (published staging : String) :
    StorageProgram SnapshotSaveStatus :=
  .call (removeAll staging) fun removed =>
  if !removed then .answer .directoryError else
  .call (createDirectory staging) fun created =>
  if !created then .answer .directoryError else
  sink.writeFiles generation published staging

/-- `save` on valid arguments. -/
def saveValid (sink : SnapshotSink) (generation : CaptureGeneration) (published staging : String) :
    StorageProgram SnapshotSaveStatus :=
  .call createDirectories fun created =>
  if !created then .answer .directoryError else
  .ask Tree.isDirectory fun directory =>
  if directory ≠ some true then .answer .directoryError else
  .ask (fun root => !(root.entry published).isAbsent) fun existing =>
  if existing = none then .answer .directoryError
  else if existing = some true then .answer .alreadyPublished
  else sink.stage generation published staging

def save (sink : SnapshotSink) (generation : CaptureGeneration) :
    StorageProgram SnapshotSaveStatus :=
  if sink.root = "" || !validIdentity sink.identity then .answer .invalidConfig
  else if !validGeneration generation then .answer .invalidGeneration
  else
    sink.saveValid generation (snapshotName generation.generationId)
      (stagingName generation.generationId)

end SnapshotSink

/-! ### Writing into the staging directory -/

/-- A root with a staging directory of the given content, beside what else is there. -/
def staged (base : String → Tree) (staging : String) (content : String → Tree) : Tree :=
  .directory (Function.update base staging (.directory content))

section Staging
variable {base content : String → Tree} {staging name : String} {bytes : List UInt8}
variable {halted : Tree → Prop}

@[simp] theorem entry_staged : (staged base staging content).entry staging = .directory content :=
  Function.update_self staging _ base

theorem entry_staged_ne {other : String} (apart : other ≠ staging) :
    (staged base staging content).entry other = base other :=
  Function.update_of_ne apart _ base

theorem setEntry_staged {content' : String → Tree} :
    (staged base staging content).setEntry staging (.directory content') =
      staged base staging content' :=
  congrArg Tree.directory (Function.update_idem _ _ base)

theorem setFile_staged : setFile (staged base staging content) staging name bytes =
    staged base staging (Function.update content name (.file bytes)) := by
  rw [setFile, entry_staged]
  exact setEntry_staged

/-- A cut write leaves something in the staging directory, and nothing elsewhere. -/
theorem tornWrite_staged (part : Remnant) :
    ∃ content', tornWrite staging name bytes part (staged base staging content) =
      staged base staging content' := by
  unfold tornWrite
  cases part.written with
  | none => exact ⟨content, rfl⟩
  | some count => exact ⟨_, setFile_staged⟩

/-- How the writing of a file ends: with the file in place, or with something in the staging
directory. -/
def Written (base content : String → Tree) (staging name : String) (bytes : List UInt8)
    (status : SnapshotSaveStatus) (root : Tree) : Prop :=
  if status = .ok then
    root = staged base staging (Function.update content name (.file bytes))
  else ∃ content', root = staged base staging content'

private theorem Written.failed {status : SnapshotSaveStatus} {root : Tree} (error : status ≠ .ok)
    (somewhere : ∃ content', root = staged base staging content') :
    Written base content staging name bytes status root := by
  rwa [Written, if_neg error]

theorem openBinaryFile_staged (free : (content name).isDirectory = false) :
    (openBinaryFile staging name).apply (staged base staging content) =
      some (staged base staging (Function.update content name (.file []))) := by
  change (if !((staged base staging content).entry staging).isDirectory ||
    (((staged base staging content).entry staging).entry name).isDirectory then none
    else some (setFile (staged base staging content) staging name [])) = _
  rw [entry_staged, setFile_staged]
  change (if false || (content name).isDirectory then none else _) = _
  rw [free]
  rfl

theorem flushFile_staged :
    (flushFile staging name bytes).apply
        (staged base staging (Function.update content name (.file []))) =
      some (staged base staging (Function.update content name (.file bytes))) := by
  change some (setFile _ staging name bytes) = _
  rw [setFile_staged, Function.update_idem]

/-- When nothing goes wrong, the file is in place. -/
theorem writeAndSyncFile_run (free : (content name).isDirectory = false) :
    (writeAndSyncFile staging name bytes).run [] (staged base staging content) =
      (some .ok, staged base staging (Function.update content name (.file bytes))) := by
  unfold writeAndSyncFile
  rw [run_guarded (openBinaryFile_staged free), run_guarded rfl, run_guarded flushFile_staged,
    run_guarded rfl]
  exact run_call rfl

theorem writeAndSyncFile_safe (anywhere : ∀ content, halted (staged base staging content))
    (free : (content name).isDirectory = false) :
    (writeAndSyncFile staging name bytes).Safe halted (Written base content staging name bytes)
      (staged base staging content) := by
  have halts {root : Tree} (somewhere : ∃ content', root = staged base staging content') :
      halted root := by
    obtain ⟨content', rfl⟩ := somewhere
    exact anywhere content'
  have opened := @openBinaryFile_staged base content staging name free
  have tears (part : Remnant) : ∃ content', (openBinaryFile staging name).torn part
      (staged base staging content) = staged base staging content' :=
    @torn_atomicCall _ (fun root => ∃ content', root = staged base staging content') _
      ⟨content, rfl⟩ (fun after applied => ⟨_, Option.some.inj (applied.symm.trans opened)⟩) part
  unfold writeAndSyncFile
  refine .guarded (fun part => halts (tears part)) (fun part => .failed nofun (tears part))
    (fun _ => .failed nofun ⟨content, rfl⟩) fun after applied => ?_
  obtain rfl := Option.some.inj (applied.symm.trans opened)
  refine .guarded (fun part => halts (tornWrite_staged part))
    (fun part => .failed nofun (tornWrite_staged part)) nofun fun after applied => ?_
  cases applied
  refine .guarded (fun part => halts (tornWrite_staged part))
    (fun part => .failed nofun (tornWrite_staged part)) nofun fun after applied => ?_
  obtain rfl := Option.some.inj (applied.symm.trans flushFile_staged)
  refine .guarded (fun part => ?_) (fun part => ?_) nofun fun after applied => ?_
  · rw [torn_syncCall]
    exact anywhere _
  · rw [torn_syncCall]
    exact .failed nofun ⟨_, rfl⟩
  cases applied
  refine ⟨fun part => ?_, fun part => ?_, fun after applied => ?_, nofun⟩
  · rw [torn_syncCall]
    exact anywhere _
  · rw [torn_syncCall]
    exact Written.failed nofun ⟨_, rfl⟩
  · cases applied
    exact rfl

end Staging

/-! ### How an attempt ends -/

section Publication
variable {sink : SnapshotSink} {generation : CaptureGeneration} {root root' : Tree}
variable {published staging : String}

/-- Outside the staging directory nothing has changed. -/
def Beside (staging : String) (root root' : Tree) : Prop :=
  ∀ name, name ≠ staging → root'.entry name = root.entry name

/-- The generation is there, and outside its directory nothing has changed. -/
structure Published (sink : SnapshotSink) (generation : CaptureGeneration) (published staging : String)
    (root root' : Tree) : Prop where
  saved : snapshotFiles (root'.entry published) = savedFiles sink.identity generation
  others : ∀ name, name ≠ staging → name ≠ published → root'.entry name = root.entry name

/-- How an attempt may end that found no snapshot: with the generation in place, which it is
when the attempt was successful, or as before. -/
def Attempted (sink : SnapshotSink) (generation : CaptureGeneration) (published staging : String)
    (root : Tree) (status : SnapshotSaveStatus) (root' : Tree) : Prop :=
  Published sink generation published staging root root' ∨
    status ≠ .ok ∧ Beside staging root root'

/-- The content of a staging directory whose files have been written. -/
def writtenContent (sink : SnapshotSink) (generation : CaptureGeneration) : String → Tree :=
  Function.update
    (Function.update
      (Function.update (fun _ => .absent) hashChainFile
        (.file (serializeHashChainSnapshot generation.hashChain)))
      bitAccumulatorFile (.file (serializeBitAccumulatorSnapshot generation.bitAccumulator)))
    pendingDescriptionFile
    (.file (serializeSnapshotDescription (describe sink.identity generation)))

/-- The same once its description has its final name. -/
def describedContent (sink : SnapshotSink) (generation : CaptureGeneration) : String → Tree :=
  Function.update
    (Function.update (writtenContent sink generation) descriptionFile
      (.file (serializeSnapshotDescription (describe sink.identity generation))))
    pendingDescriptionFile .absent

private theorem snapshotFiles_described : snapshotFiles (.directory (describedContent sink generation)) =
    savedFiles sink.identity generation := by
  have files : pendingDescriptionFile ≠ descriptionFile ∧ pendingDescriptionFile ≠ hashChainFile ∧
      pendingDescriptionFile ≠ bitAccumulatorFile ∧ descriptionFile ≠ hashChainFile ∧
      descriptionFile ≠ bitAccumulatorFile ∧ hashChainFile ≠ bitAccumulatorFile := by decide
  obtain ⟨a, b, c, d, e, f⟩ := files
  simp only [snapshotFiles, Tree.entry, describedContent, writtenContent, Function.update_of_ne a.symm,
    Function.update_of_ne b.symm, Function.update_of_ne c.symm, Function.update_of_ne d.symm,
    Function.update_of_ne e.symm, Function.update_of_ne f, Function.update_self, Tree.fileEntry,
    savedFiles]

private theorem renameEntry_written :
    renameEntry pendingDescriptionFile descriptionFile (.directory (writtenContent sink generation)) =
      some (.directory (describedContent sink generation)) := by
  have pending : (Tree.directory (writtenContent sink generation)).entry pendingDescriptionFile =
      .file (serializeSnapshotDescription (describe sink.identity generation)) := by
    simp only [Tree.entry, writtenContent, Function.update_self]
  have free : (Tree.directory (writtenContent sink generation)).entry descriptionFile = .absent := by
    have files : descriptionFile ≠ pendingDescriptionFile ∧ descriptionFile ≠ hashChainFile ∧
      descriptionFile ≠ bitAccumulatorFile := by decide
    obtain ⟨a, b, c⟩ := files
    simp only [Tree.entry, writtenContent, Function.update_of_ne a, Function.update_of_ne b,
      Function.update_of_ne c]
  rw [renameEntry, pending, free]
  rfl

theorem renameFile_written {base : String → Tree} :
    (renameFile staging pendingDescriptionFile descriptionFile).apply
        (staged base staging (writtenContent sink generation)) =
      some (staged base staging (describedContent sink generation)) := by
  change (renameEntry pendingDescriptionFile descriptionFile
    ((staged base staging (writtenContent sink generation)).entry staging)).map _ = _
  rw [entry_staged, renameEntry_written, Option.map_some, setEntry_staged]

/-- The rename of a complete staging directory. -/
theorem renameEntry_staged {base : String → Tree} (apart : published ≠ staging)
    (vacant : base published = .absent) (beside : ∀ name, base name = root.entry name) :
    ∃ after, renameEntry staging published
        (staged base staging (describedContent sink generation)) = some after ∧
      Published sink generation published staging root after := by
  have free : (staged base staging (describedContent sink generation)).entry published = .absent :=
    (entry_staged_ne apart).trans vacant
  refine ⟨((staged base staging (describedContent sink generation)).setEntry published
    (.directory (describedContent sink generation))).setEntry staging .absent, ?_, ?_⟩
  · rw [renameEntry, entry_staged, free]
  · constructor
    case saved =>
      rw [Tree.entry_setEntry_ne apart, ← @snapshotFiles_described sink generation]
      exact congrArg snapshotFiles (Function.update_self _ _ _)
    case others =>
      intro name other other'
      rw [Tree.entry_setEntry_ne other, Tree.entry_setEntry_ne other', entry_staged_ne other, beside]

/-- The renames take a written staging directory to a published one. -/
theorem publish_safe {base : String → Tree} (apart : published ≠ staging)
    (vacant : base published = .absent) (beside : ∀ name, base name = root.entry name) :
    (SnapshotSink.publish published staging).Safe
      (fun root' => Published sink generation published staging root root' ∨ Beside staging root root')
      (Attempted sink generation published staging root)
      (staged base staging (writtenContent sink generation)) := by
  have unchanged (content : String → Tree) : Beside staging root (staged base staging content) :=
    fun name other => (entry_staged_ne other).trans (beside name)
  have described := @renameFile_written sink generation staging base
  have described_torn (part : Remnant) : Beside staging root
      ((renameFile staging pendingDescriptionFile descriptionFile).torn part
        (staged base staging (writtenContent sink generation))) := by
    refine torn_atomicCall (unchanged _) (fun after applied => ?_) part
    obtain rfl := Option.some.inj (applied.symm.trans described)
    exact unchanged _
  obtain ⟨after, renamed, done⟩ := @renameEntry_staged sink generation root _ _ base apart vacant beside
  refine .guarded (fun part => .inr (described_torn part))
    (fun part => .inr ⟨nofun, described_torn part⟩) (fun _ => .inr ⟨nofun, unchanged _⟩)
    fun root' applied => ?_
  obtain rfl := Option.some.inj (applied.symm.trans described)
  refine .guarded (fun part => ?_) (fun part => ?_) nofun fun root' applied => ?_
  · rw [torn_syncCall]
    exact .inr (unchanged _)
  · rw [torn_syncCall]
    exact .inr ⟨nofun, unchanged _⟩
  cases applied
  have renamed_torn (part : Remnant) :
      Published sink generation published staging root ((renameDirectory staging published).torn part
          (staged base staging (describedContent sink generation))) ∨
        Beside staging root ((renameDirectory staging published).torn part
          (staged base staging (describedContent sink generation))) := by
    refine @torn_atomicCall _ (fun root' =>
      Published sink generation published staging root root' ∨ Beside staging root root') _
      (.inr (unchanged _)) (fun root' applied => ?_) part
    obtain rfl := Option.some.inj (applied.symm.trans renamed)
    exact .inl done
  refine .guarded renamed_torn (fun part => (renamed_torn part).imp_right fun same => ⟨nofun, same⟩)
    (fun _ => .inr ⟨nofun, unchanged _⟩) fun root' applied => ?_
  obtain rfl := Option.some.inj (applied.symm.trans renamed)
  refine ⟨fun part => ?_, fun part => ?_, fun root' applied => ?_, nofun⟩
  · rw [torn_syncCall]
    exact .inl done
  · rw [torn_syncCall]
    exact .inl done
  · cases applied
    exact .inl done

theorem created_root (applied : createDirectories.apply root = some root') :
    root' = .directory root.entry := by
  cases root with
  | absent =>
    cases applied
    rfl
  | file bytes => cases applied
  | directory entries =>
    cases applied
    rfl

theorem createDirectory_removed : (createDirectory staging).apply
      ((Tree.directory root.entry).setEntry staging .absent) =
    some (staged root.entry staging fun _ => .absent) := by
  have removed : ((Tree.directory root.entry).setEntry staging .absent).entry staging = .absent :=
    Function.update_self _ _ _
  change (if (((Tree.directory root.entry).setEntry staging .absent).entry staging).isAbsent then
    some (((Tree.directory root.entry).setEntry staging .absent).setEntry staging .emptyDirectory)
    else none) = _
  rw [removed]
  exact congrArg (fun entries => some (Tree.directory entries)) (Function.update_idem _ _ _)

section Vacant
variable (apart : published ≠ staging) (vacant : root.entry published = .absent)

private theorem unchanged (root : Tree) (content : String → Tree) :
    Beside staging root (staged root.entry staging content) := fun _ other => entry_staged_ne other

/-- A file that could not be written ends the attempt. -/
private theorem Written.attempted {content : String → Tree} {name : String} {bytes : List UInt8}
    {status : SnapshotSaveStatus} (ended : Written root.entry content staging name bytes status root')
    (error : status ≠ .ok) : Attempted sink generation published staging root status root' := by
  rw [Written, if_neg error] at ended
  obtain ⟨content', rfl⟩ := ended
  exact .inr ⟨error, unchanged root content'⟩

/-- Write a file and go on. -/
private theorem written_bind {content : String → Tree} {name : String} {bytes : List UInt8}
    {next : StorageProgram SnapshotSaveStatus} {halted : Tree → Prop}
    (anywhere : ∀ content, halted (staged root.entry staging content))
    (free : (content name).isDirectory = false)
    (behind : next.Safe halted (Attempted sink generation published staging root)
      (staged root.entry staging (Function.update content name (.file bytes)))) :
    ((writeAndSyncFile staging name bytes).bind fun status =>
      if status ≠ .ok then .answer status else next).Safe halted
        (Attempted sink generation published staging root) (staged root.entry staging content) := by
  refine .bind ((writeAndSyncFile_safe anywhere free).mono fun status root' ended => ?_)
  by_cases error : status = .ok
  · rw [Written, if_pos error] at ended
    rw [if_neg (not_not.mpr error), ended]
    exact behind
  · rw [if_pos error]
    exact ended.attempted error

include apart vacant

private theorem writeFiles_safe : (sink.writeFiles generation published staging).Safe
    (fun root' => Published sink generation published staging root root' ∨ Beside staging root root')
    (Attempted sink generation published staging root)
    (staged root.entry staging fun _ => .absent) := by
  have anywhere (content : String → Tree) :
      Published sink generation published staging root (staged root.entry staging content) ∨
        Beside staging root (staged root.entry staging content) := .inr (unchanged root content)
  refine written_bind anywhere rfl (written_bind anywhere ?_ (written_bind anywhere ?_ ?_))
  · rw [Function.update_of_ne (by decide)]
    rfl
  · rw [Function.update_of_ne (by decide), Function.update_of_ne (by decide)]
    rfl
  · exact publish_safe apart vacant fun _ => rfl

private theorem stage_safe : (sink.stage generation published staging).Safe
    (fun root' => Published sink generation published staging root root' ∨ Beside staging root root')
    (Attempted sink generation published staging root) (.directory root.entry) := by
  have beside (node : Tree) :
      Beside staging root ((Tree.directory root.entry).setEntry staging node) :=
    fun name other => Tree.entry_setEntry_ne other
  have created := @createDirectory_removed root staging
  refine .guarded (fun part => .inr (beside _)) (fun part => .inr ⟨nofun, beside _⟩) nofun
    fun after applied => ?_
  cases applied
  have torn (part : Remnant) : Beside staging root ((createDirectory staging).torn part
      ((Tree.directory root.entry).setEntry staging .absent)) := by
    refine torn_atomicCall (beside _) (fun after applied => ?_) part
    obtain rfl := Option.some.inj (applied.symm.trans created)
    exact unchanged root _
  refine .guarded (fun part => .inr (torn part)) (fun part => .inr ⟨nofun, torn part⟩)
    (fun _ => .inr ⟨nofun, beside _⟩) fun after applied => ?_
  obtain rfl := Option.some.inj (applied.symm.trans created)
  exact writeFiles_safe apart vacant

private theorem saveValid_safe : (sink.saveValid generation published staging).Safe
    (fun root' => Published sink generation published staging root root' ∨ Beside staging root root')
    (Attempted sink generation published staging root) root := by
  have before : Beside staging root root := fun _ _ => rfl
  have same : Beside staging root (.directory root.entry) := fun _ _ => rfl
  have created (part : Remnant) : Beside staging root (createDirectories.torn part root) := by
    refine torn_atomicCall before (fun after applied => ?_) part
    rw [created_root applied]
    exact same
  refine .guarded (fun part => .inr (created part)) (fun part => .inr ⟨nofun, created part⟩)
    (fun _ => .inr ⟨nofun, before⟩) fun after applied => ?_
  obtain rfl := created_root applied
  refine .ask (.inr same) (.ask (.inr same) ?_ (.inr ⟨nofun, same⟩)) (.inr ⟨nofun, same⟩)
  have free : (!((Tree.directory root.entry).entry published).isAbsent) = false := by
    change (!(root.entry published).isAbsent) = false
    rw [vacant]
    rfl
  rw [free]
  exact stage_safe apart vacant

end Vacant

/-- An attempt that finds no snapshot of its generation. -/
theorem save_safe (vacant : root.entry (snapshotName generation.generationId) = .absent) :
    (sink.save generation).Safe
      (fun root' =>
        Published sink generation (snapshotName generation.generationId)
          (stagingName generation.generationId) root root' ∨
        Beside (stagingName generation.generationId) root root')
      (Attempted sink generation (snapshotName generation.generationId)
        (stagingName generation.generationId) root) root := by
  unfold SnapshotSink.save
  split_ifs with config invalid
  · exact .inr ⟨nofun, fun _ _ => rfl⟩
  · exact .inr ⟨nofun, fun _ _ => rfl⟩
  · exact saveValid_safe (snapshotName_ne_stagingName _ _) vacant

/-- An attempt that finds a snapshot of its generation leaves all entries as they are. -/
theorem save_safe_existing
    (existing : root.entry (snapshotName generation.generationId) ≠ .absent) :
    (sink.save generation).Safe (fun root' => ∀ name, root'.entry name = root.entry name)
      (fun status root' => status ≠ .ok ∧ ∀ name, root'.entry name = root.entry name) root := by
  unfold SnapshotSink.save
  split_ifs with config invalid
  · exact ⟨nofun, fun _ => rfl⟩
  · exact ⟨nofun, fun _ => rfl⟩
  have created (part : Remnant) :
      ∀ name, (createDirectories.torn part root).entry name = root.entry name := by
    refine @torn_atomicCall _ (fun root' => ∀ name, root'.entry name = root.entry name) _
      (fun _ => rfl) (fun after applied => ?_) part
    rw [created_root applied]
    exact fun _ => rfl
  refine .guarded created (fun part => ⟨nofun, created part⟩) (fun _ => ⟨nofun, fun _ => rfl⟩)
    fun after applied => ?_
  obtain rfl := created_root applied
  refine .ask (fun _ => rfl) (.ask (fun _ => rfl) ?_ ⟨nofun, fun _ => rfl⟩) ⟨nofun, fun _ => rfl⟩
  have taken : (!((Tree.directory root.entry).entry (snapshotName generation.generationId)).isAbsent) =
      true := by
    change (!(root.entry (snapshotName generation.generationId)).isAbsent) = true
    cases found : root.entry (snapshotName generation.generationId) with
    | absent => exact absurd found existing
    | _ => rfl
  rw [taken]
  exact ⟨nofun, fun _ => rfl⟩

/-! ### When nothing goes wrong -/

private theorem publish_run {base : String → Tree} (apart : published ≠ staging)
    (vacant : base published = .absent) :
    ((SnapshotSink.publish published staging).run []
      (staged base staging (writtenContent sink generation))).1 = some .ok := by
  obtain ⟨after, renamed, -⟩ :=
    @renameEntry_staged sink generation (.directory base) _ _ base apart vacant fun _ => rfl
  have done : (renameDirectory staging published).apply
      (staged base staging (describedContent sink generation)) = some after := renamed
  unfold SnapshotSink.publish
  rw [run_guarded renameFile_written, run_guarded rfl, run_guarded done]
  exact congrArg Prod.fst (run_call rfl)

private theorem writeFiles_run {base : String → Tree} (apart : published ≠ staging)
    (vacant : base published = .absent) :
    ((sink.writeFiles generation published staging).run []
      (staged base staging fun _ => .absent)).1 = some .ok := by
  unfold SnapshotSink.writeFiles
  rw [run_bind (writeAndSyncFile_run rfl), if_neg (not_not.mpr rfl),
    run_bind (writeAndSyncFile_run ?_), if_neg (not_not.mpr rfl),
    run_bind (writeAndSyncFile_run ?_), if_neg (not_not.mpr rfl)]
  · exact publish_run apart vacant
  · rw [Function.update_of_ne (by decide), Function.update_of_ne (by decide)]
    rfl
  · rw [Function.update_of_ne (by decide)]
    rfl

/-- A valid generation is saved where there is no snapshot of it, when every call succeeds. -/
theorem save_run (rooted : sink.root ≠ "") (identified : validIdentity sink.identity)
    (valid : validGeneration generation) (directory : ∀ bytes, root ≠ .file bytes)
    (vacant : root.entry (snapshotName generation.generationId) = .absent) :
    ((sink.save generation).run [] root).1 = some .ok := by
  have created : createDirectories.apply root = some (.directory root.entry) := by
    cases root with
    | absent => rfl
    | file bytes => exact absurd rfl (directory bytes)
    | directory entries => rfl
  have removed : (removeAll (stagingName generation.generationId)).apply (.directory root.entry) =
      some ((Tree.directory root.entry).setEntry (stagingName generation.generationId) .absent) := rfl
  have free : (!((Tree.directory root.entry).entry
      (snapshotName generation.generationId)).isAbsent) = false := by
    change (!(root.entry (snapshotName generation.generationId)).isAbsent) = false
    rw [vacant]
    rfl
  unfold SnapshotSink.save
  rw [if_neg (by simp [rooted, identified]), if_neg (by simp [valid]), SnapshotSink.saveValid,
    run_guarded created]
  simp only [run, free, Tree.isDirectory, ne_eq, not_true_eq_false, if_false, reduceCtorEq,
    Option.some.injEq, Bool.false_eq_true]
  rw [SnapshotSink.stage, run_guarded removed, run_guarded createDirectory_removed]
  exact writeFiles_run (snapshotName_ne_stagingName _ _) vacant

end Publication

/-! ### Results -/

/-- The loader over the directory of a sink. -/
def SnapshotSink.loader (sink : SnapshotSink) : SnapshotLoader :=
  { root := sink.root, expectedIdentity := sink.identity }

section Results
variable {sink : SnapshotSink} {generation : CaptureGeneration} {root root' : Tree}

theorem valid_of_saved {fates : List (Fate Remnant)}
    (saved : ((sink.save generation).run fates root).1 = some .ok) :
    sink.root ≠ "" ∧ validIdentity sink.identity ∧ validGeneration generation := by
  unfold SnapshotSink.save at saved
  split_ifs at saved with config invalid
  · cases saved
  · cases saved
  · simp only [Bool.or_eq_true, decide_eq_true_eq, not_or, Bool.not_eq_eq_eq_not, Bool.not_true,
      Bool.not_eq_false] at config invalid
    exact ⟨config.1, config.2, invalid⟩

/-- A save that answers `ok` has found no snapshot and has left its own. -/
theorem published_of_saved {fates : List (Fate Remnant)}
    (saved : ((sink.save generation).run fates root).1 = some .ok) :
    Published sink generation (snapshotName generation.generationId)
      (stagingName generation.generationId) root ((sink.save generation).run fates root).2 := by
  by_cases vacant : root.entry (snapshotName generation.generationId) = .absent
  · have ended := (@save_safe sink _ _ vacant).run fates
    generalize (sink.save generation).run fates root = result at saved ended ⊢
    obtain ⟨answer, root'⟩ := result
    obtain rfl : answer = some .ok := saved
    rcases ended with published | ⟨error, -⟩
    · exact published
    · exact absurd rfl error
  · have ended := (@save_safe_existing sink _ _ vacant).run fates
    generalize (sink.save generation).run fates root = result at saved ended ⊢
    obtain ⟨answer, root'⟩ := result
    obtain rfl : answer = some .ok := saved
    exact absurd rfl ended.1

theorem load_of_saved {fates : List (Fate Remnant)}
    (saved : ((sink.save generation).run fates root).1 = some .ok) :
    sink.loader.loadFrom ((sink.save generation).run fates root).2 generation.generationId =
      { status := .ok, prepared := some (preparedOf sink.identity generation) } := by
  obtain ⟨rooted, identified, valid⟩ := valid_of_saved saved
  rw [SnapshotLoader.loadFrom, (published_of_saved saved).saved]
  exact load_savedFiles sink.loader rooted identified valid

/-- However an attempt ends that found no snapshot, the generation is there or nothing is. -/
private theorem ended_vacant (vacant : root.entry (snapshotName generation.generationId) = .absent)
    (fates : List (Fate Remnant)) :
    Published sink generation (snapshotName generation.generationId)
        (stagingName generation.generationId) root ((sink.save generation).run fates root).2 ∨
      Beside (stagingName generation.generationId) root ((sink.save generation).run fates root).2 := by
  have ended := (@save_safe sink _ _ vacant).run fates
  generalize (sink.save generation).run fates root = result at ended ⊢
  obtain ⟨answer, root'⟩ := result
  cases answer with
  | none => exact ended
  | some status => exact Or.imp_right (fun before => before.2) ended

theorem ended_existing
    (existing : root.entry (snapshotName generation.generationId) ≠ .absent)
    (fates : List (Fate Remnant)) (name : String) :
    ((sink.save generation).run fates root).2.entry name = root.entry name := by
  have ended := (@save_safe_existing sink _ _ existing).run fates
  generalize (sink.save generation).run fates root = result at ended ⊢
  obtain ⟨answer, root'⟩ := result
  cases answer with
  | none => exact ended name
  | some status => exact ended.2 name

private theorem load_absent (rooted : sink.root ≠ "") (identified : validIdentity sink.identity)
    {generationId : UInt64} (absent : root.entry (snapshotName generationId) = .absent) :
    sink.loader.loadFrom root generationId = { status := .descriptionMissing } := by
  rw [SnapshotLoader.loadFrom, absent]
  unfold SnapshotLoader.load SnapshotLoader.prepare
  rw [if_neg (by simp [SnapshotSink.loader, rooted, identified])]
  rfl

private theorem loadFrom_congr {loader : SnapshotLoader} {generationId : UInt64}
    (same : root'.entry (snapshotName generationId) = root.entry (snapshotName generationId)) :
    loader.loadFrom root' generationId = loader.loadFrom root generationId := by
  rw [SnapshotLoader.loadFrom, same, SnapshotLoader.loadFrom]

/-- A sink of the demo's identity, and the generation of a snapshot record at position zero. -/
def demoSink : SnapshotSink where
  root := "snapshots"
  identity := { streamId := 31, epochId := 7, manifestId := 13, compositionId := 6006 }

def firstGeneration : CaptureGeneration where
  generationId := 0
  recordPosition := 0
  processedEnd := 1
  sequence := 1000
  hashChain := ⟨0, 0, 1, 1000, ⟨1, {}, false⟩⟩
  bitAccumulator := ⟨0, 0, 1, 1000, ⟨1, {}, false⟩⟩

/-- Whatever becomes of an attempt, it leaves the whole generation or no description, it never
touches a snapshot that is there, and every other generation is loaded as before. -/
theorem save_publishes_atomically (rooted : sink.root ≠ "") (identified : validIdentity sink.identity)
    (valid : validGeneration generation) (root : Tree) (fates : List (Fate Remnant)) :
    (root.entry (snapshotName generation.generationId) = .absent →
      sink.loader.loadFrom ((sink.save generation).run fates root).2 generation.generationId =
          { status := .descriptionMissing } ∨
        sink.loader.loadFrom ((sink.save generation).run fates root).2 generation.generationId =
          { status := .ok, prepared := some (preparedOf sink.identity generation) }) ∧
    (((sink.save generation).run fates root).1 = some .ok →
      sink.loader.loadFrom ((sink.save generation).run fates root).2 generation.generationId =
        { status := .ok, prepared := some (preparedOf sink.identity generation) }) ∧
    (root.entry (snapshotName generation.generationId) ≠ .absent →
      ((sink.save generation).run fates root).2.entry (snapshotName generation.generationId) =
        root.entry (snapshotName generation.generationId)) ∧
    ∀ (loader : SnapshotLoader) (other : UInt64), other ≠ generation.generationId →
      loader.loadFrom ((sink.save generation).run fates root).2 other = loader.loadFrom root other := by
  refine ⟨fun vacant => ?_, load_of_saved, fun existing => ended_existing existing fates _,
    fun loader other apart => ?_⟩
  · rcases @ended_vacant sink _ _ vacant fates with published | before
    · right
      rw [SnapshotLoader.loadFrom, published.saved]
      exact load_savedFiles sink.loader rooted identified valid
    · left
      refine load_absent rooted identified ?_
      rw [before _ (snapshotName_ne_stagingName _ _), vacant]
  · have other_name : snapshotName other ≠ snapshotName generation.generationId :=
      fun same => apart (snapshotName_injective same)
    refine loadFrom_congr ?_
    by_cases vacant : root.entry (snapshotName generation.generationId) = .absent
    · rcases @ended_vacant sink _ _ vacant fates with published | before
      · exact published.others _ (snapshotName_ne_stagingName _ _) other_name
      · exact before _ (snapshotName_ne_stagingName _ _)
    · exact ended_existing vacant fates _

/-- The process stops in the first file: there is no snapshot, and none of another position. -/
theorem save_publishes_atomically_torn :
    ((demoSink.save firstGeneration).run
      (List.replicate 6 .succeeds ++ [.stops { written := some 10 }]) .absent).1 = none ∧
    demoSink.loader.loadFrom ((demoSink.save firstGeneration).run
      (List.replicate 6 .succeeds ++ [.stops { written := some 10 }]) .absent).2 1 =
        demoSink.loader.loadFrom .absent 1 := by
  obtain ⟨-, -, -, others⟩ := @save_publishes_atomically demoSink firstGeneration (by decide)
    (by decide) (by decide) .absent (List.replicate 6 .succeeds ++ [.stops { written := some 10 }])
  exact ⟨rfl, others demoSink.loader 1 (by decide)⟩

end Results

/-- The three files of a snapshot: those of a valid generation are loaded with exactly what was
saved, a save that answers `ok` leaves them, and no other content is loaded. -/
theorem snapshot_files_exact :
    (∀ (sink : SnapshotSink) (generation : CaptureGeneration), sink.root ≠ "" →
      validIdentity sink.identity → validGeneration generation →
      sink.loader.load (savedFiles sink.identity generation) generation.generationId =
        { status := .ok, prepared := some (preparedOf sink.identity generation) }) ∧
    (∀ (sink : SnapshotSink) (generation : CaptureGeneration) (root : Tree)
      (fates : List (Fate Remnant)), ((sink.save generation).run fates root).1 = some .ok →
      sink.loader.loadFrom ((sink.save generation).run fates root).2 generation.generationId =
        { status := .ok, prepared := some (preparedOf sink.identity generation) }) ∧
    ∀ (loader : SnapshotLoader) (files : SnapshotFiles) (generationId : UInt64),
      (∃ generation, validGeneration generation ∧ generation.generationId = generationId ∧
        files = savedFiles loader.expectedIdentity generation ∧
        loader.load files generationId =
          { status := .ok, prepared := some (preparedOf loader.expectedIdentity generation) }) ∨
      (loader.load files generationId).status ≠ .ok ∧
        (loader.load files generationId).prepared = none := by
  refine ⟨fun sink generation rooted identified valid => ?_, fun _ _ _ _ => load_of_saved, load_cases⟩
  exact load_savedFiles sink.loader rooted identified valid

theorem snapshot_files_exact_first :
    demoSink.loader.load (savedFiles demoSink.identity firstGeneration) 0 =
      { status := .ok, prepared := some (preparedOf demoSink.identity firstGeneration) } :=
  snapshot_files_exact.1 demoSink firstGeneration (by decide) (by decide) (by decide)

end Fexma.SnapshotDemo
