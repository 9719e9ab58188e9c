import Fexma.Wal.FileWrites
import Fexma.Wal.Slider

/-! The module that writes records to the physical log (`persistence.cpp`) and the policy that
publishes them in batches (`persistence_slider.hpp`). The first failure is kept. -/
namespace Fexma.Wal

open PhysicalWalAdapter

structure PhysicalWalConfig where
  payloadSize : UInt32 := 0
  alignment : UInt32 := defaultAlignment
  payloadSchemaVersion : UInt32 := 0
  streamKind : StreamKind := .generic
  streamId : StreamId := 0
  epochId : EpochId := 0
  firstSequence : UInt64 := 1
  manifestId : ManifestId := 0
  deriving DecidableEq, Repr

structure PersistenceModule (δ : Type) where
  physicalWal : Option (PhysicalWalAdapter δ) := none
  failed : Bool := false

namespace PersistenceModule

variable {δ : Type}

def isOpen (module : PersistenceModule δ) : Bool := module.physicalWal.any (·.isOpen)

variable [Device δ]

/-- The configuration of the adapter. -/
def adapterConfig (config : PhysicalWalConfig) : WalConfig where
  payloadSize := config.payloadSize
  capacity := 1
  alignment := config.alignment
  payloadSchemaVersion := config.payloadSchemaVersion
  streamKind := config.streamKind
  streamId := config.streamId
  epochId := config.epochId
  firstSequence := config.firstSequence
  manifestId := config.manifestId

/-- `allocated` says whether the adapter could be allocated, and `device` is what it runs on. -/
def open_ (module : PersistenceModule δ) (config : PhysicalWalConfig) (allocated : Bool)
    (device : δ) : OpenStatus × PersistenceModule δ :=
  if module.isOpen then (.alreadyOpen, module)
  else if !validConfig (adapterConfig config) then (.invalidConfig, module)
  else if !allocated then (.allocationFailed, { module with physicalWal := none })
  else match create (adapterConfig config) { device } with
    | (.ok, adapter) => (.ok, { physicalWal := some adapter, failed := false })
    | (status, _) => (status, { module with physicalWal := none })

def append (module : PersistenceModule δ) (record : RecordView) : Bool × PersistenceModule δ :=
  match module.physicalWal with
  | none => (false, { module with failed := true })
  | some adapter =>
    if !adapter.isOpen || module.failed then (false, { module with failed := true })
    else match adapter.appendRecord record.sequence record.payload with
      | (false, adapter) => (false, { physicalWal := some adapter, failed := true })
      | (true, adapter) => (true, { module with physicalWal := some adapter })

def sync (module : PersistenceModule δ) : Bool × PersistenceModule δ :=
  match module.physicalWal with
  | none => (false, { module with failed := true })
  | some adapter =>
    if !adapter.isOpen || module.failed then (false, { module with failed := true })
    else match adapter.sync with
      | (false, adapter) => (false, { physicalWal := some adapter, failed := true })
      | (true, adapter) => (true, { module with physicalWal := some adapter })

def close (module : PersistenceModule δ) : Bool × PersistenceModule δ :=
  match module.physicalWal with
  | none => (true, module)
  | some adapter => (adapter.close.1, { module with physicalWal := none })

instance : SliderModule (PersistenceModule δ) where
  process := append

end PersistenceModule

/-! ### The batch policy -/

/-- What the batch policy asks of a module. -/
class SyncModule (μ : Type) where
  sync : μ → Bool × μ

instance {δ : Type} [Device δ] : SyncModule (PersistenceModule δ) where
  sync := PersistenceModule.sync

/-- Nothing is published before the whole range has been synced. -/
inductive PersistenceBatchPublish where
  | policy

instance {μ : Type} [SyncModule μ] : SliderPublishPolicy PersistenceBatchPublish μ where
  afterProcess policies module _ := (.hold, policies, module)
  afterRange policies module first last :=
    if first = last then (.hold, policies, module)
    else
      (if (SyncModule.sync module).1 then .publish else .failed, policies,
        (SyncModule.sync module).2)

/-! ### What the module has stored -/

namespace PersistenceModule

variable {δ : Type} {config : WalConfig} {published : List (List UInt8)} {payload : List UInt8}
variable {durable current : ℕ} {adapter : PhysicalWalAdapter δ} {module : PersistenceModule δ}
variable {record : RecordView}

/-- The file holds a beginning of the log of the published string, whole up to the current
position unless the module has failed, and the durable records are covered by a sync. -/
structure Stores (config : WalConfig) (published : List (List UInt8)) (durable current : ℕ)
    (adapter : PhysicalWalAdapter δ) (module : PersistenceModule δ) : Prop where
  held : module.physicalWal = some adapter
  isOpen : adapter.isOpen = true
  configured : adapter.config = config
  within : adapter.file.bytes <+: fileImage config published
  covered : (fileImage config (published.take durable)).length ≤ adapter.synced
  inside : adapter.synced ≤ adapter.file.bytes.length
  whole : module.failed = false → adapter.file.bytes = fileImage config (published.take current)

/-- A file that has just been created holds the empty string. -/
theorem stores_created (created : Created config adapter) (held : module.physicalWal = some adapter) :
    Stores config [] 0 0 adapter module := by
  have image : fileImage config [] = fileHead config := by
    rw [fileImage, recordFrames, List.flatten_nil, List.append_nil]
  constructor
  case held => exact held
  case isOpen => exact created.isOpen
  case configured => exact created.config
  case within => exact ⟨[], by rw [List.append_nil, created.file, image]⟩
  case covered =>
    rw [List.take_nil, image, created.synced, created.file]
  case inside => exact Nat.le_of_eq created.synced
  case whole =>
    intro _
    rw [List.take_nil, image, created.file]

/-- What is published behind the string does not change what is stored. -/
theorem Stores.publish (stores : Stores config published durable current adapter module)
    (durable_inside : durable ≤ published.length) (current_inside : current ≤ published.length)
    {more : List (List UInt8)} :
    Stores config (published ++ more) durable current adapter module := by
  refine { stores with
    within := stores.within.trans fileImage_prefix, covered := ?_, whole := fun running => ?_ }
  · rw [List.take_append_of_le_length durable_inside]
    exact stores.covered
  · rw [List.take_append_of_le_length current_inside]
    exact stores.whole running

theorem fileImage_take_succ (here : published[current]? = some payload) :
    fileImage config (published.take (current + 1)) = fileImage config (published.take current) ++
      recordFrame config (config.firstSequence + .ofNat current) payload := by
  have inside := (List.getElem?_eq_some_iff.mp here).1
  rw [List.take_add_one, here, Option.toList_some, fileImage_append,
    List.length_take_of_le (Nat.le_of_lt inside), recordFrames, recordFrames, List.flatten_singleton]

variable [Device δ]

/-- A module that runs hands the record to its adapter. -/
private theorem append_eq (held : module.physicalWal = some adapter) (opened : adapter.isOpen = true)
    (running : module.failed = false) {ok : Bool} {adapter' : PhysicalWalAdapter δ}
    (answered : adapter.appendRecord record.sequence record.payload = (ok, adapter')) :
    module.append record = (ok, { physicalWal := some adapter', failed := !ok }) := by
  unfold PersistenceModule.append
  rw [held]
  dsimp only
  rw [if_neg (by simp [opened, running]), answered, running]
  cases ok <;> rfl

private theorem sync_eq (held : module.physicalWal = some adapter) (opened : adapter.isOpen = true)
    (running : module.failed = false) {ok : Bool} {adapter' : PhysicalWalAdapter δ}
    (answered : adapter.sync = (ok, adapter')) :
    module.sync = (ok, { physicalWal := some adapter', failed := !ok }) := by
  unfold PersistenceModule.sync
  rw [held]
  dsimp only
  rw [if_neg (by simp [opened, running]), answered, running]
  cases ok <;> rfl

/-- The append of the next record of the string. -/
theorem Stores.append (stores : Stores config published durable current adapter module)
    (running : module.failed = false) (here : published[current]? = some record.payload)
    (sequence : record.sequence = config.firstSequence + .ofNat current) :
    ∃ adapter', Grows adapter adapter' ∧ (module.append record).2.failed = !(module.append record).1 ∧
      Stores config published durable
        (if (module.append record).1 then current + 1 else current) adapter'
        (module.append record).2 := by
  have wrote := appendRecord_wrote record.sequence record.payload adapter
  have next := @fileImage_take_succ config published record.payload current here
  have ahead : fileImage config (published.take (current + 1)) <+: fileImage config published := by
    have rest : fileImage config (published.take (current + 1)) <+:
        fileImage config (published.take (current + 1) ++ published.drop (current + 1)) :=
      fileImage_prefix
    rwa [List.take_append_drop] at rest
  have file := stores.whole running
  rw [stores.configured, sequence] at wrote
  cases answered : adapter.appendRecord record.sequence record.payload with
  | mk ok adapter' =>
    rw [append_eq stores.held stores.isOpen running answered]
    rw [sequence] at answered
    rw [answered] at wrote
    have within : adapter'.file.bytes <+: fileImage config published := by
      obtain ⟨written, early, content, -⟩ := wrote.content
      rw [content, file]
      refine List.IsPrefix.trans ?_ ahead
      rw [next]
      exact (List.prefix_append_right_inj _).mpr early
    have kept : (fileImage config (published.take durable)).length ≤ adapter'.synced := by
      rw [wrote.covered]
      exact stores.covered
    have inside : adapter'.synced ≤ adapter'.file.bytes.length := by
      rw [wrote.covered]
      exact Nat.le_trans stores.inside wrote.ahead.length_le
    cases ok with
    | false =>
      exact ⟨adapter', wrote.toGrows, rfl, rfl, wrote.isOpen.trans stores.isOpen,
        wrote.config.trans stores.configured, within, kept, inside, nofun⟩
    | true =>
      refine ⟨adapter', wrote.toGrows, rfl, rfl, wrote.isOpen.trans stores.isOpen,
        wrote.config.trans stores.configured, within, kept, inside, fun _ => ?_⟩
      rw [wrote.file, file, if_pos rfl, next]

/-- A sync that succeeds makes everything durable that was appended. -/
theorem Stores.sync (stores : Stores config published durable current adapter module)
    (running : module.failed = false) :
    ∃ adapter', Grows adapter adapter' ∧ module.sync.2.failed = !module.sync.1 ∧
      Stores config published (if module.sync.1 then current else durable) current adapter'
        module.sync.2 := by
  have synced := sync_synced stores.inside
  have file := stores.whole running
  cases answered : adapter.sync with
  | mk ok adapter' =>
    rw [sync_eq stores.held stores.isOpen running answered]
    rw [answered] at synced
    have within : adapter'.file.bytes <+: fileImage config published := by
      rw [synced.file]
      exact stores.within
    have covered := synced.covered
    cases ok with
    | false =>
      refine ⟨adapter', synced.toGrows, rfl, rfl, synced.isOpen.trans stores.isOpen,
        synced.config.trans stores.configured, within, ?_, ?_, nofun⟩
      · rw [covered]
        exact stores.covered
      · rw [covered, synced.file]
        exact stores.inside
    | true =>
      refine ⟨adapter', synced.toGrows, rfl, rfl, synced.isOpen.trans stores.isOpen,
        synced.config.trans stores.configured, within, ?_, ?_, fun _ => ?_⟩
      · rw [covered, if_pos rfl, if_pos rfl, file]
      · rw [covered, if_pos rfl, synced.file]
      · rw [synced.file, file]

/-- A module that has been opened has stored the empty string. -/
theorem open_stores {physical : PhysicalWalConfig} {allocated : Bool} {device : δ}
    (opened : (module.open_ physical allocated device).1 = .ok) :
    (module.open_ physical allocated device).2.failed = false ∧
      ∃ adapter, Stores (adapterConfig physical) [] 0 0 adapter
        (module.open_ physical allocated device).2 := by
  unfold open_ at opened ⊢
  split_ifs at opened ⊢ with _ _ unallocated
  cases answered : create (adapterConfig physical) { device } with
  | mk status adapter =>
    rw [answered] at opened
    have created := @create_created δ { device } (adapterConfig physical) _
    rw [answered] at created
    cases status with
    | ok => exact ⟨rfl, adapter, stores_created (created rfl) rfl⟩
    | _ => cases opened

/-- A module opens if its file can be created. -/
theorem open_created {physical : PhysicalWalConfig} {device : δ} (closed : module.isOpen = false)
    (valid : validConfig (adapterConfig physical) = true)
    (created : (create (adapterConfig physical) { device }).1 = .ok) :
    (module.open_ physical true device).1 = .ok := by
  unfold open_
  rw [if_neg (by simp [closed]), if_neg (by simp [valid]), if_neg (by decide)]
  revert created
  cases create (adapterConfig physical) { device } with
  | mk status adapter =>
    intro created
    obtain rfl : status = .ok := created
    rfl

end PersistenceModule

end Fexma.Wal
