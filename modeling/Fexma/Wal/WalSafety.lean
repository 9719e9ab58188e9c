import Fexma.Wal.Facade

/-! Safety of the composition under any interleaving of its calls: the frontiers stay in order,
what is consumed is what was published, and what is durable has been appended and synced. -/
namespace Fexma.Wal

open PhysicalWalAdapter PersistenceModule

/-! ### The persistence stage -/

section Stage
variable {δ : Type} {config : WalConfig} {published : List (List UInt8)}
variable {view : Position → AccessResult} {upstream : Position}
variable {adapter : PhysicalWalAdapter δ}

abbrev PersistenceSlider (δ : Type) :=
  Slider (PersistenceModule δ) BoundedRangeAcquire PersistenceBatchPublish

variable {slider : PersistenceSlider δ}

/-- A slider whose module has not failed has published all that it has appended. -/
structure Settled (config : WalConfig) (published : List (List UInt8))
    (adapter : PhysicalWalAdapter δ) (slider : PersistenceSlider δ) : Prop where
  own : slider.own = slider.current
  running : slider.module.failed = false
  stores : slider.module.Stores config published slider.current.toNat slider.current.toNat adapter

/-- In a batch: the records up to the current position are appended, and none of the batch is
published. -/
structure InBatch (config : WalConfig) (published : List (List UInt8)) (durable : Position)
    (adapter : PhysicalWalAdapter δ) (slider : PersistenceSlider δ) : Prop where
  kept : slider.own = durable
  running : slider.module.failed = false
  ahead : durable ≤ slider.current
  stores : ∃ adapter', Grows adapter adapter' ∧
    slider.module.Stores config published durable.toNat slider.current.toNat adapter'

/-- Behind a failure: nothing of the batch is published. -/
structure Latched (config : WalConfig) (published : List (List UInt8)) (durable : Position)
    (adapter : PhysicalWalAdapter δ) (slider : PersistenceSlider δ) : Prop where
  kept : slider.own = durable
  failed : slider.module.failed = true
  inside : slider.current.toNat ≤ published.length
  stores : ∃ adapter', Grows adapter adapter' ∧
    slider.module.Stores config published durable.toNat slider.current.toNat adapter'

variable [Device δ]

theorem settleProcess_batch : slider.settleProcess = (true, slider) := rfl

/-- The next record of the batch. -/
theorem InBatch.process {durable : Position} (batch : InBatch config published durable adapter slider)
    (shows_records : Shows view (stringRecords config.firstSequence published) durable.toNat)
    (below : slider.current.toNat < published.length) :
    (view slider.current).status = .ok ∧ ∃ adapter', Grows adapter adapter' ∧
      (slider.module.append (view slider.current).record).2.failed =
        !(slider.module.append (view slider.current).record).1 ∧
      Stores config published durable.toNat
        (if (slider.module.append (view slider.current).record).1 then slider.current.toNat + 1
          else slider.current.toNat) adapter'
        (slider.module.append (view slider.current).record).2 := by
  obtain ⟨middle, grows, stores⟩ := batch.stores
  have here : (stringRecords config.firstSequence published)[slider.current.toNat]? =
      some ⟨.ofNat slider.current.toNat, config.firstSequence + .ofNat slider.current.toNat,
        published[slider.current.toNat]⟩ := by
    rw [stringRecords, List.getElem?_mapIdx, List.getElem?_eq_getElem below]
    rfl
  have seen := shows_records slider.current (UInt64.le_iff_toNat_le.mp batch.ahead) _ here
  have payload : published[slider.current.toNat]? = some (view slider.current).record.payload := by
    rw [seen, List.getElem?_eq_getElem below]
  have sequence : (view slider.current).record.sequence =
      config.firstSequence + .ofNat slider.current.toNat := by
    rw [seen]
  obtain ⟨adapter', grows', failed, stores'⟩ := stores.append batch.running payload sequence
  exact ⟨congrArg AccessResult.status seen, adapter', grows.trans grows', failed, stores'⟩

/-- The rule of a batch. -/
theorem batch_turns {durable : Position}
    (shows_records : Shows view (stringRecords config.firstSequence published) durable.toNat)
    (inside : upstream.toNat ≤ published.length) :
    Slider.Turns view upstream (InBatch config published durable adapter)
      (Latched config published durable adapter) := by
  have below {next : PersistenceSlider δ} (behind : next.current < upstream) :
      next.current.toNat < published.length :=
    Nat.lt_of_lt_of_le (UInt64.lt_iff_toNat_lt.mp behind) inside
  constructor
  case seen => exact fun next batch behind => (batch.process shows_records (below behind)).1
  case refused =>
    intro next batch behind refused
    obtain ⟨-, adapter', grows, failed, stores⟩ := batch.process shows_records (below behind)
    change (next.module.append (view next.current).record).1 = false at refused
    rw [refused] at failed stores
    exact ⟨batch.kept, failed, Nat.le_of_lt (below behind), adapter', grows, stores⟩
  case turned =>
    intro next batch behind accepted _
    obtain ⟨-, adapter', grows, failed, stores⟩ := batch.process shows_records (below behind)
    change (next.module.append (view next.current).record).1 = true at accepted
    rw [accepted] at failed stores
    have forward := toNat_onward (UInt64.lt_iff_toNat_lt.mp behind) upstream.toNat_lt
    rw [settleProcess_batch]
    refine ⟨batch.kept, failed, ?_, adapter', grows, ?_⟩
    · change durable ≤ next.current + 1
      rw [UInt64.le_iff_toNat_le, forward]
      exact Nat.le_succ_of_le (UInt64.le_iff_toNat_le.mp batch.ahead)
    · change Stores config published durable.toNat (next.current + 1).toNat adapter' _
      rw [forward]
      exact stores
  case stopped =>
    intro next batch behind _ unsettled
    rw [settleProcess_batch] at unsettled
    cases unsettled

/-- Behind a batch that could be synced the durable progress moves. -/
theorem settleRange_synced {first : Position} (apart : first ≠ slider.current)
    (behind : slider.own ≤ slider.current) (done : slider.module.sync.1 = true) :
    slider.settleRange first =
      (true, { slider with module := slider.module.sync.2, own := slider.current }) := by
  unfold Slider.settleRange
  simp only [SliderPublishPolicy.afterRange, SyncModule.sync, if_neg apart, done, if_true,
    Slider.applyPublishDecision, Slider.publish, reduceCtorEq, if_false,
    if_neg (UInt64.not_lt.mpr behind)]

private theorem settleRange_unsynced {first : Position} (apart : first ≠ slider.current)
    (undone : slider.module.sync.1 = false) :
    slider.settleRange first = (false, { slider with module := slider.module.sync.2 }) := by
  unfold Slider.settleRange
  simp only [SliderPublishPolicy.afterRange, SyncModule.sync, if_neg apart, undone, if_true,
    Slider.applyPublishDecision, Bool.false_eq_true, if_false]

/-- A sync behind a batch, which is durable if the sync succeeds. -/
private theorem InBatch.settled {durable : Position} {next : PersistenceSlider δ}
    (batch : InBatch config published durable adapter next) (forward : durable < next.current)
    (inside : next.current.toNat ≤ published.length) :
    ((next.settleRange durable).1 = true → (next.settleRange durable).2.current = next.current ∧
      ∃ adapter', Grows adapter adapter' ∧
        Settled config published adapter' (next.settleRange durable).2) ∧
    ((next.settleRange durable).1 = false →
      Latched config published durable adapter (next.settleRange durable).2) := by
  obtain ⟨middle, grows, stores⟩ := batch.stores
  obtain ⟨adapter', grows', failed, stores'⟩ := stores.sync batch.running
  have apart : durable ≠ next.current := fun same => UInt64.lt_irrefl _ (same ▸ forward)
  cases done : next.module.sync.1 with
  | true =>
    rw [done] at failed stores'
    rw [settleRange_synced apart (batch.kept ▸ batch.ahead) done]
    exact ⟨fun _ => ⟨rfl, adapter', grows.trans grows', rfl, failed, stores'⟩, nofun⟩
  | false =>
    rw [done] at failed stores'
    rw [settleRange_unsynced apart done]
    exact ⟨nofun, fun _ => ⟨batch.kept, failed, inside, adapter', grows.trans grows', stores'⟩⟩

/-- What a call comes to that goes well: a batch within the bound has become durable. -/
structure Advanced (config : WalConfig) (published : List (List UInt8)) (upstream : Position)
    (adapter : PhysicalWalAdapter δ) (slider : PersistenceSlider δ)
    (answer : SliderResult × PersistenceSlider δ) : Prop where
  ok : answer.1.ok = true
  settled : ∃ adapter', Grows adapter adapter' ∧ Settled config published adapter' answer.2
  count : answer.2.current.toNat = slider.current.toNat + answer.1.processedCount.toNat
  within : answer.2.current ≤ upstream
  bounded : answer.1.processedCount.toNat ≤ slider.acquirePolicy.maximumCount.toNat

theorem Settled.processAvailable (settled : Settled config published adapter slider)
    (shows_records : Shows view (stringRecords config.firstSequence published) slider.current.toNat)
    (behind : slider.current ≤ upstream) (inside : upstream.toNat ≤ published.length) :
    Advanced config published upstream adapter slider (slider.processAvailable view upstream) ∨
      (slider.processAvailable view upstream).1.ok = false ∧
        Latched config published slider.own adapter (slider.processAvailable view upstream).2 := by
  have start : InBatch config published slider.current adapter slider :=
    ⟨settled.own, settled.running, UInt64.le_refl _, adapter, .refl adapter, settled.stores⟩
  have passes : Slider.Passes slider (InBatch config published slider.current adapter)
      (Latched config published slider.current adapter)
      (fun next => (∃ adapter', Grows adapter adapter' ∧ Settled config published adapter' next) ∧
        next.current = (SliderAcquirePolicy.acquire slider.acquirePolicy slider.current
          upstream).endPosition)
      (slider.processAvailable view upstream) := by
    refine (batch_turns shows_records inside).passes (fun _ => start) behind ?_ ?_
    · intro next batch forward ended done
      have within := ended ▸ LawfulAcquire.within slider.acquirePolicy behind
      obtain ⟨current, stands⟩ := (batch.settled forward
        (Nat.le_trans (UInt64.le_iff_toNat_le.mp within) inside)).1 done
      exact ⟨stands, current.trans ended⟩
    · intro next batch forward below undone
      exact (batch.settled forward
        (Nat.le_trans (UInt64.le_iff_toNat_le.mp below) inside)).2 undone
  have within := LawfulAcquire.within slider.acquirePolicy behind
  have bounded := slider.acquirePolicy.end_toNat behind
  rw [settled.own]
  generalize slider.processAvailable view upstream = answer at passes
  cases passes with
  | mismatch apart => exact absurd settled.own apart
  | empty =>
    exact .inl ⟨rfl, ⟨adapter, .refl adapter, settled⟩, rfl, behind, Nat.zero_le _⟩
  | @processed count next reached advance some_records =>
    obtain ⟨stands, ended⟩ := reached
    refine .inl ⟨rfl, stands, advance, ended ▸ within, ?_⟩
    rw [← ended, advance] at bounded
    change count.toNat ≤ slider.acquirePolicy.maximumCount.toNat
    omega
  | stopped failed stops current =>
    refine .inr ⟨?_, failed⟩
    rcases stops with status | status
    · rw [SliderResult.ok, status]
      rfl
    · rw [SliderResult.ok, status]
      rfl

/-- What the stage has reached between two calls. -/
structure Stands (config : WalConfig) (published : List (List UInt8))
    (adapter : PhysicalWalAdapter δ) (slider : PersistenceSlider δ) : Prop where
  stores : slider.module.Stores config published slider.own.toNat slider.current.toNat adapter
  inside : slider.current.toNat ≤ published.length
  running : slider.module.failed = false → slider.own = slider.current

/-- A call moves the durable progress by what it reports, or keeps it and has failed. -/
theorem Stands.processAvailable (stands : Stands config published adapter slider)
    (running : slider.module.failed = false)
    (shows_records : Shows view (stringRecords config.firstSequence published) slider.own.toNat)
    (behind : slider.own ≤ upstream) (inside : upstream.toNat ≤ published.length) :
    ∃ adapter', Grows adapter adapter' ∧
      Stands config published adapter' (slider.processAvailable view upstream).2 ∧
      ((slider.processAvailable view upstream).1.ok = true ∧
          (slider.processAvailable view upstream).2.module.failed = false ∧
          (slider.processAvailable view upstream).2.own ≤ upstream ∧
          (slider.processAvailable view upstream).1.processedCount.toNat ≤
            slider.acquirePolicy.maximumCount.toNat ∧
          (slider.processAvailable view upstream).2.own.toNat = slider.own.toNat +
            (slider.processAvailable view upstream).1.processedCount.toNat ∨
        (slider.processAvailable view upstream).1.ok = false ∧
          (slider.processAvailable view upstream).2.module.failed = true ∧
          (slider.processAvailable view upstream).2.own = slider.own) := by
  have own := stands.running running
  have stores := stands.stores
  rw [own] at stores shows_records behind
  have settled : Settled config published adapter slider := ⟨own, running, stores⟩
  rcases settled.processAvailable shows_records behind inside with advanced | ⟨failed, latched⟩
  · obtain ⟨adapter', grows, settled'⟩ := advanced.settled
    have within := advanced.within
    refine ⟨adapter', grows, ⟨?_, ?_, fun _ => settled'.own⟩, .inl ⟨advanced.ok, settled'.running,
      settled'.own ▸ within, advanced.bounded, ?_⟩⟩
    · rw [settled'.own]
      exact settled'.stores
    · exact Nat.le_trans (UInt64.le_iff_toNat_le.mp within) inside
    · rw [settled'.own, own]
      exact advanced.count
  · obtain ⟨adapter', grows, stores'⟩ := latched.stores
    refine ⟨adapter', grows, ⟨?_, latched.inside, ?_⟩, .inr ⟨failed, latched.failed, latched.kept⟩⟩
    · rw [latched.kept]
      exact stores'
    · intro running'
      rw [latched.failed] at running'
      cases running'

end Stage

namespace WalFacade

variable {δ : Type} {config : WalConfig} {string : List (List UInt8)}
variable {delivered : List (UInt64 × List UInt8)} {log more : List (Call × Answer)}
variable {wal start : WalFacade δ}

theorem published_append : published (log ++ more) = published log ++ published more :=
  List.filterMap_append

theorem consumed_append : consumed (log ++ more) = consumed log ++ consumed more :=
  List.filterMap_append

/-- The configuration of the adapter; a log does not depend on the capacity. -/
def stored (config : WalConfig) : WalConfig := { config with capacity := 1 }

theorem fileImage_stored : fileImage (stored config) string = fileImage config string := by
  have frames (sequence : UInt64) :
      recordFrames (stored config) sequence string = recordFrames config sequence string := by
    induction string generalizing sequence with
    | nil => rfl
    | cons payload string ih =>
      rw [recordFrames, ih, recordFrames]
      rfl
  rw [fileImage, frames, fileImage]
  rfl

/-- The records of a run as they were delivered. -/
def deliveries (config : WalConfig) (string : List (List UInt8)) : List (UInt64 × List UInt8) :=
  (stringRecords config.firstSequence string).map fun record => (record.sequence, record.payload)

/-- What a run has led to: `string` has been published, and `delivered` has been consumed. -/
structure Sound (config : WalConfig) (string : List (List UInt8))
    (delivered : List (UInt64 × List UInt8)) (wal : WalFacade δ) : Prop where
  holds : wal.core.Holds string
  runtime : wal.core.config = runtimeConfig config
  configured : wal.config = config
  reached : wal.core.tail ≤ wal.durable
  within : wal.durable ≤ wal.core.head
  taken : delivered = (deliveries config string).take wal.core.tail.toNat
  standing : wal.isOpen = true → wal.core.isOpen = true ∧
    ∃ adapter, Stands (stored config) string adapter wal.persistenceSlider

theorem length_deliveries : (deliveries config string).length = string.length := by
  rw [deliveries, List.length_map, length_stringRecords]

theorem getElem?_deliveries {n : ℕ} : (deliveries config string)[n]? =
    string[n]?.map fun payload => (config.firstSequence + .ofNat n, payload) := by
  rw [deliveries, stringRecords, List.getElem?_map, List.getElem?_mapIdx, Option.map_map]
  rfl

theorem deliveries_ahead {payload : List UInt8} :
    deliveries config string <+: deliveries config (string ++ [payload]) := by
  rw [deliveries, deliveries, stringRecords, stringRecords, List.mapIdx_append, List.map_append]
  exact List.prefix_append _ _

theorem Sound.durable_length (sound : Sound config string delivered wal) :
    wal.durable.toNat ≤ string.length := by
  rw [← sound.holds.head]
  exact UInt64.le_iff_toNat_le.mp sound.within

/-- What has been published can be logged. -/
theorem Sound.loggable (sound : Sound config string delivered wal) : Loggable config string := by
  have sizes := sound.holds.sizes
  have sequences := sound.holds.sequences
  rw [sound.runtime] at sizes sequences
  exact ⟨sizes, sequences⟩

/-! ### What a call can do -/

/-- A publication is refused, or the core takes the payload. -/
theorem tryPublish_cases (wal : WalFacade δ) (payload : List UInt8) :
    (∃ status exhausted, status ≠ .ok ∧ wal.tryPublish payload =
      ({ status }, { wal with core := { wal.core with sequenceExhausted := exhausted } })) ∨
    (wal.persistence.failed = false ∧ payload.length = wal.core.config.payloadSize.toNat ∧
      wal.core.head - wal.core.tail ≠ wal.core.config.capacity.toUInt64 ∧
      ¬ wal.core.head > maxUInt64 - wal.core.config.firstSequence ∧
      wal.tryPublish payload =
        ({ status := .ok, sequence := wal.core.config.firstSequence + wal.core.head },
          { wal with core := wal.core.push payload })) := by
  unfold tryPublish
  split_ifs with closed size exhausted failed
  · exact .inl ⟨.closed, _, by simp, rfl⟩
  · exact .inl ⟨.invalidPayloadSize, _, by simp, rfl⟩
  · exact .inl ⟨.sequenceExhausted, _, by simp, rfl⟩
  · exact .inl ⟨.ioError, _, by simp, rfl⟩
  rcases wal.core.tryPublish_cases payload with
    ⟨status, exhausted, refused, answer⟩ | ⟨-, size, room, more, answer⟩
  · exact .inl ⟨status, exhausted, refused, by rw [answer]⟩
  · exact .inr ⟨by simpa using failed, size, room, more, by rw [answer]⟩

/-- A consumption is refused, or it delivers the record at the tail, which is durable. -/
theorem Sound.tryConsume_cases (sound : Sound config string delivered wal) (buffer : List UInt8) :
    (∃ status, status ≠ .ok ∧ wal.tryConsume buffer = ({ status }, buffer, wal) ∧
      (wal.isOpen = true → buffer.length = config.payloadSize.toNat →
        wal.core.tail = wal.durable)) ∨
    (wal.isOpen = true ∧ wal.core.tail < wal.durable ∧ ∃ payload,
      string[wal.core.tail.toNat]? = some payload ∧ wal.tryConsume buffer =
        ({ status := .ok, sequence := config.firstSequence + wal.core.tail }, payload,
          { wal with core := { wal.core with tail := wal.core.tail + 1 } })) := by
  unfold tryConsume
  split_ifs with closed size empty
  · exact .inl ⟨.closed, by simp, rfl, fun opened => by simp [opened] at closed⟩
  · exact .inl ⟨.invalidPayloadSize, by simp, rfl, fun _ same =>
      absurd (sound.configured ▸ same) size⟩
  · exact .inl ⟨.empty, by simp, rfl, fun _ _ => empty⟩
  · have opened : wal.isOpen = true := by simpa using closed
    have behind : wal.core.tail < wal.durable := UInt64.lt_of_le_of_ne sound.reached empty
    have below : wal.core.tail.toNat < string.length :=
      Nat.lt_of_lt_of_le (UInt64.lt_iff_toNat_lt.mp behind) sound.durable_length
    have here := List.getElem?_eq_getElem below
    have view := sound.holds.tryView_live (sound.standing opened).1 (Nat.le_refl _) here
    have forward := toNat_onward (UInt64.lt_iff_toNat_lt.mp behind) wal.durable.toNat_lt
    have whole : buffer.length = string[wal.core.tail.toNat].length := by
      rw [sound.holds.sizes _ (List.getElem_mem below), sound.runtime, not_not.mp size,
        sound.configured]
      rfl
    have reclaimed := sound.holds.reclaimTail (sound.standing opened).1 below
    have first : wal.core.config.firstSequence = config.firstSequence := by
      rw [sound.runtime]
      rfl
    refine .inr ⟨opened, behind, _, here, ?_⟩
    rw [view, reclaimed.1, whole]
    dsimp only
    rw [if_neg (not_not.mpr rfl), List.take_length, first]

/-- An advance is refused, it makes a batch durable, or it fails for good. -/
inductive Advances [Device δ] (config : WalConfig) (string : List (List UInt8)) (wal : WalFacade δ) :
    DurabilityResult × WalFacade δ → Prop
  | closed (closed : wal.isOpen = false) :
    Advances config string wal ({ status := .closed, durableFrontier := wal.durable }, wal)
  | latched (opened : wal.isOpen = true) (failed : wal.persistence.failed = true) :
    Advances config string wal ({ status := .ioError, durableFrontier := wal.durable }, wal)
  | moved {adapter adapter' : PhysicalWalAdapter δ} {slider : PersistenceSlider δ} {records : UInt32}
    (opened : wal.isOpen = true) (running : wal.persistence.failed = false)
    (before : Stands (stored config) string adapter wal.persistenceSlider)
    (grows : Grows adapter adapter') (after : Stands (stored config) string adapter' slider)
    (still_running : slider.module.failed = false) (within : slider.own ≤ wal.core.head)
    (forward : slider.own.toNat = wal.durable.toNat + records.toNat) :
    Advances config string wal ({ status := .ok, durableFrontier := slider.own, records },
      { wal with persistenceSlider := slider })
  | broke {adapter adapter' : PhysicalWalAdapter δ} {slider : PersistenceSlider δ}
    (opened : wal.isOpen = true) (running : wal.persistence.failed = false)
    (before : Stands (stored config) string adapter wal.persistenceSlider)
    (grows : Grows adapter adapter') (after : Stands (stored config) string adapter' slider)
    (failed : slider.module.failed = true) (kept : slider.own = wal.durable) :
    Advances config string wal ({ status := .ioError, durableFrontier := wal.durable },
      { wal with persistenceSlider := slider })

variable [Device δ]

theorem Sound.advanceDurable (sound : Sound config string delivered wal) (batchSize : UInt32) :
    Advances config string wal (wal.advanceDurable batchSize) := by
  unfold WalFacade.advanceDurable
  split_ifs with closed failed
  · exact .closed (by simpa using closed)
  · exact .latched (by simpa using closed) failed
  have opened : wal.isOpen = true := by simpa using closed
  have running : wal.persistence.failed = false := by simpa using failed
  obtain ⟨core_opened, adapter, stands⟩ := sound.standing opened
  have shows_records : Shows wal.core.tryView
      (stringRecords (stored config).firstSequence string) wal.durable.toNat := by
    have live := sound.holds.shows core_opened
    rw [sound.runtime] at live
    exact fun position above => live position
      (Nat.le_trans (UInt64.le_iff_toNat_le.mp sound.reached) above)
  have before : Stands (stored config) string adapter (wal.setMaximumCount batchSize) :=
    ⟨stands.stores, stands.inside, stands.running⟩
  obtain ⟨adapter', grows, after, answered⟩ := before.processAvailable running shows_records
    sound.within (Nat.le_of_eq sound.holds.head)
  dsimp only
  revert after answered
  generalize (wal.setMaximumCount batchSize).processAvailable wal.core.tryView wal.core.head = answer
  intro after answered
  rcases answered with ⟨ok, still_running, within, bounded, forward⟩ | ⟨refused, failed, kept⟩
  · have whole : answer.1.processedCount.toUInt32.toNat = answer.1.processedCount.toNat := by
      have wide := batchSize.toNat_lt
      change _ ≤ batchSize.toUInt64.toNat at bounded
      rw [UInt32.toNat_toUInt64] at bounded
      rw [UInt64.toNat_toUInt32]
      exact Nat.mod_eq_of_lt (Nat.lt_of_le_of_lt bounded wide)
    rw [← whole] at forward
    rw [if_neg (by simp [ok])]
    exact .moved opened running stands grows after still_running within forward
  · rw [if_pos (by simp [refused])]
    exact .broke opened running stands grows after failed kept

/-- Resources are released only where nothing is pending. -/
theorem close_cases (wal : WalFacade δ) :
    ((wal.close.1.status = .alreadyClosed ∨ wal.close.1.status = .pendingConsumption ∨
        wal.close.1.status = .pendingDurability) ∧ wal.close.2 = wal) ∨
    (wal.isOpen = true ∧ wal.core.tail = wal.durable ∧
      (wal.persistence.failed = false → wal.durable = wal.core.head) ∧
      wal.close.2 = { wal with
        isOpen := false
        persistenceSlider := { wal.persistenceSlider with module := wal.persistence.close.2 }
        core := wal.core.close }) := by
  unfold close
  split_ifs with closed consumption durability
  · exact .inl ⟨.inl rfl, rfl⟩
  · exact .inl ⟨.inr (.inl rfl), rfl⟩
  · exact .inl ⟨.inr (.inr rfl), rfl⟩
  all_goals
    refine .inr ⟨by simpa using closed, not_not.mp consumption, fun running => ?_, ?_⟩
    · simpa [running] using durability
  all_goals
    dsimp only
    split_ifs <;> rfl

/-! ### What a call preserves -/

omit [Device δ] in
theorem Sound.exhausted (sound : Sound config string delivered wal) (exhausted : Bool) :
    Sound config string delivered
      { wal with core := { wal.core with sequenceExhausted := exhausted } } :=
  ⟨sound.holds.exhausted exhausted, sound.runtime, sound.configured, sound.reached, sound.within,
    sound.taken, sound.standing⟩

omit [Device δ] in
/-- What is published lies above the durable records. -/
theorem Sound.push (sound : Sound config string delivered wal) {payload : List UInt8}
    (size : payload.length = wal.core.config.payloadSize.toNat)
    (room : wal.core.head - wal.core.tail ≠ wal.core.config.capacity.toUInt64)
    (more : ¬ wal.core.head > maxUInt64 - wal.core.config.firstSequence) :
    Sound config (string ++ [payload]) delivered { wal with core := wal.core.push payload } := by
  have holds := sound.holds.push size room more
  have durable := sound.durable_length
  constructor
  case holds => exact holds
  case runtime => exact sound.runtime
  case configured => exact sound.configured
  case reached => exact sound.reached
  case within =>
    apply UInt64.le_iff_toNat_le.mpr
    change wal.durable.toNat ≤ (wal.core.push payload).head.toNat
    rw [holds.head, List.length_append]
    exact Nat.le_add_right_of_le durable
  case taken =>
    have live : wal.core.tail.toNat ≤ (deliveries config string).length := by
      rw [length_deliveries]
      exact sound.holds.ordered
    obtain ⟨rest, behind⟩ := @deliveries_ahead config string payload
    rw [← behind]
    change delivered = (deliveries config string ++ rest).take wal.core.tail.toNat
    rw [List.take_append_of_le_length live]
    exact sound.taken
  case standing =>
    intro opened
    obtain ⟨core_opened, adapter, stands⟩ := sound.standing opened
    refine ⟨core_opened, adapter, stands.stores.publish durable stands.inside, ?_, stands.running⟩
    rw [List.length_append]
    exact Nat.le_add_right_of_le stands.inside

omit [Device δ] in
theorem Sound.take (sound : Sound config string delivered wal) (opened : wal.isOpen = true)
    (behind : wal.core.tail < wal.durable) {payload : List UInt8}
    (here : string[wal.core.tail.toNat]? = some payload) :
    Sound config string (delivered ++ [(config.firstSequence + wal.core.tail, payload)])
      { wal with core := { wal.core with tail := wal.core.tail + 1 } } := by
  have below := (List.getElem?_eq_some_iff.mp here).1
  have forward : (wal.core.tail + 1).toNat = wal.core.tail.toNat + 1 :=
    toNat_onward (UInt64.lt_iff_toNat_lt.mp behind) wal.durable.toNat_lt
  constructor
  case holds => exact (sound.holds.reclaimTail (sound.standing opened).1 below).2
  case runtime => exact sound.runtime
  case configured => exact sound.configured
  case reached =>
    change wal.core.tail + 1 ≤ wal.durable
    rw [UInt64.le_iff_toNat_le, forward]
    exact UInt64.lt_iff_toNat_lt.mp behind
  case within => exact sound.within
  case taken =>
    change _ = (deliveries config string).take (wal.core.tail + 1).toNat
    rw [forward, List.take_add_one, ← sound.taken, getElem?_deliveries, here, UInt64.ofNat_toNat]
    rfl
  case standing => exact sound.standing

theorem Sound.advance (sound : Sound config string delivered wal)
    {answer : DurabilityResult × WalFacade δ} (advances : Advances config string wal answer) :
    Sound config string delivered answer.2 := by
  cases advances with
  | closed => exact sound
  | latched => exact sound
  | moved opened running before grows after still_running within forward =>
    refine { sound with
      reached := ?_, within := within
      standing := fun _ => ⟨(sound.standing opened).1, _, after⟩ }
    rw [UInt64.le_iff_toNat_le]
    change wal.core.tail.toNat ≤ _
    have reached := UInt64.le_iff_toNat_le.mp sound.reached
    change _ ≤ UInt64.toNat (WalFacade.durable _)
    rw [WalFacade.durable, forward]
    exact Nat.le_add_right_of_le reached
  | broke opened running before grows after failed kept =>
    refine { sound with
      reached := ?_, within := ?_
      standing := fun _ => ⟨(sound.standing opened).1, _, after⟩ }
    · exact kept.symm ▸ sound.reached
    · exact kept.symm ▸ sound.within

theorem Sound.close (sound : Sound config string delivered wal) :
    Sound config string delivered wal.close.2 := by
  rcases wal.close_cases with ⟨-, same⟩ | ⟨-, -, -, released⟩
  · rw [same]
    exact sound
  · rw [released]
    exact ⟨sound.holds.close, sound.runtime, sound.configured, sound.reached, sound.within,
      sound.taken, fun opened => by cases opened⟩

/-- A call of any kind. -/
theorem Sound.perform (sound : Sound config string delivered wal) (call : Call) :
    Sound config (string ++ published [(call, (wal.perform call).1)])
      (delivered ++ consumed [(call, (wal.perform call).1)]) (wal.perform call).2 := by
  cases call with
  | tryPublish payload =>
    have none : consumed [(Call.tryPublish payload, (wal.perform (.tryPublish payload)).1)] = [] := rfl
    rw [none, List.append_nil]
    rcases wal.tryPublish_cases payload with
      ⟨status, exhausted, refused, answer⟩ | ⟨running, size, room, more, answer⟩
    · simp only [WalFacade.perform, answer, published, List.filterMap_cons, if_neg refused,
        List.filterMap_nil, List.append_nil]
      exact sound.exhausted exhausted
    · simp only [WalFacade.perform, answer, published, List.filterMap_cons, if_true,
        List.filterMap_nil]
      exact sound.push size room more
  | advanceDurable batchSize =>
    change Sound config (string ++ []) (delivered ++ []) _
    rw [List.append_nil, List.append_nil]
    exact sound.advance (sound.advanceDurable batchSize)
  | tryConsume buffer =>
    have none : published [(Call.tryConsume buffer, (wal.perform (.tryConsume buffer)).1)] = [] := rfl
    rw [none, List.append_nil]
    rcases sound.tryConsume_cases buffer with
      ⟨status, refused, answer, -⟩ | ⟨opened, behind, payload, here, answer⟩
    · simp only [WalFacade.perform, answer, consumed, List.filterMap_cons, if_neg refused,
        List.filterMap_nil, List.append_nil]
      exact sound
    · simp only [WalFacade.perform, answer, consumed, List.filterMap_cons, if_true,
        List.filterMap_nil]
      exact sound.take opened behind here
  | tryView position =>
    change Sound config (string ++ []) (delivered ++ []) wal
    rwa [List.append_nil, List.append_nil]
  | close =>
    change Sound config (string ++ []) (delivered ++ []) _
    rw [List.append_nil, List.append_nil]
    exact sound.close

/-- A log that has been opened is empty. -/
theorem open_sound {answers : OpenAnswers δ} (opened : (start.open_ config answers).1 = .ok) :
    Sound config [] [] (start.open_ config answers).2 ∧
      (start.open_ config answers).2.persistence.failed = false := by
  unfold open_ at opened ⊢
  split_ifs at opened ⊢ with _ invalid
  dsimp only at opened ⊢
  split_ifs at opened ⊢ with refused unopened
  · exact absurd opened refused
  · exact absurd opened unopened
  obtain ⟨holds, runtime, core_opened, tail, -⟩ := WalCore.open_cases (not_not.mp refused)
  obtain ⟨running, adapter, stores⟩ := open_stores (not_not.mp unopened)
  refine ⟨?_, running⟩
  constructor
  case holds => exact holds
  case runtime => exact runtime
  case configured => rfl
  case reached => exact UInt64.le_of_eq tail
  case within =>
    apply UInt64.le_iff_toNat_le.mpr
    exact Nat.zero_le _
  case taken => rw [deliveries, stringRecords, List.mapIdx_nil, List.map_nil, List.take_nil]
  case standing => exact fun _ => ⟨core_opened, adapter, stores, Nat.zero_le _, fun _ => rfl⟩

theorem open_valid {answers : OpenAnswers δ} (opened : (start.open_ config answers).1 = .ok) :
    Valid config ∧ (start.open_ config answers).2.isOpen = true := by
  unfold open_ at opened ⊢
  split_ifs at opened ⊢ with _ invalid
  dsimp only at opened ⊢
  split_ifs at opened ⊢ with refused unopened
  · exact absurd opened refused
  · exact absurd opened unopened
  · exact ⟨validConfig_iff.mp (by simpa using invalid), rfl⟩

/-- What a run has led to. -/
theorem Runs.sound (run : Runs start log wal) (sound : Sound config [] [] start) :
    Sound config (published log) (consumed log) wal := by
  induction run with
  | start => exact sound
  | step run call ih =>
    rw [published_append, consumed_append]
    exact ih.perform call

/-! ### Failures -/

/-- An append or a sync has failed within this call. -/
def Failure : Call × Answer → Prop
  | (.advanceDurable _, .advanced result) => result.status = .ioError
  | _ => False

omit [Device δ] in
theorem tryConsume_slider (buffer : List UInt8) :
    (wal.tryConsume buffer).2.2.persistenceSlider = wal.persistenceSlider := by
  unfold tryConsume
  split_ifs
  · rfl
  · rfl
  · rfl
  · dsimp only
    split_ifs
    · rfl
    · rfl

omit [Device δ] in
theorem tryPublish_slider (payload : List UInt8) :
    (wal.tryPublish payload).2.persistenceSlider = wal.persistenceSlider := by
  rcases wal.tryPublish_cases payload with ⟨_, _, _, answer⟩ | ⟨_, _, _, _, answer⟩
  · rw [answer]
  · rw [answer]

/-- Only an advance moves the durable frontier, and only an advance fails. -/
theorem perform_frame (call : Call) (other : ∀ batchSize, call ≠ .advanceDurable batchSize) :
    (wal.perform call).2.durable = wal.durable ∧
      (wal.perform call).2.persistence.failed = wal.persistence.failed ∧
      ¬ Failure (call, (wal.perform call).1) := by
  cases call with
  | tryPublish payload =>
    have same := @tryPublish_slider δ wal payload
    exact ⟨congrArg Slider.own same, congrArg (fun slider => slider.module.failed) same, nofun⟩
  | advanceDurable batchSize => exact absurd rfl (other batchSize)
  | tryConsume buffer =>
    have same := @tryConsume_slider δ wal buffer
    exact ⟨congrArg Slider.own same, congrArg (fun slider => slider.module.failed) same, nofun⟩
  | tryView position => exact ⟨rfl, rfl, nofun⟩
  | close =>
    have kept : wal.persistence.close.2.failed = wal.persistence.failed := by
      unfold PersistenceModule.close
      cases wal.persistence.physicalWal with
      | none => rfl
      | some adapter => rfl
    change wal.close.2.durable = _ ∧ wal.close.2.persistence.failed = _ ∧ _
    rcases wal.close_cases with ⟨-, same⟩ | ⟨-, -, -, released⟩
    · rw [same]
      exact ⟨rfl, rfl, nofun⟩
    · rw [released]
      exact ⟨rfl, kept, nofun⟩

/-- The module has failed once a call has met a failure. -/
theorem Sound.failed_iff (sound : Sound config string delivered wal) (call : Call) :
    (wal.perform call).2.persistence.failed = true ↔
      wal.persistence.failed = true ∨ Failure (call, (wal.perform call).1) := by
  by_cases advance : ∃ batchSize, call = .advanceDurable batchSize
  · obtain ⟨batchSize, rfl⟩ := advance
    have advances := sound.advanceDurable batchSize
    change (wal.advanceDurable batchSize).2.persistence.failed = true ↔
      wal.persistence.failed = true ∨ (wal.advanceDurable batchSize).1.status = .ioError
    revert advances
    generalize wal.advanceDurable batchSize = answer
    intro advances
    cases advances with
    | closed => simp
    | latched _ failed => simp [failed]
    | moved _ running _ _ _ still_running =>
      rw [running, persistence, still_running]
      simp
    | broke _ _ _ _ _ failed => simp [persistence, failed]
  · obtain ⟨-, kept, no_failure⟩ := @perform_frame δ wal _ call fun batchSize same =>
      advance ⟨batchSize, same⟩
    rw [kept]
    exact ⟨.inl, fun cause => cause.resolve_right no_failure⟩

theorem Runs.failed_iff (run : Runs start log wal) (sound : Sound config [] [] start)
    (running : start.persistence.failed = false) :
    wal.persistence.failed = true ↔ ∃ entry ∈ log, Failure entry := by
  induction run with
  | start => simp [running]
  | @step log wal run call ih =>
    rw [(run.sound sound).failed_iff call, ih]
    simp only [List.mem_append, List.mem_singleton, or_and_right, exists_or, exists_eq_left]

/-- Behind a failure no publication is accepted. -/
theorem published_none (failed : wal.persistence.failed = true) (call : Call) :
    published [(call, (wal.perform call).1)] = [] := by
  cases call with
  | tryPublish payload =>
    rcases wal.tryPublish_cases payload with ⟨status, exhausted, refused, answer⟩ | ⟨running, -⟩
    · simp only [WalFacade.perform, answer, published, List.filterMap_cons, if_neg refused,
        List.filterMap_nil]
    · rw [failed] at running
      cases running
  | _ => rfl

/-- Behind a failure nothing is published or made durable any more. -/
theorem Runs.latched (run : Runs start log wal) (failed : start.persistence.failed = true) :
    wal.persistence.failed = true ∧ wal.durable = start.durable ∧ published log = [] := by
  induction run with
  | start => exact ⟨failed, rfl, rfl⟩
  | @step log wal run call ih =>
    obtain ⟨failed, kept, none⟩ := ih
    rw [published_append, none, List.nil_append]
    by_cases advance : ∃ batchSize, call = .advanceDurable batchSize
    · obtain ⟨batchSize, rfl⟩ := advance
      have same : (wal.advanceDurable batchSize).2 = wal := by
        unfold WalFacade.advanceDurable
        split_ifs with closed
        · rfl
        · rfl
      exact ⟨same.symm ▸ failed, (congrArg durable same).trans kept, rfl⟩
    · obtain ⟨still, still_failed, -⟩ := @perform_frame δ wal _ call fun batchSize same =>
        advance ⟨batchSize, same⟩
      exact ⟨still_failed.trans failed, still.trans kept, published_none failed call⟩

/-! ### Safety -/

/-- What holds behind every run of calls. `published log` and `consumed log` are what the run
has published and consumed. -/
structure Safe (config : WalConfig) (log : List (Call × Answer)) (wal : WalFacade δ) : Prop where
  ordered : wal.core.tail ≤ wal.durable ∧ wal.durable ≤ wal.core.head ∧
    wal.core.head.toNat ≤ wal.core.tail.toNat + config.capacity.toNat
  counted : wal.core.head.toNat = (published log).length ∧
    wal.core.tail.toNat = (consumed log).length
  delivered : ∀ i sequence payload, (consumed log)[i]? = some (sequence, payload) →
    sequence.toNat = config.firstSequence.toNat + i ∧ (published log)[i]? = some payload ∧
      i < wal.durable.toNat
  covered : wal.isOpen = true → ∃ adapter, wal.persistence.physicalWal = some adapter ∧
    fileImage config ((published log).take wal.durable.toNat) <+: adapter.file.bytes ∧
    (fileImage config ((published log).take wal.durable.toNat)).length ≤ adapter.synced ∧
    adapter.synced ≤ adapter.file.bytes.length
  moved : ∀ call, (wal.perform call).2.durable ≠ wal.durable → ∃ batchSize, call = .advanceDurable batchSize
  advanced : ∀ batchSize,
    (wal.advanceDurable batchSize).2.durable.toNat =
      wal.durable.toNat + (wal.advanceDurable batchSize).1.records.toNat ∧
    (wal.advanceDurable batchSize).1.durableFrontier = (wal.advanceDurable batchSize).2.durable
  failed : wal.persistence.failed = true ↔ ∃ entry ∈ log, Failure entry
  latched : (∃ entry ∈ log, Failure entry) → ∀ later wal', Runs wal later wal' →
    wal'.durable = wal.durable ∧ published later = []
  consumable : wal.isOpen = true → wal.core.tail < wal.durable → ∀ buffer : List UInt8,
    buffer.length = config.payloadSize.toNat → ∃ payload,
      (published log)[wal.core.tail.toNat]? = some payload ∧
      (wal.tryConsume buffer).1.status = .ok ∧ (wal.tryConsume buffer).2.1 = payload
  released : wal.close.2 = wal ∨ wal.isOpen = true ∧ wal.core.tail = wal.durable ∧
    ((¬ ∃ entry ∈ log, Failure entry) → wal.durable = wal.core.head)

/-- Whatever the device answers, every interleaving of calls is safe. -/
theorem wal_safe (config : WalConfig) (start : WalFacade δ) (answers : OpenAnswers δ)
    (opened : (start.open_ config answers).1 = .ok)
    (run : Runs (start.open_ config answers).2 log wal) : Safe config log wal := by
  obtain ⟨started, running⟩ := open_sound opened
  have sound := run.sound started
  have failed_iff := run.failed_iff started running
  have taken := sound.taken
  have ordered := UInt64.le_iff_toNat_le.mp sound.reached
  have durable := sound.durable_length
  constructor
  case ordered =>
    refine ⟨sound.reached, sound.within, ?_⟩
    have window := sound.holds.window
    rw [sound.runtime] at window
    rw [sound.holds.head]
    exact window
  case counted =>
    refine ⟨sound.holds.head, ?_⟩
    rw [taken, List.length_take, length_deliveries, Nat.min_eq_left sound.holds.ordered]
  case delivered =>
    intro i sequence payload here
    rw [taken] at here
    have below : i < wal.core.tail.toNat := by
      have inside := (List.getElem?_eq_some_iff.mp here).1
      rw [List.length_take] at inside
      exact Nat.lt_of_lt_of_le inside (Nat.min_le_left _ _)
    rw [List.getElem?_take_of_lt below, getElem?_deliveries, Option.map_eq_some_iff] at here
    obtain ⟨found, here, same⟩ := here
    cases same
    have sequences := sound.loggable.sequences
    refine ⟨?_, here, Nat.lt_of_lt_of_le below ordered⟩
    have small : (UInt64.ofNat i).toNat = i := UInt64.toNat_ofNat_of_lt' (by
      change i < 2 ^ 64
      omega)
    rw [UInt64.toNat_add, small]
    have positive := sound.holds.first
    rw [sound.runtime] at positive
    exact Nat.mod_eq_of_lt (by omega)
  case covered =>
    intro opened
    obtain ⟨-, adapter, stands⟩ := sound.standing opened
    have covered := stands.stores.covered
    have whole : fileImage config ((published log).take wal.durable.toNat) <+:
        fileImage config ((published log).take wal.durable.toNat ++
          (published log).drop wal.durable.toNat) := fileImage_prefix
    rw [List.take_append_drop] at whole
    rw [fileImage_stored] at covered
    have within := stands.stores.within
    rw [fileImage_stored] at within
    exact ⟨adapter, stands.stores.held, List.prefix_of_prefix_length_le whole within
      (covered.trans stands.stores.inside), covered, stands.stores.inside⟩
  case moved =>
    intro call apart
    by_contra other
    exact apart (perform_frame call fun batchSize same => other ⟨batchSize, same⟩).1
  case advanced =>
    intro batchSize
    have advances := sound.advanceDurable batchSize
    revert advances
    generalize wal.advanceDurable batchSize = answer
    intro advances
    cases advances with
    | closed => exact ⟨rfl, rfl⟩
    | latched => exact ⟨rfl, rfl⟩
    | moved _ _ _ _ _ _ _ forward => exact ⟨forward, rfl⟩
    | broke _ _ _ _ _ _ kept => exact ⟨congrArg UInt64.toNat kept, kept.symm⟩
  case failed => exact failed_iff
  case latched =>
    intro failure later wal' more
    obtain ⟨-, kept, none⟩ := more.latched (failed_iff.mpr failure)
    exact ⟨kept, none⟩
  case consumable =>
    intro opened behind buffer size
    rcases sound.tryConsume_cases buffer with
      ⟨_, _, _, empty⟩ | ⟨-, -, payload, here, answer⟩
    · exact absurd (empty opened size) (UInt64.ne_of_lt behind)
    · exact ⟨payload, here, by rw [answer], by rw [answer]⟩
  case released =>
    rcases wal.close_cases with ⟨-, same⟩ | ⟨opened, tail, head, -⟩
    · exact .inl same
    · refine .inr ⟨opened, tail, fun none => head ?_⟩
      cases failed : wal.persistence.failed with
      | true => exact absurd (failed_iff.mp failed) none
      | false => rfl

/-- A log of single bytes opens on a device that serves every call. -/
theorem open_byteConfig : (({} : WalFacade ReliableDevice).open_ byteConfig
    { device := ReliableDevice.ready }).1 = .ok := by
  have valid : Valid (adapterConfig (physicalConfig byteConfig)) := validConfig_iff.mp (by decide)
  have sizes : ∀ payload ∈ ([] : List (List UInt8)),
      payload.length = (adapterConfig (physicalConfig byteConfig)).payloadSize.toNat :=
    fun _ member => by cases member
  have room : (fileImage (adapterConfig (physicalConfig byteConfig)) []).length ≤ maxFileSize := by
    rw [length_fileImage valid sizes]
    decide
  have persistence := @open_created ReliableDevice (WalFacade.persistence {}) _
    (physicalConfig byteConfig) ReliableDevice.ready rfl (by decide) (create_of_writeLog (writeLog_served sizes room))
  have core : (WalCore.open_ {} (runtimeConfig byteConfig) true).1 = .ok := by decide
  unfold open_
  rw [if_neg (by decide), if_neg (by decide)]
  dsimp only
  rw [if_neg (not_not.mpr core), if_neg (not_not.mpr persistence)]

/-- A record is published, made durable and consumed. -/
theorem wal_safe_one_record : ∃ (log : List (Call × Answer)) (wal : WalFacade ReliableDevice),
    log.map Prod.fst = [.tryPublish [7], .advanceDurable 1, .tryConsume [0]] ∧
      Safe byteConfig log wal :=
  ⟨_, _, rfl, wal_safe byteConfig {} { device := .ready } open_byteConfig
    (((Runs.start.step (.tryPublish [7])).step (.advanceDurable 1)).step (.tryConsume [0]))⟩

end WalFacade

end Fexma.Wal
