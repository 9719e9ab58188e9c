import Fexma.SnapshotDemo.Bootstrap
import Fexma.SnapshotDemo.DemoSafety

/-! A crash of the complete tract and what a restart makes of it. Recovery of the log keeps every
record that a stateful stage has processed, and a composition that is restored from a saved
generation goes over the recovered records through the states that the crashed one had. -/
namespace Fexma.SnapshotDemo

open Wal RecordString WalFacade CrashProgram Program
open Wal.PhysicalWalAdapter (ReliableDevice)

namespace DemoTract

variable {δ α α' : Type} {config : WalConfig} {text : RecordString} {tract : DemoTract δ α α'}
variable {moment : Moment}

/-- The points at which a crash may find the file: between two calls, or within a call of the
persistence stage. -/
inductive CrashPoint [Device δ] (tract : DemoTract δ α α') : Moment → Prop
  | between {adapter : PhysicalWalAdapter δ}
    (held : tract.persistence.physicalWal = some adapter) :
    CrashPoint tract ⟨adapter.file.bytes, adapter.synced⟩
  | within {adapter adapter' : PhysicalWalAdapter δ} {passed : List Moment} {moment : Moment}
    (maximumCount : UInt64) (held : tract.persistence.physicalWal = some adapter)
    (held' : (tract.persistenceStep maximumCount).2.persistence.physicalWal = some adapter')
    (moments : adapter'.moments = adapter.moments ++ passed) (here : moment ∈ passed) :
    CrashPoint tract moment

/-- At every moment the file is a beginning of the log that has the durable records. -/
theorem Sound.recoverable [Device δ] (sound : Sound config text tract)
    (crash : CrashPoint tract moment) :
    Recoverable config tract.published tract.durable.toNat moment := by
  obtain ⟨adapter, stands⟩ := sound.stands
  have stored := stands.stores.held
  cases crash with
  | between held =>
    cases stored.symm.trans held
    refine ⟨?_, ?_⟩
    · rw [← fileImage_stored]
      exact stands.stores.within
    · rw [← fileImage_stored]
      exact stands.stores.covered
  | within maximumCount held held' moments here =>
    obtain ⟨-, -, before, after, same, same', grows, within, covered⟩ :=
      sound.persistenceStep maximumCount
    cases same.symm.trans held
    cases same'.symm.trans held'
    exact recoverable_of_grows covered grows within moments here

/-- What a restored composition does over the recovered records: it gets to every position
behind the snapshot, and where it stands at the frontier of a stage of the crashed tract it has
that stage's state. -/
structure Resumes [SliderAcquirePolicy α] [SliderAcquirePolicy α'] (text : RecordString)
    (position : ℕ) (crashed restored : Composition α α') : Prop where
  at_start : Restored (text.generationAt position) (.ofNat (position + 1)) restored
  reaches : ∀ stop, position < stop → stop ≤ text.length →
    ∃ resumed, SnapshotDemo.Reaches text restored resumed ∧ StandsAt stop resumed
  hash : ∀ resumed, SnapshotDemo.Reaches text restored resumed →
    resumed.hash.own = crashed.hash.own → resumed.hash.module.state = crashed.hash.module.state
  bits : ∀ resumed, SnapshotDemo.Reaches text restored resumed →
    resumed.bits.own = crashed.bits.own → resumed.bits.module.state = crashed.bits.module.state

/-- What recovery and a restart make of the file that a crash has left. -/
structure Restarts [SliderAcquirePolicy α] [SliderAcquirePolicy α'] (config : WalConfig)
    (tract : DemoTract δ α α') (file kept : DiskFile) (text : RecordString) : Prop where
  status : (recoverIncompleteTail {} (some file) config).1.status = .clean ∨
    (recoverIncompleteTail {} (some file) config).1.status = .recovered
  recovered : (recoverIncompleteTail {} (some file) config).2 = some kept
  records : text.records = storedRecords config (tract.published.take text.length)
  durable : tract.durable.toNat ≤ text.length
  processed : tract.composition.bits.own ≤ tract.composition.hash.own ∧
    tract.composition.hash.own ≤ tract.durable
  reads : ∀ reader : WalReader, reader.isOpen = false → ∃ reading,
    reader.open_ (some kept) config = ({ status := .ok }, reading) ∧
    ∀ buffers : List (List UInt8),
      (∀ buffer ∈ buffers, buffer.length = config.payloadSize.toNat) →
      readCalls reading buffers =
        (recordAnswers config 0 (tract.published.take text.length)).take buffers.length ++
          (buffers.drop text.length).map (endAnswer config text.length)
  hash : tract.composition.hash.module.state =
    text.stateAfter HashChain tract.composition.hash.own.toNat
  bits : tract.composition.bits.module.state =
    text.stateAfter BitAccumulator tract.composition.bits.own.toNat
  resumes : ∀ generation ∈ tract.composition.collected, ∃ position,
    text.IsSnapshot position ∧ generation = text.generationAt position ∧
    ∀ (sink : SnapshotSink) (root : Tree) (fates : List (Fate Remnant)),
      ((sink.save generation).run fates root).1 = some .ok →
      ∀ (hash : Stage HashChain α) (bits : Stage BitAccumulator α'),
        Moves hash.acquirePolicy → Moves bits.acquirePolicy →
        ∃ restored, restoreSnapshotQuiescent sink.loader ((sink.save generation).run fates root).2
            generation.generationId { hash, bits } = (.ok, restored) ∧
          Resumes text position tract.composition restored

section Restart
variable [SliderAcquirePolicy α] [SliderAcquirePolicy α'] [LawfulAcquire α] [LawfulAcquire α']

/-- From a saved generation a composition resumes over any string that has the records of the
crashed one. -/
theorem resumes_of_saved {position floor : ℕ} {crashed : Composition α α'}
    (snapshot : text.IsSnapshot position) (consistent : Consistent text 0 floor crashed)
    {sink : SnapshotSink} {root : Tree} {fates : List (Fate Remnant)}
    (saved : ((sink.save (text.generationAt position)).run fates root).1 = some .ok)
    (hash : Stage HashChain α) (bits : Stage BitAccumulator α')
    (hash_moves : Moves hash.acquirePolicy) (bits_moves : Moves bits.acquirePolicy) :
    ∃ restored, restoreSnapshotQuiescent sink.loader
        ((sink.save (text.generationAt position)).run fates root).2
        (text.generationAt position).generationId { hash, bits } = (.ok, restored) ∧
      Resumes text position crashed restored := by
  obtain ⟨restored, answer, at_start, coordinator, collected, hash_rule, bits_rule⟩ :=
    restoreSnapshotQuiescent_saved { hash, bits } saved
  have rest : AtRest text (position + 1) (position + 1) restored :=
    at_start.atRest snapshot.1 (congrArg _ coordinator) collected (hash_rule ▸ hash_moves)
      (bits_rule ▸ bits_moves)
  obtain ⟨before, begins⟩ := rest.consistent
  refine ⟨restored, answer, at_start, ?_, ?_, ?_⟩
  · intro stop ahead inside
    obtain ⟨resumed, reached, stands⟩ := rest.reaches ahead inside
    exact ⟨resumed, reached, stands.hash, stands.bits, stands.hash_free, stands.bits_free⟩
  · intro resumed reached same
    obtain ⟨after, resumes⟩ := reached.consistent begins
    rw [resumes.hash.published, consistent.hash.published] at same
    rw [resumes.hash.state, consistent.hash.state, same]
  · intro resumed reached same
    obtain ⟨after, resumes⟩ := reached.consistent begins
    rw [resumes.bits.published, consistent.bits.published] at same
    rw [resumes.bits.state, consistent.bits.state, same]

/-- A crash at any moment of any schedule. Recovery keeps all that was durable, so both stateful
stages stand within the recovered records; from every generation that was collected and saved
the composition resumes over them, through the states in which the crash has found it. -/
theorem demo_restarts [Device δ] {answers : OpenAnswers δ} {rule : α} {rule' : α'}
    {start : DemoTract δ α α'} (created : create config answers rule rule' = some start)
    (reached : DemoTract.Reaches start tract) (crash : CrashPoint tract moment) {file : DiskFile}
    (left : Leaves moment file.bytes) :
    ∃ (kept : DiskFile) (text : RecordString), Restarts config tract file kept text := by
  obtain ⟨first, begins, valid⟩ := Sound.start created
  obtain ⟨whole, sound⟩ := reached.sound begins
  obtain ⟨floor, consistent⟩ := sound.consistent
  have loggable : Loggable config tract.published := by
    have sizes := sound.holds.sizes
    have sequences := sound.holds.sequences
    rw [sound.runtime] at sizes sequences
    exact ⟨sizes, sequences⟩
  have durable : tract.durable.toNat ≤ tract.published.length := by
    rw [← sound.holds.head]
    exact UInt64.le_iff_toNat_le.mp sound.durable_le
  obtain ⟨n, kept, above, fewer, content, status, -, recovered⟩ :=
    (sound.recoverable crash).recover valid loggable durable left
  have count : (tract.published.take n).length = n := List.length_take_of_le fewer
  obtain ⟨text, records⟩ := @exists_text config (tract.published.take n) (by
      rw [count]
      exact Nat.lt_of_le_of_lt fewer (sound.holds.head ▸ tract.source.head.toNat_lt)) (by
      intro index payload here
      rw [List.getElem?_take] at here
      split_ifs at here
      exact admissible_of_text sound.records here)
  have length : text.length = n := by
    rw [RecordString.length, records, length_storedRecords, count]
  have alike : whole.Alike text n := alike_of_take sound.records records fewer
  have hash_within : tract.composition.hash.current.toNat ≤ n := by
    rw [← sound.hash_current]
    exact Nat.le_trans (UInt64.le_iff_toNat_le.mp sound.hash_le) above
  have bits_within : tract.composition.bits.current.toNat ≤ n := by
    rw [← sound.bits_current]
    exact Nat.le_trans (UInt64.le_iff_toNat_le.mp (UInt64.le_trans sound.bits_le sound.hash_le)) above
  have recovered_consistent := consistent.over alike hash_within bits_within
  refine ⟨kept, text, ?_⟩
  constructor
  case status => exact status
  case recovered => exact recovered
  case records =>
    rw [length]
    exact records
  case durable =>
    rw [length]
    exact above
  case processed => exact ⟨sound.bits_le, sound.hash_le⟩
  case reads =>
    intro reader closed
    obtain ⟨reading, answer, -, reads⟩ := readCalls_log valid loggable.take content closed
    rw [count] at reads
    rw [length]
    exact ⟨reading, answer, reads⟩
  case hash =>
    rw [sound.hash_current]
    exact recovered_consistent.hash.state
  case bits =>
    rw [sound.bits_current]
    exact recovered_consistent.bits.state
  case resumes =>
    intro generation member
    obtain ⟨position, snapshot, rfl⟩ := recovered_consistent.sound.whole generation (.inl member)
    refine ⟨position, snapshot, rfl, ?_⟩
    intro sink root fates saved hash bits hash_moves bits_moves
    exact resumes_of_saved snapshot recovered_consistent saved hash bits hash_moves bits_moves

end Restart

/-- A data record that follows the snapshot. -/
def dataRecord : List UInt8 := (encodeData ⟨List.replicate 48 9, rfl⟩).val

/-- A crash behind the run of one snapshot, while a data record is written. It leaves a part of
that record's header, which recovery cuts off. -/
theorem demo_restarts_one_snapshot :
    ∃ (start crashed : DemoTract ReliableDevice AvailableRangeAcquire AvailableRangeAcquire)
      (file kept : DiskFile) (text : RecordString),
    create demoConfig { device := ReliableDevice.ready } AvailableRangeAcquire.policy
      AvailableRangeAcquire.policy = some start ∧
    crashed = (oneSnapshot.foldl perform start).perform (.tryPublish dataRecord) ∧
    CrashPoint crashed
      ⟨(fileImage demoConfig [(encodeSaveSnapshot 0).val, dataRecord]).take 176, 152⟩ ∧
    file.bytes = (fileImage demoConfig [(encodeSaveSnapshot 0).val, dataRecord]).take 160 ∧
    (recoverIncompleteTail {} (some file) demoConfig).1.status = .recovered ∧
    kept.bytes = fileImage demoConfig [(encodeSaveSnapshot 0).val] ∧
    Restarts demoConfig crashed file kept text := by
  obtain ⟨start, created⟩ := exists_create
  have admissible : Admissible (oneSnapshot.foldl perform start).published.length dataRecord := by
    unfold Admissible dataRecord
    rw [decodeRecord_encodeData]
    exact ⟨rfl, nofun⟩
  have reached := (oneSnapshot_reaches created).step (.tryPublish dataRecord) admissible
  have passes : ∀ start ∈ create demoConfig { device := ReliableDevice.ready }
        AvailableRangeAcquire.policy AvailableRangeAcquire.policy,
      ∃ adapter ∈ ((oneSnapshot.foldl perform start).perform
        (.tryPublish dataRecord)).persistence.physicalWal,
      ∃ adapter' ∈ (((oneSnapshot.foldl perform start).perform
        (.tryPublish dataRecord)).persistenceStep 1).2.persistence.physicalWal,
      adapter'.moments = adapter.moments ++ adapter'.moments.drop 6 ∧
        ⟨(fileImage demoConfig [(encodeSaveSnapshot 0).val, dataRecord]).take 176, 152⟩ ∈
          adapter'.moments.drop 6 := by decide +kernel
  obtain ⟨adapter, held, adapter', held', moments, here⟩ :=
    passes start (Option.mem_def.mpr created)
  have crash := CrashPoint.within 1 (Option.mem_def.mp held) (Option.mem_def.mp held') moments here
  let file : DiskFile :=
    ⟨(fileImage demoConfig [(encodeSaveSnapshot 0).val, dataRecord]).take 160, by decide +kernel⟩
  have left : Leaves ⟨(fileImage demoConfig [(encodeSaveSnapshot 0).val, dataRecord]).take 176, 152⟩
      file.bytes :=
    ⟨List.take_prefix_take_left (by decide), by decide +kernel⟩
  have status : (recoverIncompleteTail {} (some file) demoConfig).1.status = .recovered := by
    decide +kernel
  have cut : ∀ kept ∈ (recoverIncompleteTail {} (some file) demoConfig).2,
      kept.bytes = fileImage demoConfig [(encodeSaveSnapshot 0).val] := by decide +kernel
  obtain ⟨kept, text, restarts⟩ := demo_restarts created reached crash left
  exact ⟨start, _, file, kept, text, created, rfl, crash, rfl, status,
    cut kept (Option.mem_def.mpr restarts.recovered), restarts⟩

end DemoTract

end Fexma.SnapshotDemo
