import Fexma.Wal.RecoveryProofs
import Fexma.Wal.WalSafety

/-! Crashes of the composition. Whatever a crash leaves of the file, recovery finds every
durable record in it and nothing that was not published. -/
namespace Fexma.Wal.WalFacade

open PhysicalWalAdapter

variable {δ : Type} {config : WalConfig} {string : List (List UInt8)}
variable {delivered : List (UInt64 × List UInt8)} {log : List (Call × Answer)}
variable {wal start : WalFacade δ} {adapter : PhysicalWalAdapter δ} {moment : Moment}

/-- What a crash may leave: a beginning of what was written, with all that a sync covered. -/
def Leaves (moment : Moment) (bytes : List UInt8) : Prop :=
  bytes <+: moment.bytes ∧ moment.synced ≤ bytes.length

/-- The points at which a crash may find a run: behind its calls, or within the next one. -/
inductive CrashPoint [Device δ] (wal : WalFacade δ) : Moment → Prop
  | between {adapter : PhysicalWalAdapter δ} (held : wal.persistence.physicalWal = some adapter) :
    CrashPoint wal ⟨adapter.file.bytes, adapter.synced⟩
  | within {adapter adapter' : PhysicalWalAdapter δ} {passed : List Moment} {moment : Moment}
    (call : Call) (other : call ≠ .close) (held : wal.persistence.physicalWal = some adapter)
    (held' : (wal.perform call).2.persistence.physicalWal = some adapter')
    (moments : adapter'.moments = adapter.moments ++ passed) (here : moment ∈ passed) :
    CrashPoint wal moment

/-- At a moment the file is a beginning of the log, and a sync has covered the durable records. -/
structure Recoverable (config : WalConfig) (string : List (List UInt8)) (durable : ℕ)
    (moment : Moment) : Prop where
  within : moment.bytes <+: fileImage config string
  covered : (fileImage config (string.take durable)).length ≤ moment.synced

variable [Device δ]

/-- No call but `close` closes the log. -/
theorem perform_isOpen {call : Call} (other : call ≠ .close) :
    (wal.perform call).2.isOpen = wal.isOpen := by
  cases call with
  | tryPublish payload =>
    change (wal.tryPublish payload).2.isOpen = _
    rcases wal.tryPublish_cases payload with ⟨_, _, _, answer⟩ | ⟨_, _, _, _, answer⟩
    · rw [answer]
    · rw [answer]
  | advanceDurable batchSize =>
    change (wal.advanceDurable batchSize).2.isOpen = _
    unfold WalFacade.advanceDurable
    split_ifs
    · rfl
    · rfl
    · dsimp only
      split_ifs
      · rfl
      · rfl
  | tryConsume buffer =>
    change (wal.tryConsume buffer).2.2.isOpen = _
    unfold WalFacade.tryConsume
    split_ifs
    · rfl
    · rfl
    · rfl
    · dsimp only
      split_ifs
      · rfl
      · rfl
  | tryView position => rfl
  | close => exact absurd rfl other

theorem Runs.isOpen (run : Runs start log wal) (no_close : ∀ entry ∈ log, entry.1 ≠ .close) :
    wal.isOpen = start.isOpen := by
  induction run with
  | start => rfl
  | step run call ih =>
    rw [perform_isOpen (no_close _ (List.mem_append_right _ (List.mem_singleton_self _)))]
    exact ih fun entry member => no_close entry (List.mem_append_left _ member)

/-- A call that neither advances nor closes leaves the file alone. -/
theorem perform_persistence {call : Call} (no_advance : ∀ batchSize, call ≠ .advanceDurable batchSize)
    (no_close : call ≠ .close) : (wal.perform call).2.persistence = wal.persistence := by
  cases call with
  | tryPublish payload => exact congrArg Slider.module (tryPublish_slider payload)
  | advanceDurable batchSize => exact absurd rfl (no_advance batchSize)
  | tryConsume buffer => exact congrArg Slider.module (tryConsume_slider buffer)
  | tryView position => rfl
  | close => exact absurd rfl no_close

omit [Device δ] in
/-- What is written on the way of a call is a beginning of the log. -/
theorem recoverable_of_grows {durable : ℕ} {adapter' : PhysicalWalAdapter δ} {passed : List Moment}
    (covered : (fileImage config (string.take durable)).length ≤ adapter.synced)
    (grows : Grows adapter adapter') (within : adapter'.file.bytes <+: fileImage config string)
    (moments : adapter'.moments = adapter.moments ++ passed) (here : moment ∈ passed) :
    Recoverable config string durable moment := by
  obtain ⟨passed', moments', between⟩ := grows.moments
  obtain rfl : passed = passed' := List.append_cancel_left (moments.symm.trans moments')
  obtain ⟨-, ahead, synced⟩ := between moment here
  exact ⟨ahead.trans within, covered.trans synced⟩

/-- Every moment that a call passes is recoverable. -/
theorem Sound.crash (sound : Sound config string delivered wal) (opened : wal.isOpen = true)
    (crash : CrashPoint wal moment) : Recoverable config string wal.durable.toNat moment := by
  obtain ⟨-, adapter, stands⟩ := sound.standing opened
  have covered : (fileImage config (string.take wal.durable.toNat)).length ≤ adapter.synced :=
    fileImage_stored ▸ stands.stores.covered
  have within : adapter.file.bytes <+: fileImage config string :=
    fileImage_stored ▸ stands.stores.within
  cases crash with
  | between held =>
    cases stands.stores.held.symm.trans held
    exact ⟨within, covered⟩
  | @within _ adapter' passed moment call no_close held held' moments here =>
    cases stands.stores.held.symm.trans held
    by_cases advance : ∃ batchSize, call = .advanceDurable batchSize
    · obtain ⟨batchSize, rfl⟩ := advance
      have advances := sound.advanceDurable batchSize
      change (wal.advanceDurable batchSize).2.persistence.physicalWal = some adapter' at held'
      revert advances held'
      generalize wal.advanceDurable batchSize = answer
      intro advances held'
      have forward {before after : PhysicalWalAdapter δ} {slider : PersistenceSlider δ}
          (start : Stands (stored config) string before wal.persistenceSlider)
          (grows : Grows before after) (stands' : Stands (stored config) string after slider)
          (held' : slider.module.physicalWal = some adapter') :
          Recoverable config string wal.durable.toNat moment := by
        cases stands.stores.held.symm.trans start.stores.held
        cases stands'.stores.held.symm.trans held'
        exact recoverable_of_grows covered grows (fileImage_stored ▸ stands'.stores.within) moments here
      cases advances with
      | closed closed => exact absurd opened (by simp [closed])
      | latched =>
        cases stands.stores.held.symm.trans held'
        exact recoverable_of_grows covered (.refl adapter) within moments here
      | moved _ _ before grows after => exact forward before grows after held'
      | broke _ _ before grows after => exact forward before grows after held'
    · rw [perform_persistence (fun batchSize same => advance ⟨batchSize, same⟩) no_close] at held'
      cases stands.stores.held.symm.trans held'
      exact recoverable_of_grows covered (.refl adapter) within moments here

/-- What a crash leaves of a recoverable file is repaired to a beginning of the string. -/
theorem Recoverable.recover (valid : Valid config) (loggable : Loggable config string) {durable : ℕ}
    (inside : durable ≤ string.length) (recoverable : Recoverable config string durable moment)
    {file : DiskFile} (left : Leaves moment file.bytes) : ∃ (n : ℕ) (kept : DiskFile),
    durable ≤ n ∧ n ≤ string.length ∧ kept.bytes = fileImage config (string.take n) ∧
      ((recoverIncompleteTail {} (some file) config).1.status = .clean ∨
        (recoverIncompleteTail {} (some file) config).1.status = .recovered) ∧
      (recoverIncompleteTail {} (some file) config).1.records = .ofNat n ∧
      (recoverIncompleteTail {} (some file) config).2 = some kept := by
  have sizes : ∀ payload ∈ string.take durable, payload.length = config.payloadSize.toNat :=
    fun payload member => loggable.sizes payload (List.mem_of_mem_take member)
  have stride : 0 < (alignedRecordSize config).toNat :=
    Nat.pos_of_ne_zero fun zero =>
      alignedRecordSize_ne_zero valid.aligned (UInt64.toNat_inj.mp zero)
  have long := recoverable.covered.trans left.2
  rw [length_fileImage valid sizes, List.length_take_of_le inside] at long
  obtain ⟨-, repaired⟩ := recover_cut valid loggable (left.1.trans recoverable.within)
  obtain ⟨n, kept, fewer, number, content, status, records, result⟩ :=
    repaired (Nat.le_of_add_right_le long)
  refine ⟨n, kept, ?_, fewer, content, status, records, result⟩
  rw [number, Nat.le_div_iff_mul_le stride]
  exact Nat.le_sub_of_add_le' long

/-- Recovery behind a crash: no durable record is lost and none is invented. -/
theorem crash_consistent (config : WalConfig) (start : WalFacade δ) (answers : OpenAnswers δ)
    (opened : (start.open_ config answers).1 = .ok)
    (run : Runs (start.open_ config answers).2 log wal)
    (no_close : ∀ entry ∈ log, entry.1 ≠ .close) (crash : CrashPoint wal moment) (file : DiskFile)
    (left : Leaves moment file.bytes) : ∃ (n : ℕ) (kept : DiskFile),
    wal.durable.toNat ≤ n ∧ n ≤ wal.core.head.toNat ∧
      wal.core.head.toNat = (published log).length ∧
      ((recoverIncompleteTail {} (some file) config).1.status = .clean ∨
        (recoverIncompleteTail {} (some file) config).1.status = .recovered) ∧
      (recoverIncompleteTail {} (some file) config).1.records = .ofNat n ∧
      (recoverIncompleteTail {} (some file) config).2 = some kept ∧
      ∀ reader : WalReader, reader.isOpen = false → ∃ reading,
        reader.open_ (some kept) config = ({ status := .ok }, reading) ∧
        ∀ buffers : List (List UInt8),
          (∀ buffer ∈ buffers, buffer.length = config.payloadSize.toNat) →
          readCalls reading buffers =
            (recordAnswers config 0 ((published log).take n)).take buffers.length ++
              (buffers.drop n).map (endAnswer config n) := by
  obtain ⟨started, -⟩ := open_sound opened
  obtain ⟨valid, is_open⟩ := open_valid opened
  have sound := run.sound started
  have loggable := sound.loggable
  have recoverable := sound.crash ((run.isOpen no_close).trans is_open) crash
  obtain ⟨n, kept, above, fewer, content, status, records, result⟩ :=
    recoverable.recover valid loggable sound.durable_length left
  have short : ((published log).take n).length = n := List.length_take_of_le fewer
  have early : Loggable config ((published log).take n) := loggable.take
  refine ⟨n, kept, above, fewer.trans_eq sound.holds.head.symm, sound.holds.head, status, records,
    result, fun reader closed => ?_⟩
  obtain ⟨reading, answer, -, reads⟩ := readCalls_log valid early content closed
  rw [short] at reads
  exact ⟨reading, answer, reads⟩

/-- A crash while the second record is written. It leaves a part of that record's header, which
recovery cuts off, and the record in front of it is read back. -/
theorem crash_consistent_one_record : ∃ (log : List (Call × Answer))
    (wal : WalFacade ReliableDevice) (file kept : DiskFile),
    Runs (WalFacade.open_ {} byteConfig { device := ReliableDevice.ready }).2 log wal ∧
      log.map Prod.fst = [.tryPublish [7], .advanceDurable 1, .tryPublish [8]] ∧
      CrashPoint wal ⟨(fileImage byteConfig [[7], [8]]).take 121, 96⟩ ∧
      file.bytes = (fileImage byteConfig [[7], [8]]).take 100 ∧
      (recoverIncompleteTail {} (some file) byteConfig).1.status = .recovered ∧
      (recoverIncompleteTail {} (some file) byteConfig).2 = some kept ∧
      kept.bytes = fileImage byteConfig [[7]] ∧
      ∀ reader : WalReader, reader.isOpen = false → ∃ reading,
        reader.open_ (some kept) byteConfig = ({ status := .ok }, reading) ∧
        readCalls reading [[0], [0]] =
          recordAnswers byteConfig 0 [[7]] ++ [endAnswer byteConfig 1 [0]] := by
  obtain ⟨log, wal, run, calls, string, served⟩ : ∃ (log : List (Call × Answer))
      (wal : WalFacade ReliableDevice),
      Runs (WalFacade.open_ {} byteConfig { device := ReliableDevice.ready }).2 log wal ∧
        log.map Prod.fst = [.tryPublish [7], .advanceDurable 1, .tryPublish [8]] ∧
        published log = [[7], [8]] ∧
        wal = ((((WalFacade.open_ {} byteConfig { device := ReliableDevice.ready }).2.perform
          (.tryPublish [7])).2.perform (.advanceDurable 1)).2.perform (.tryPublish [8])).2 :=
    ⟨_, _, ((Runs.start.step (.tryPublish [7])).step (.advanceDurable 1)).step (.tryPublish [8]),
      rfl, by decide +kernel, rfl⟩
  have no_close : ∀ entry ∈ log, entry.1 ≠ .close := by
    intro entry member closes
    have here := List.mem_map_of_mem (f := Prod.fst) member
    rw [calls, closes] at here
    simp at here
  have passes : ∃ adapter ∈ wal.persistence.physicalWal,
      ∃ adapter' ∈ (wal.perform (.advanceDurable 1)).2.persistence.physicalWal,
      adapter'.moments = adapter.moments ++ adapter'.moments.drop 7 ∧
        ⟨(fileImage byteConfig [[7], [8]]).take 121, 96⟩ ∈ adapter'.moments.drop 7 := by
    rw [served]
    decide +kernel
  obtain ⟨adapter, held, adapter', held', moments, here⟩ := passes
  have crash := CrashPoint.within (.advanceDurable 1) nofun (Option.mem_def.mp held)
    (Option.mem_def.mp held') moments here
  let file : DiskFile := ⟨(fileImage byteConfig [[7], [8]]).take 100, by decide +kernel⟩
  have left : Leaves ⟨(fileImage byteConfig [[7], [8]]).take 121, 96⟩ file.bytes :=
    ⟨List.take_prefix_take_left (by decide), by decide +kernel⟩
  have status : (recoverIncompleteTail {} (some file) byteConfig).1.status = .recovered ∧
      (recoverIncompleteTail {} (some file) byteConfig).1.records = 1 := by decide +kernel
  have cut : ∀ kept ∈ (recoverIncompleteTail {} (some file) byteConfig).2,
      kept.bytes = fileImage byteConfig [[7]] := by decide +kernel
  obtain ⟨n, kept, -, below, head, -, records, recovered, reads⟩ :=
    crash_consistent byteConfig {} { device := ReliableDevice.ready } open_byteConfig run no_close
      crash file left
  refine ⟨log, wal, file, kept, run, calls, crash, rfl, status.1, recovered, cut kept recovered, ?_⟩
  intro reader closed
  obtain ⟨reading, opened, answers⟩ := reads reader closed
  have one : n = 1 := by
    rw [head, string] at below
    rw [status.2] at records
    match n, below with
    | 0, _ => cases records
    | 1, _ => rfl
    | 2, _ => cases records
  rw [string, one] at answers
  exact ⟨reading, opened, answers [[0], [0]] (by simp [byteConfig])⟩

end Fexma.Wal.WalFacade
