import Fexma.Wal.Recovery
import Fexma.Wal.Scan

/-! Reading back what was written: runs of `read_next` over a log, and the round trip of a
whole file. -/
namespace Fexma.Wal

open WalReader PhysicalWalAdapter

variable {config : WalConfig} {payloads buffers : List (List UInt8)} {tail buffer : List UInt8}
variable {n : ℕ}

/-- Calls of `read_next`, each with the caller's buffer: what it answers, what the buffer holds
then, and `next_offset`. -/
def readCalls : WalReader → List (List UInt8) → List (ReadResult × List UInt8 × UInt64)
  | _, [] => []
  | reader, buffer :: buffers =>
    ((reader.readNext buffer).1, (reader.readNext buffer).2.1,
      (reader.readNext buffer).2.2.nextOffset) ::
        readCalls (reader.readNext buffer).2.2 buffers

/-- The answers for the records of a log, from the n-th on. -/
def recordAnswers (config : WalConfig) : ℕ → List (List UInt8) →
    List (ReadResult × List UInt8 × UInt64)
  | _, [] => []
  | n, payload :: payloads =>
    ({ status := .record, sequence := .ofNat (config.firstSequence.toNat + n) }, payload,
      .ofNat ((recordsOffset config).toNat + (n + 1) * (alignedRecordSize config).toNat)) ::
        recordAnswers config (n + 1) payloads

/-- The answer at the end of a log of n records. -/
def endAnswer (config : WalConfig) (n : ℕ) (buffer : List UInt8) :
    ReadResult × List UInt8 × UInt64 :=
  ({ status := .endOfLog }, buffer,
    .ofNat ((recordsOffset config).toNat + n * (alignedRecordSize config).toNat))

/-- The records come one by one, each with the end of its frame. -/
theorem readCalls_records (valid : Valid config)
    (sizes : ∀ payload ∈ payloads, payload.length = config.payloadSize.toNat)
    (sequences : config.firstSequence.toNat + n + payloads.length ≤ 2 ^ 64)
    (fits : ∀ buffer ∈ buffers, buffer.length = config.payloadSize.toNat) :
    readCalls (readingAt config n ((recordFrames config
        (.ofNat (config.firstSequence.toNat + n)) payloads).flatten ++ tail)) buffers =
      (recordAnswers config n payloads).take buffers.length ++
        readCalls (readingAt config (n + payloads.length) tail)
          (buffers.drop payloads.length) := by
  induction payloads generalizing n buffers with
  | nil => rw [recordAnswers, List.take_nil, recordFrames, List.flatten_nil]; rfl
  | cons payload payloads ih =>
    cases buffers with
    | nil => simp [readCalls]
    | cons buffer buffers =>
      rw [List.length_cons] at sequences
      obtain ⟨size, sizes⟩ := List.forall_mem_cons.mp sizes
      obtain ⟨fit, fits⟩ := List.forall_mem_cons.mp fits
      have rest := @ih buffers (n + 1) sizes (by omega) fits
      rw [← Nat.add_assoc, UInt64.ofNat_add _ 1, UInt64.ofNat_one] at rest
      rw [recordFrames, List.flatten_cons, List.append_assoc, readCalls,
        readNext_at valid (by omega) size fit, rest, recordAnswers, List.length_cons,
        List.length_cons, List.take_succ_cons, List.drop_succ_cons, Nat.add_assoc,
        Nat.add_comm 1 payloads.length]
      rfl

/-- Behind the last record every call finds the end. -/
theorem readCalls_end (fits : ∀ buffer ∈ buffers, buffer.length = config.payloadSize.toNat) :
    readCalls (readingAt config n []) buffers = buffers.map (endAnswer config n) := by
  induction buffers with
  | nil => rfl
  | cons buffer buffers ih =>
    obtain ⟨fit, fits⟩ := List.forall_mem_cons.mp fits
    have stays : readNext (readingAt config n []) buffer =
        ({ status := .endOfLog }, buffer, readingAt config n []) := readNext_end fit
    rw [readCalls, stays, ih fits]
    rfl

/-- A call that fails for good is followed by failures only. -/
theorem readCalls_stops {reader : WalReader}
    (stops : ∀ buffer ∈ buffers, ∃ status, Stops (reader.readNext buffer) status) :
    ∀ answer ∈ readCalls reader buffers, answer.1.status = .failed := by
  have failed (reader : WalReader) (opened : reader.isOpen = true)
      (failure : reader.failure ≠ .none) (buffers : List (List UInt8)) :
      ∀ answer ∈ readCalls reader buffers, answer.1.status = .failed := by
    induction buffers with
    | nil => exact fun _ member => by cases member
    | cons buffer buffers ih =>
      rw [readCalls, readNext_failed opened failure]
      exact List.forall_mem_cons.mpr ⟨rfl, ih⟩
  cases buffers with
  | nil => exact fun _ member => by cases member
  | cons buffer buffers =>
    obtain ⟨_, error, buffer', reader', answer, some_error, -, opened, failure⟩ :=
      stops buffer (by simp)
    rw [readCalls, answer]
    exact List.forall_mem_cons.mpr ⟨rfl, failed reader' opened (by rwa [failure]) buffers⟩

/-- The whole of a log. -/
theorem readCalls_image (valid : Valid config) (loggable : Loggable config payloads)
    (fits : ∀ buffer ∈ buffers, buffer.length = config.payloadSize.toNat) :
    readCalls (readingAt config 0
        ((recordFrames config config.firstSequence payloads).flatten ++ tail)) buffers =
      (recordAnswers config 0 payloads).take buffers.length ++
        readCalls (readingAt config payloads.length tail) (buffers.drop payloads.length) := by
  have records := @readCalls_records config payloads buffers tail 0 valid loggable.sizes
    loggable.sequences fits
  rwa [show UInt64.ofNat (config.firstSequence.toNat + 0) = config.firstSequence from
    UInt64.ofNat_toNat, Nat.zero_add] at records

/-- The frame of a record is where its number says. -/
theorem drop_fileImage (valid : Valid config) {payload : List UInt8}
    (sizes : ∀ payload ∈ payloads, payload.length = config.payloadSize.toNat)
    (here : payloads[n]? = some payload) : ∃ behind, (fileImage config payloads).drop
        ((recordsOffset config).toNat + n * (alignedRecordSize config).toNat) =
      recordFrame config (.ofNat (config.firstSequence.toNat + n)) payload ++ behind := by
  obtain ⟨inside, rfl⟩ := List.getElem?_eq_some_iff.mp here
  have early : ∀ payload ∈ payloads.take n, payload.length = config.payloadSize.toNat :=
    fun payload member => sizes payload (List.mem_of_mem_take member)
  have short : (payloads.take n).length = n := List.length_take_of_le (Nat.le_of_lt inside)
  have front := length_fileImage valid early
  rw [short] at front
  have image : fileImage config payloads = fileImage config (payloads.take n) ++
      (recordFrames config (config.firstSequence + .ofNat n) (payloads.drop n)).flatten := by
    conv_lhs => rw [← List.take_append_drop n payloads, fileImage_append, short]
  refine ⟨(recordFrames config (config.firstSequence + .ofNat n + 1)
    (payloads.drop (n + 1))).flatten, ?_⟩
  rw [image, List.drop_left' front, List.drop_eq_getElem_cons inside, recordFrames,
    List.flatten_cons, UInt64.ofNat_add, UInt64.ofNat_toNat]

/-- A file that is a log and nothing else scans clean. -/
theorem scanWal_clean (valid : Valid config) {file : DiskFile} (loggable : Loggable config payloads)
    (content : file.bytes = fileImage config payloads) :
    scanWal (some file) config = scanned config payloads.length := by
  have none : ¬ RecordAhead config (config.firstSequence.toNat + payloads.length) [] := by
    rintro ⟨payload, more, -, -, same⟩
    exact recordFrame_ne_nil (List.append_eq_nil_iff.mp same.symm).1
  obtain ⟨status, error, kind, unharmed, scan⟩ := @scanWal_image config payloads [] file valid
    loggable (by rw [content, List.append_nil]) none
  rw [scan, kind.clean_iff.mpr rfl, unharmed (kind.clean_iff.mpr rfl)]
  rfl

/-- A reader over a file that is a log and nothing else. -/
theorem readCalls_log (valid : Valid config) {file : DiskFile} (loggable : Loggable config payloads)
    (content : file.bytes = fileImage config payloads) {reader : WalReader}
    (closed : reader.isOpen = false) : ∃ opened,
    reader.open_ (some file) config = ({ status := .ok }, opened) ∧
      opened.nextOffset = .ofNat (recordsOffset config).toNat ∧
      ∀ buffers : List (List UInt8),
        (∀ buffer ∈ buffers, buffer.length = config.payloadSize.toNat) →
        readCalls opened buffers = (recordAnswers config 0 payloads).take buffers.length ++
          (buffers.drop payloads.length).map (endAnswer config payloads.length) := by
  have whole : file.bytes = fileHead config ++
      ((recordFrames config config.firstSequence payloads).flatten ++ []) := by
    rw [content, fileImage, List.append_nil]
  refine ⟨_, open_fileHead valid.single closed whole, rfl, fun buffers fits => ?_⟩
  rw [← readingAt_zero, readCalls_image valid loggable fits, readCalls_end]
  exact fun buffer member => fits buffer (List.mem_of_mem_drop member)

/-- What was written is read back. -/
theorem wal_round_trip (config : WalConfig) (payloads : List (List UInt8))
    (valid : validConfig config)
    (sizes : ∀ payload ∈ payloads, payload.length = config.payloadSize.toNat)
    (sequences : config.firstSequence.toNat + payloads.length ≤ 2 ^ 64) :
    ((recordsOffset config).toNat + payloads.length * (alignedRecordSize config).toNat ≤
        maxFileSize →
      (writeLog config payloads { device := ReliableDevice.ready }).1 = true) ∧
    ∀ (δ : Type) [Device δ] (adapter written : PhysicalWalAdapter δ),
      writeLog config payloads adapter = (true, written) →
      written.file.bytes.length = (recordsOffset config).toNat +
        payloads.length * (alignedRecordSize config).toNat ∧
      (∀ i payload, payloads[i]? = some payload → ∃ behind, written.file.bytes.drop
          ((recordsOffset config).toNat + i * (alignedRecordSize config).toNat) =
        recordFrame config (.ofNat (config.firstSequence.toNat + i)) payload ++ behind) ∧
      (∀ reader : WalReader, reader.isOpen = false → ∃ opened,
        reader.open_ (some written.file) config = ({ status := .ok }, opened) ∧
        opened.nextOffset = .ofNat (recordsOffset config).toNat ∧
        ∀ buffers : List (List UInt8),
          (∀ buffer ∈ buffers, buffer.length = config.payloadSize.toNat) →
          readCalls opened buffers = (recordAnswers config 0 payloads).take buffers.length ++
            (buffers.drop payloads.length).map (endAnswer config payloads.length)) ∧
      (scanWal (some written.file) config).status = .clean ∧
      (scanWal (some written.file) config).records = .ofNat payloads.length ∧
      (scanWal (some written.file) config).lastValidOffset = written.file.size := by
  have valid := validConfig_iff.mp valid
  have loggable : Loggable config payloads := ⟨sizes, sequences⟩
  have length := length_fileImage valid sizes
  refine ⟨fun room => writeLog_served sizes (length ▸ room), ?_⟩
  intro δ device adapter written output
  have file := (@writeLog_file δ adapter config device payloads (by rw [output])).1
  rw [output] at file
  have scan := scanWal_clean valid loggable file
  refine ⟨by rw [file, length], ?_, ?_, ?_⟩
  · intro i payload here
    rw [file]
    exact drop_fileImage valid sizes here
  · intro reader closed
    exact readCalls_log valid loggable file closed
  · rw [scan, DiskFile.size, file, length]
    exact ⟨rfl, rfl, rfl⟩

/-- Two records behind the largest sequences are written and read back. -/
theorem wal_round_trip_last_sequences :
    (writeLog { byteConfig with firstSequence := 0xFFFFFFFFFFFFFFFE } [[7], [9]]
        { device := ReliableDevice.ready }).1 = true ∧
      (scanWal (some (writeLog { byteConfig with firstSequence := 0xFFFFFFFFFFFFFFFE } [[7], [9]]
        { device := ReliableDevice.ready }).2.file)
        { byteConfig with firstSequence := 0xFFFFFFFFFFFFFFFE }).records = 2 := by
  obtain ⟨served, read⟩ := wal_round_trip
    { byteConfig with firstSequence := 0xFFFFFFFFFFFFFFFE } [[7], [9]] (by decide)
    (by simp [byteConfig]) (by decide)
  have done := served (by decide)
  obtain ⟨-, -, -, -, records, -⟩ := read ReliableDevice _ _ (Prod.ext done rfl)
  exact ⟨done, records⟩

end Fexma.Wal
