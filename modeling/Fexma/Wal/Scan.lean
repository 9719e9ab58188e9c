import Fexma.Wal.FileWrites
import Fexma.Wal.ReaderProofs

/-! The scanner takes a file apart: the header area, as many records as there are, and a tail
that is empty, unfinished or damaged. -/
namespace Fexma.Wal

open TornLog WalReader PhysicalWalAdapter

variable {config : WalConfig} {payloads longer : List (List UInt8)} {tail rest buffer : List UInt8}
variable {next n rounds : ℕ} {file : DiskFile}

/-! ### Parsing -/

/-- Bytes begin with as many records as possible. -/
theorem exists_records (sequences : next ≤ 2 ^ 64) : ∃ payloads tail,
    rest = (recordFrames config (.ofNat next) payloads).flatten ++ tail ∧
      (∀ payload ∈ payloads, payload.length = config.payloadSize.toNat) ∧
      next + payloads.length ≤ 2 ^ 64 ∧ ¬ RecordAhead config (next + payloads.length) tail := by
  induction length : rest.length using Nat.strong_induction_on generalizing rest next with
  | _ _ ih =>
    by_cases ahead : RecordAhead config next rest
    · obtain ⟨payload, more, inside, size, rfl⟩ := ahead
      have shorter : more.length < (recordFrame config (.ofNat next) payload ++ more).length := by
        have some_bytes := List.length_pos_of_ne_nil
          (@recordFrame_ne_nil config payload (.ofNat next))
        rw [List.length_append]
        omega
      obtain ⟨payloads, tail, rfl, sizes, fit, stop⟩ :=
        ih _ (length ▸ shorter) (Nat.succ_le_of_lt inside) rfl
      refine ⟨payload :: payloads, tail, ?_, ?_, ?_, ?_⟩
      · rw [recordFrames, List.flatten_cons, List.append_assoc, Nat.succ_eq_add_one,
          UInt64.ofNat_add, UInt64.ofNat_one]
      · exact List.forall_mem_cons.mpr ⟨size, sizes⟩
      · rw [List.length_cons]
        omega
      · rwa [List.length_cons, Nat.add_comm payloads.length, ← Nat.add_assoc]
    · exact ⟨[], rest, rfl, (fun _ member => by cases member), sequences, ahead⟩

/-- A file with the header area is the longest log that it begins with, and a tail. -/
theorem exists_image (head : fileHead config <+: rest) : ∃ payloads tail,
    rest = fileImage config payloads ++ tail ∧ Loggable config payloads ∧
      ¬ RecordAhead config (config.firstSequence.toNat + payloads.length) tail := by
  obtain ⟨rest, rfl⟩ := head
  obtain ⟨payloads, tail, rfl, sizes, sequences, stop⟩ :=
    @exists_records config rest _ (Nat.le_of_lt config.firstSequence.toNat_lt)
  rw [UInt64.ofNat_toNat]
  exact ⟨payloads, tail, by rw [fileImage, List.append_assoc], ⟨sizes, sequences⟩, stop⟩

/-- No longer log is a beginning of the file. -/
theorem longest_image (valid : Valid config) (loggable : Loggable config payloads)
    (stop : ¬ RecordAhead config (config.firstSequence.toNat + payloads.length) tail)
    (other : Loggable config longer)
    (early : fileImage config longer <+: fileImage config payloads ++ tail) :
    longer.length ≤ payloads.length := by
  by_contra more
  rw [Nat.not_le] at more
  have short : (longer.take payloads.length).length = payloads.length :=
    List.length_take_of_le (Nat.le_of_lt more)
  have sizes : ∀ payload ∈ longer.take payloads.length,
      payload.length = config.payloadSize.toNat :=
    fun payload member => other.sizes payload (List.mem_of_mem_take member)
  obtain ⟨payload, rest, split⟩ : ∃ payload rest,
      longer = longer.take payloads.length ++ payload :: rest :=
    ⟨_, _, by rw [List.getElem_cons_drop more, List.take_append_drop]⟩
  have inside : config.firstSequence.toNat + payloads.length < 2 ^ 64 := by
    have := other.sequences
    omega
  have size : payload.length = config.payloadSize.toNat :=
    other.sizes payload (by rw [split]; simp)
  have image : fileImage config longer = fileImage config (longer.take payloads.length) ++
      (recordFrame config (.ofNat (config.firstSequence.toNat + payloads.length)) payload ++
        (recordFrames config (.ofNat (config.firstSequence.toNat + payloads.length) + 1)
          rest).flatten) := by
    conv_lhs => rw [split, fileImage_append, short, recordFrames, List.flatten_cons]
    rw [UInt64.ofNat_add, UInt64.ofNat_toNat]
  have same_length : (fileImage config (longer.take payloads.length)).length =
      (fileImage config payloads).length := by
    rw [length_fileImage valid sizes, length_fileImage valid loggable.sizes, short]
  rw [image] at early
  obtain ⟨behind, whole⟩ := early
  rw [List.append_assoc] at whole
  obtain ⟨-, back⟩ := List.append_inj whole same_length
  rw [List.append_assoc] at back
  exact stop ⟨payload, _, inside, size, back.symm⟩

/-! ### The scan loop -/

/-- The reader in front of the n-th record. -/
def readingAt (config : WalConfig) (n : ℕ) (rest : List UInt8) : WalReader :=
  reading config (config.firstSequence.toNat + n)
    ((recordsOffset config).toNat + n * (alignedRecordSize config).toNat) rest

/-- What the scanner has counted behind n records. -/
def scanned (config : WalConfig) (n : ℕ) : ScanResult where
  status := .clean
  error := .none
  records := .ofNat n
  lastSequence := if n = 0 then 0 else .ofNat (config.firstSequence.toNat + n - 1)
  lastValidOffset := .ofNat ((recordsOffset config).toNat + n * (alignedRecordSize config).toNat)

/-- What a tail is to the scanner. -/
inductive TailStatus (config : WalConfig) (next : ℕ) (tail : List UInt8) : ScanStatus → Prop
  | clean (none : tail = []) : TailStatus config next tail .clean
  | incompleteTail (torn : TornTail config next tail) : TailStatus config next tail .incompleteTail
  | corrupted (some_bytes : tail ≠ []) (untorn : ¬ TornTail config next tail) :
    TailStatus config next tail .corrupted

theorem readNext_at (valid : Valid config) {payload : List UInt8}
    (inside : config.firstSequence.toNat + n < 2 ^ 64)
    (size : payload.length = config.payloadSize.toNat)
    (fits : buffer.length = config.payloadSize.toNat) :
    readNext (readingAt config n
        (recordFrame config (.ofNat (config.firstSequence.toNat + n)) payload ++ rest)) buffer =
      ({ status := .record, sequence := .ofNat (config.firstSequence.toNat + n) }, payload,
        readingAt config (n + 1) rest) := by
  rw [readingAt, readNext_record valid.single inside size fits, readingAt, Nat.add_assoc, Nat.add_assoc,
    Nat.succ_mul]

theorem scanned_next : { scanned config n with
      records := (scanned config n).records + 1
      lastSequence := .ofNat (config.firstSequence.toNat + n)
      lastValidOffset := (readingAt config (n + 1) rest).nextOffset } = scanned config (n + 1) := by
  simp only [scanned, readingAt, reading, UInt64.ofNat_add, UInt64.ofNat_one, Nat.add_one_ne_zero,
    if_false, ← Nat.add_assoc, Nat.add_sub_cancel]

/-- Record by record. -/
theorem scanLoop_records (valid : Valid config)
    (sizes : ∀ payload ∈ payloads, payload.length = config.payloadSize.toNat)
    (sequences : config.firstSequence.toNat + n + payloads.length ≤ 2 ^ 64)
    (fits : buffer.length = config.payloadSize.toNat) :
    ∃ buffer', buffer'.length = config.payloadSize.toNat ∧
      scanLoop (payloads.length + rounds) (readingAt config n
        ((recordFrames config (.ofNat (config.firstSequence.toNat + n)) payloads).flatten ++ tail))
        buffer (scanned config n) =
      scanLoop rounds (readingAt config (n + payloads.length) tail) buffer'
        (scanned config (n + payloads.length)) := by
  induction payloads generalizing n buffer with
  | nil =>
    refine ⟨buffer, fits, ?_⟩
    rw [List.length_nil, Nat.zero_add]
    rfl
  | cons payload payloads ih =>
    rw [List.length_cons] at sequences
    obtain ⟨size, sizes⟩ := List.forall_mem_cons.mp sizes
    obtain ⟨buffer', fits', same⟩ := @ih payload (n + 1) sizes (by omega) size
    refine ⟨buffer', fits', ?_⟩
    rw [recordFrames, List.flatten_cons, List.append_assoc, List.length_cons,
      Nat.add_right_comm, scanLoop, readNext_at valid (by omega) size fits]
    simp only [if_true, scanned_next]
    rw [← Nat.add_assoc, UInt64.ofNat_add _ 1, UInt64.ofNat_one] at same
    rw [same, Nat.add_assoc, Nat.add_comm 1]

/-- The tail decides how the scan ends. -/
theorem scanLoop_tail (valid : Valid config)
    (sequences : config.firstSequence.toNat + n ≤ 2 ^ 64)
    (fits : buffer.length = config.payloadSize.toNat)
    (stop : ¬ RecordAhead config (config.firstSequence.toNat + n) tail) :
    ∃ status error, TailStatus config (config.firstSequence.toNat + n) tail status ∧
      (status = .clean → error = .none) ∧ scanLoop (rounds + 1) (readingAt config n tail) buffer (scanned config n) =
        { scanned config n with status, error } := by
  have stopped {status : ScanStatus}
      (stops : Stops (readNext (readingAt config n tail) buffer) status) : ∃ error,
      scanLoop (rounds + 1) (readingAt config n tail) buffer (scanned config n) =
        { scanned config n with status, error } := by
    obtain ⟨error, buffer', reader, answer, -, kind, -, -⟩ := stops
    refine ⟨error, ?_⟩
    rw [scanLoop, answer]
    simp only [reduceCtorEq, if_false, kind]
  by_cases none : tail = []
  · refine ⟨.clean, .none, .clean none, fun _ => rfl, ?_⟩
    rw [none, scanLoop, readingAt, readNext_end fits]
    rfl
  by_cases torn : TornTail config (config.firstSequence.toNat + n) tail
  · obtain ⟨error, same⟩ := stopped (readNext_torn valid.single fits torn)
    exact ⟨_, error, .incompleteTail torn, (fun clean => by cases clean), same⟩
  · rcases readNext_cases valid.single sequences fits with empty | ahead | unfinished | stops
    · exact absurd empty none
    · exact absurd ahead stop
    · exact absurd unfinished torn
    · obtain ⟨error, same⟩ := stopped stops
      exact ⟨_, error, .corrupted none torn, (fun clean => by cases clean), same⟩

/-! ### Whole files -/

theorem readingAt_zero : readingAt config 0 rest =
    reading config config.firstSequence.toNat (recordsOffset config).toNat rest := by
  rw [readingAt, Nat.add_zero, Nat.zero_mul, Nat.add_zero]

theorem length_le_fileImage (valid : Valid config)
    (sizes : ∀ payload ∈ payloads, payload.length = config.payloadSize.toNat) :
    payloads.length ≤ (fileImage config payloads).length := by
  have stride := alignedRecordSize_toNat valid.aligned
  have above := @le_alignUp (24 + config.payloadSize.toNat) _ (toNat_pos valid.aligned)
  have enough := Nat.le_mul_of_pos_right payloads.length
    (show 0 < (alignedRecordSize config).toNat by omega)
  rw [length_fileImage valid sizes]
  omega

/-- A scan of the longest log that the file begins with, and of what stands behind it. -/
theorem scanWal_image (valid : Valid config) (loggable : Loggable config payloads)
    (content : file.bytes = fileImage config payloads ++ tail)
    (stop : ¬ RecordAhead config (config.firstSequence.toNat + payloads.length) tail) :
    ∃ status error,
      TailStatus config (config.firstSequence.toNat + payloads.length) tail status ∧
      (status = .clean → error = .none) ∧ scanWal (some file) config = { scanned config payloads.length with status, error } := by
  have enough := length_le_fileImage valid loggable.sizes
  have long : (fileImage config payloads).length ≤ file.bytes.length := by
    rw [content, List.length_append]
    omega
  obtain ⟨rounds, split⟩ : ∃ rounds, file.bytes.length + 1 = payloads.length + (rounds + 1) :=
    ⟨file.bytes.length - payloads.length, by omega⟩
  rw [fileImage, List.append_assoc] at content
  have opened := @open_fileHead config _ {} file valid.single rfl content
  have fits : (List.replicate config.payloadSize.toNat (0 : UInt8)).length =
      config.payloadSize.toNat := List.length_replicate
  have start : ({ status := .clean, error := .none, lastValidOffset :=
      (readingAt config 0 ((recordFrames config config.firstSequence payloads).flatten ++
        tail)).nextOffset } : ScanResult) = scanned config 0 := by
    have zero : UInt64.ofNat 0 = 0 := by decide
    simp only [scanned, readingAt, reading, zero, if_true]
  obtain ⟨buffer, fits', same⟩ := @scanLoop_records config payloads tail _ 0 (rounds + 1) valid
    loggable.sizes loggable.sequences fits
  rw [show UInt64.ofNat (config.firstSequence.toNat + 0) = config.firstSequence from
    UInt64.ofNat_toNat, Nat.zero_add] at same
  obtain ⟨status, error, kind, unharmed, ending⟩ := @scanLoop_tail config tail buffer payloads.length rounds
    valid loggable.sequences fits' stop
  refine ⟨status, error, kind, unharmed, ?_⟩
  rw [← readingAt_zero] at opened
  rw [scanWal, opened]
  simp only [Option.map_some, Option.getD_some, ne_eq, not_true_eq_false, if_false, split, start]
  rw [same, ending]

/-- A scan of a file that does not begin with the header area. -/
theorem scanWal_refused (valid : Valid config) (other : ¬ fileHead config <+: file.bytes) :
    ∃ error, scanWal (some file) config = { status := .corrupted, error } := by
  obtain ⟨error, -, served, refused⟩ := @open_refused config {} file valid.single rfl other
  refine ⟨error, ?_⟩
  rw [scanWal, refused]
  simp only [ne_eq, reduceCtorEq, not_false_eq_true, if_true, if_false, served]

theorem TailStatus.clean_iff {status : ScanStatus} (kind : TailStatus config next tail status) :
    status = .clean ↔ tail = [] := by
  cases kind with
  | clean none => simp [none]
  | incompleteTail torn => simp [torn.ne_nil]
  | corrupted some_bytes untorn => simp [some_bytes]

theorem TailStatus.incompleteTail_iff {status : ScanStatus}
    (kind : TailStatus config next tail status) :
    status = .incompleteTail ↔ TornTail config next tail := by
  cases kind with
  | clean none =>
    simp only [reduceCtorEq, false_iff]
    exact fun torn => torn.ne_nil none
  | incompleteTail torn => simp [torn]
  | corrupted some_bytes untorn => simp [untorn]

theorem TailStatus.corrupted_iff {status : ScanStatus}
    (kind : TailStatus config next tail status) :
    status = .corrupted ↔ tail ≠ [] ∧ ¬ TornTail config next tail := by
  cases kind with
  | clean none => simp [none]
  | incompleteTail torn => simp [torn]
  | corrupted some_bytes untorn => simp [some_bytes, untorn]

/-- The counters of a scan have room for every file. -/
theorem scanned_toNat (valid : Valid config) (loggable : Loggable config payloads)
    (room : (fileImage config payloads).length ≤ maxFileSize) :
    (scanned config payloads.length).records.toNat = payloads.length ∧
      (scanned config payloads.length).lastValidOffset.toNat =
        (fileImage config payloads).length := by
  have enough := length_le_fileImage valid loggable.sizes
  have limit : maxFileSize = 2 ^ 63 - 1 := rfl
  have wide : UInt64.size = 2 ^ 64 := rfl
  rw [length_fileImage valid loggable.sizes] at room enough ⊢
  exact ⟨UInt64.toNat_ofNat_of_lt' (by omega), UInt64.toNat_ofNat_of_lt' (by omega)⟩

/-- The header area is what the writer creates. -/
theorem written_head (valid : Valid config) :
    Written config [] (file.bytes.take (recordsOffset config).toNat) ↔
      fileHead config <+: file.bytes := by
  have image : fileImage config [] = fileHead config := by
    rw [fileImage, recordFrames, List.flatten_nil, List.append_nil]
  rw [written_iff, image, ← length_fileHead valid]
  constructor
  · rintro ⟨-, head, -⟩
    exact ⟨_, by rw [← head, List.take_append_drop]⟩
  · intro head
    refine ⟨⟨(fun _ member => by cases member), Nat.le_of_lt config.firstSequence.toNat_lt⟩,
      (List.prefix_iff_eq_take.mp head).symm, ?_⟩
    exact (List.length_take_le' _ _).trans file.bounded

theorem written_take (loggable : Loggable config payloads)
    (content : file.bytes = fileImage config payloads ++ tail) :
    Written config payloads (file.bytes.take (fileImage config payloads).length) := by
  refine written_iff.mpr ⟨loggable, ?_, (List.length_take_le' _ _).trans file.bounded⟩
  rw [content, List.take_left' rfl]

/-- The scanner accepts the writer's format and nothing else: the trusted prefix is the longest
beginning of the file that the writer could have written. -/
theorem scanWal_exact (config : WalConfig) (file : DiskFile) (valid : validConfig config) :
    (¬ Written config [] (file.bytes.take (recordsOffset config).toNat) →
      (scanWal (some file) config).status = .corrupted ∧
        (scanWal (some file) config).records = 0) ∧
    (Written config [] (file.bytes.take (recordsOffset config).toNat) →
      ∃ payloads : List (List UInt8),
        payloads.length = (scanWal (some file) config).records.toNat ∧
        (scanWal (some file) config).lastValidOffset.toNat ≤ file.bytes.length ∧
        Written config payloads
          (file.bytes.take (scanWal (some file) config).lastValidOffset.toNat) ∧
        (∀ longer n, n ≤ file.bytes.length → Written config longer (file.bytes.take n) →
          n ≤ (scanWal (some file) config).lastValidOffset.toNat) ∧
        ((scanWal (some file) config).status = .clean ↔
          ∃ whole, Written config whole file.bytes) ∧
        ((scanWal (some file) config).status = .incompleteTail ↔
          TornTail config (config.firstSequence.toNat + payloads.length)
            (file.bytes.drop (scanWal (some file) config).lastValidOffset.toNat)) ∧
        ((scanWal (some file) config).status = .corrupted ↔
          ¬ (∃ whole, Written config whole file.bytes) ∧
          ¬ TornTail config (config.firstSequence.toNat + payloads.length)
            (file.bytes.drop (scanWal (some file) config).lastValidOffset.toNat))) := by
  have valid := validConfig_iff.mp valid
  rw [written_head valid]
  refine ⟨fun other => ?_, fun head => ?_⟩
  · obtain ⟨error, refused⟩ := scanWal_refused valid other
    rw [refused]
    exact ⟨rfl, rfl⟩
  obtain ⟨payloads, tail, content, loggable, stop⟩ := exists_image head
  obtain ⟨status, error, kind, -, scan⟩ := scanWal_image valid loggable content stop
  have long : (fileImage config payloads).length ≤ file.bytes.length := by
    rw [content, List.length_append]
    omega
  obtain ⟨records, offset⟩ := scanned_toNat valid loggable (long.trans file.bounded)
  have longest (longer : List (List UInt8)) (n : ℕ) (inside : n ≤ file.bytes.length)
      (written : Written config longer (file.bytes.take n)) :
      n ≤ (fileImage config payloads).length := by
    obtain ⟨other, image, -⟩ := written_iff.mp written
    have early : fileImage config longer <+: fileImage config payloads ++ tail := by
      rw [← image, ← content]
      exact List.take_prefix _ _
    have fewer := Nat.mul_le_mul_right (alignedRecordSize config).toNat
      (longest_image valid loggable stop other early)
    have size := congrArg List.length image
    rw [List.length_take_of_le inside, length_fileImage valid other.sizes] at size
    rw [length_fileImage valid loggable.sizes]
    omega
  have whole : (∃ whole, Written config whole file.bytes) ↔ tail = [] := by
    constructor
    · rintro ⟨longer, written⟩
      have all := longest longer file.bytes.length (Nat.le_refl _) (by rwa [List.take_length])
      rw [content, List.length_append] at all
      exact List.eq_nil_of_length_eq_zero (by omega)
    · intro none
      refine ⟨payloads, written_iff.mpr ⟨loggable, ?_, file.bounded⟩⟩
      rw [content, none, List.append_nil]
  rw [scan]
  simp only [records, offset]
  refine ⟨payloads, rfl, long, written_take loggable content, longest, ?_, ?_, ?_⟩
  · rw [whole]
    exact kind.clean_iff
  · rw [content, List.drop_left' rfl]
    exact kind.incompleteTail_iff
  · rw [whole, content, List.drop_left' rfl]
    exact kind.corrupted_iff

/-- A file of one record is accepted. -/
theorem scanWal_exact_one_record : ∃ file : DiskFile, file.bytes = fileImage byteConfig [[7]] ∧
    (scanWal (some file) byteConfig).status = .clean := by
  have valid := validConfig_iff.mp byteConfig_valid
  have loggable : Loggable byteConfig [[7]] := ⟨by simp [byteConfig], by decide⟩
  have room : (fileImage byteConfig [[7]]).length ≤ maxFileSize := by
    rw [length_fileImage valid loggable.sizes]
    decide
  let file : DiskFile := ⟨fileImage byteConfig [[7]], room⟩
  have head : Written byteConfig [] (file.bytes.take (recordsOffset byteConfig).toNat) :=
    (written_head valid).mpr (List.prefix_append _ _)
  obtain ⟨_, -, -, -, -, clean, -, -⟩ := (scanWal_exact byteConfig file byteConfig_valid).2 head
  exact ⟨file, rfl, clean.mpr ⟨[[7]], written_iff.mpr ⟨loggable, rfl, room⟩⟩⟩

end Fexma.Wal
