import Fexma.Wal.Image
import Fexma.Wal.Reader
import Mathlib.Tactic.SplitIfs

/-! What the reader accepts: the header area of its configuration, and record by record the
frames that the writer appends. An unfinished record is told from a damaged one. -/
namespace Fexma.Wal

variable {config : WalConfig} {rest more payload : List UInt8} {next offset count size : ℕ}

namespace PhysicalWalReaderAdapter

theorem read_complete (room : count ≤ rest.length) :
    (⟨rest, true⟩ : PhysicalWalReaderAdapter).read count =
      (.complete, rest.take count, ⟨rest.drop count, true⟩) := by
  have whole : (rest.take count).length = count := List.length_take_of_le room
  simp [read, whole]

theorem read_append (bytes more : List UInt8) :
    (⟨bytes ++ more, true⟩ : PhysicalWalReaderAdapter).read bytes.length =
      (.complete, bytes, ⟨more, true⟩) := by
  rw [read_complete (by rw [List.length_append]; omega), List.take_left', List.drop_left'] <;> rfl

theorem read_incomplete (some_bytes : rest ≠ []) (short : rest.length < count) :
    (⟨rest, true⟩ : PhysicalWalReaderAdapter).read count = (.incomplete, rest, ⟨[], true⟩) := by
  have all : rest.take count = rest := List.take_of_length_le (Nat.le_of_lt short)
  have none : rest.drop count = [] := List.drop_of_length_le (Nat.le_of_lt short)
  simp [read, all, none, Nat.ne_of_lt short, some_bytes]

theorem read_endOfFile (some_count : 0 < count) :
    (⟨[], true⟩ : PhysicalWalReaderAdapter).read count = (.endOfFile, [], ⟨[], true⟩) := by
  simp [read, Nat.ne_of_lt some_count]

/-- A read that comes to the end of the file. -/
theorem read_short (short : rest.length < count) : ∃ status reader,
    (⟨rest, true⟩ : PhysicalWalReaderAdapter).read count = (status, rest, reader) ∧
      status ≠ .complete ∧ status ≠ .ioError := by
  cases rest with
  | nil => exact ⟨_, _, read_endOfFile (Nat.zero_lt_of_lt short), by decide, by decide⟩
  | cons byte rest =>
    exact ⟨_, _, read_incomplete (List.cons_ne_nil _ _) short, by decide, by decide⟩

end PhysicalWalReaderAdapter

open PhysicalWalReaderAdapter

/-! ### Padding -/

/-- The padding bytes that are looked at: whole chunks of 4096 where the file ends early. -/
def checkedPadding (size : ℕ) (rest : List UInt8) : List UInt8 :=
  if size ≤ rest.length then rest.take size else rest.take (rest.length / 4096 * 4096)

/-- What the padding loop answers. -/
def paddingError (incompleteError : WalReadError) (size : ℕ) (rest : List UInt8) : WalReadError :=
  if ∃ byte ∈ checkedPadding size rest, byte ≠ 0 then .nonZeroPadding
  else if rest.length < size then incompleteError
  else .none

theorem checkedPadding_chunk (chunk : min size 4096 ≤ rest.length) :
    checkedPadding size rest = rest.take (min size 4096) ++
      checkedPadding (size - min size 4096) (rest.drop (min size 4096)) := by
  have cut : (rest.drop (min size 4096)).length = rest.length - min size 4096 := List.length_drop
  unfold checkedPadding
  rw [cut]
  by_cases whole : size ≤ rest.length
  · rw [if_pos whole, if_pos (by omega), ← List.take_add]
    congr 1
    omega
  · rw [if_neg whole, if_neg (by omega), ← List.take_add]
    congr 1
    omega

section Loop
variable {incompleteError : WalReadError} {chunks : ℕ}

theorem readZeroLoop_short (some_size : size ≠ 0) (short : rest.length < min size 4096) :
    (readZeroLoop incompleteError (chunks + 1) size ⟨rest, true⟩).1 = incompleteError := by
  obtain ⟨status, reader, answer, incomplete, served⟩ := read_short short
  simp only [readZeroLoop, if_neg some_size, answer, if_neg served, if_pos incomplete]

theorem readZeroLoop_chunk (some_size : size ≠ 0) (room : min size 4096 ≤ rest.length) :
    readZeroLoop incompleteError (chunks + 1) size ⟨rest, true⟩ =
      if ∃ byte ∈ rest.take (min size 4096), byte ≠ 0 then
        (.nonZeroPadding, ⟨rest.drop (min size 4096), true⟩)
      else readZeroLoop incompleteError chunks (size - min size 4096)
        ⟨rest.drop (min size 4096), true⟩ := by
  have zeros : (!(rest.take (min size 4096)).all fun byte => decide (byte = 0)) = true ↔
      ∃ byte ∈ rest.take (min size 4096), byte ≠ 0 := by simp
  simp only [readZeroLoop, if_neg some_size, read_complete room, reduceCtorEq, if_false, ne_eq,
    not_true_eq_false, zeros]

theorem paddingError_short (short : rest.length < min size 4096) :
    paddingError incompleteError size rest = incompleteError := by
  have checked : checkedPadding size rest = [] := by
    rw [checkedPadding, if_neg (by omega), Nat.div_eq_of_lt (by omega), Nat.zero_mul, List.take_zero]
  rw [paddingError, checked, if_neg (by simp), if_pos (by omega)]

theorem paddingError_chunk (room : min size 4096 ≤ rest.length) :
    paddingError incompleteError size rest =
      if ∃ byte ∈ rest.take (min size 4096), byte ≠ 0 then .nonZeroPadding
      else paddingError incompleteError (size - min size 4096) (rest.drop (min size 4096)) := by
  have bytes : (∃ byte ∈ checkedPadding size rest, byte ≠ 0) ↔
      (∃ byte ∈ rest.take (min size 4096), byte ≠ 0) ∨
        ∃ byte ∈ checkedPadding (size - min size 4096) (rest.drop (min size 4096)), byte ≠ 0 := by
    rw [checkedPadding_chunk room]
    simp only [List.mem_append, or_and_right, exists_or]
  have shorter : (rest.drop (min size 4096)).length < size - min size 4096 ↔
      rest.length < size := by
    rw [List.length_drop]
    omega
  simp only [paddingError, bytes, shorter]
  by_cases early : ∃ byte ∈ rest.take (min size 4096), byte ≠ 0
  · rw [if_pos early, if_pos (.inl early)]
  · simp only [early, false_or, if_false]

theorem readZeroLoop_error (enough : size ≤ chunks) :
    (readZeroLoop incompleteError chunks size ⟨rest, true⟩).1 =
      paddingError incompleteError size rest := by
  induction chunks generalizing size rest with
  | zero =>
    obtain rfl : size = 0 := Nat.le_zero.mp enough
    simp [readZeroLoop, paddingError, checkedPadding]
  | succ chunks ih =>
    by_cases some_size : size = 0
    · simp [some_size, readZeroLoop, paddingError, checkedPadding]
    by_cases room : min size 4096 ≤ rest.length
    · rw [readZeroLoop_chunk some_size room, paddingError_chunk room]
      split_ifs
      · rfl
      · exact ih (by omega)
    · rw [readZeroLoop_short some_size (Nat.not_le.mp room),
        paddingError_short (Nat.not_le.mp room)]

/-- Zeros are read to their end. -/
theorem readZeroLoop_zeros (enough : size ≤ chunks) :
    readZeroLoop incompleteError chunks size ⟨List.replicate size 0 ++ more, true⟩ =
      (.none, ⟨more, true⟩) := by
  induction chunks generalizing size with
  | zero =>
    obtain rfl : size = 0 := Nat.le_zero.mp enough
    rfl
  | succ chunks ih =>
    by_cases some_size : size = 0
    · rw [some_size]
      rfl
    have split : List.replicate size (0 : UInt8) = List.replicate (min size 4096) 0 ++
        List.replicate (size - min size 4096) 0 := by
      rw [List.replicate_append_replicate]
      congr 1
      omega
    have chunk : (List.replicate (min size 4096) (0 : UInt8)).length = min size 4096 :=
      List.length_replicate
    rw [readZeroLoop_chunk some_size (by rw [List.length_append, List.length_replicate]; omega),
      split, List.append_assoc, List.take_left' chunk, List.drop_left' chunk, if_neg (by simp)]
    exact ih (by omega)

theorem readZeroPadding_error (size : UInt64) :
    (readZeroPadding ⟨rest, true⟩ size incompleteError).1 =
      paddingError incompleteError size.toNat rest :=
  readZeroLoop_error (Nat.le_refl _)

theorem readZeroPadding_zeros (size : UInt64) :
    readZeroPadding ⟨List.replicate size.toNat 0 ++ more, true⟩ size incompleteError =
      (.none, ⟨more, true⟩) :=
  readZeroLoop_zeros (Nat.le_refl _)

end Loop

/-- Accepted padding is padding of zeros. -/
theorem paddingError_none {incompleteError : WalReadError} (incomplete : incompleteError ≠ .none) :
    paddingError incompleteError size rest = .none ↔ ∃ more, rest = List.replicate size 0 ++ more := by
  constructor
  · intro accepted
    unfold paddingError at accepted
    split_ifs at accepted with found short
    · exact absurd accepted incomplete
    · have zeros : ∀ byte ∈ rest.take size, byte = 0 := by
        intro byte member
        by_contra some_byte
        rw [checkedPadding, if_pos (Nat.not_lt.mp short)] at found
        exact found ⟨byte, member, some_byte⟩
      have all_zeros : rest.take size = List.replicate size 0 := by
        rw [List.eq_replicate_of_mem zeros, List.length_take_of_le (Nat.not_lt.mp short)]
      exact ⟨rest.drop size, by rw [← all_zeros, List.take_append_drop]⟩
  · rintro ⟨more, rfl⟩
    have exact_size : (List.replicate size (0 : UInt8)).length = size := List.length_replicate
    have room : size ≤ (List.replicate size (0 : UInt8) ++ more).length := by
      rw [List.length_append, exact_size]
      omega
    have checked : checkedPadding size (List.replicate size 0 ++ more) = List.replicate size 0 := by
      rw [checkedPadding, if_pos room, List.take_left' exact_size]
    rw [paddingError, checked, if_neg (by simp), if_neg (Nat.not_lt.mpr room)]

/-! ### Headers -/

/-- The record header that goes with a sequence and the checksum of a payload. -/
def headerFor (sequence : UInt64) (payloadCrc32 : UInt32) : RecordHeader :=
  let header : RecordHeader := { sequence, payloadCrc32 }
  { header with headerCrc32 := recordHeaderCrc32 header }

theorem recordHeader_eq (sequence : UInt64) (payload : List UInt8) :
    recordHeader sequence payload = headerFor sequence (crc32Bytes payload) := rfl

/-- The checksum of a header does not look at its own field. -/
theorem recordHeaderCrc32_set (header : RecordHeader) (headerCrc32 : UInt32) :
    recordHeaderCrc32 { header with headerCrc32 } = recordHeaderCrc32 header := by
  rw [recordHeaderCrc32, recordHeaderCrc32]

theorem fileHeaderCrc32_set (header : FileHeader) (headerCrc32 : UInt32) :
    fileHeaderCrc32 { header with headerCrc32 } = fileHeaderCrc32 header := by
  rw [fileHeaderCrc32, fileHeaderCrc32]

theorem recordHeaderError_headerFor (sequence : UInt64) (payloadCrc32 : UInt32) :
    recordHeaderError (headerFor sequence payloadCrc32) sequence = .none := by
  have crc : recordHeaderCrc32 (headerFor sequence payloadCrc32) =
      (headerFor sequence payloadCrc32).headerCrc32 := recordHeaderCrc32_set _ _
  rw [recordHeaderError, crc]
  simp only [headerFor, ne_eq, not_true_eq_false, if_false]

theorem recordHeaderError_none {header : RecordHeader} {sequence : UInt64} :
    recordHeaderError header sequence = .none ↔
      header = headerFor sequence header.payloadCrc32 := by
  constructor
  · intro accepted
    obtain ⟨magic, version, headerSize, found, payloadCrc, headerCrc⟩ := header
    unfold recordHeaderError at accepted
    split_ifs at accepted with same_magic same_version same_size same_crc same_sequence
    simp only [not_not] at same_magic same_version same_size same_crc same_sequence
    subst same_magic same_version same_size same_sequence
    have crc := recordHeaderCrc32_set { sequence := found, payloadCrc32 := payloadCrc } headerCrc
    rw [headerFor, ← crc]
    exact congrArg _ same_crc.symm
  · intro same
    rw [same]
    exact recordHeaderError_headerFor _ _

/-- No check of a record header is about its end. -/
theorem scanStatusFor_recordHeaderError (header : RecordHeader) (sequence : UInt64) :
    scanStatusFor (recordHeaderError header sequence) = .corrupted := by
  unfold recordHeaderError
  split_ifs <;> rfl

/-- A file header before its checksum. -/
def bareHeader (config : WalConfig) : FileHeader :=
  { streamKind := config.streamKind
    payloadSize := config.payloadSize
    payloadSchemaVersion := config.payloadSchemaVersion
    alignment := config.alignment
    recordsOffset := recordsOffset config
    streamId := config.streamId
    epochId := config.epochId
    firstSequence := config.firstSequence
    manifestId := config.manifestId }

theorem fileHeader_eq (config : WalConfig) : fileHeader config =
    { bareHeader config with headerCrc32 := fileHeaderCrc32 (bareHeader config) } := rfl

theorem fileHeaderError_fileHeader (readable : Readable config) :
    fileHeaderError (fileHeader config) config = .none := by
  have crc : fileHeaderCrc32 (fileHeader config) = (fileHeader config).headerCrc32 :=
    fileHeaderCrc32_set _ _
  have known : config.streamKind.valid = true :=
    @Valid.streamKind { config with capacity := 1 } readable
  have actual : (fileHeader config).actual = { config with capacity := 1 } := rfl
  have single : validConfig { config with capacity := 1 } = true := validReader_iff.mpr readable
  have offset : recordsOffset { config with capacity := 1 } = recordsOffset config := rfl
  simp only [fileHeaderError, crc, actual, single, offset, samePersistedConfig]
  simp [fileHeader, known]

theorem recordsOffset_congr {config other : WalConfig} (same : config.alignment = other.alignment) :
    recordsOffset config = recordsOffset other := by
  simp only [recordsOffset, same]

theorem fileHeaderError_served (header : FileHeader) (config : WalConfig) :
    fileHeaderError header config ≠ .ioError := by
  unfold fileHeaderError
  split_ifs <;> decide

/-- A file header is accepted for the configuration it was made from, and for no other. -/
theorem fileHeaderError_none (readable : Readable config) {header : FileHeader} :
    fileHeaderError header config = .none ↔ header = fileHeader config := by
  constructor
  · intro accepted
    unfold fileHeaderError at accepted
    split_ifs at accepted with same_magic same_version same_size same_crc kind same_flags layout
      persisted
    have placed : header.recordsOffset = recordsOffset header.actual := by
      simpa using (not_or.mp (mt Bool.or_eq_true_iff.mpr layout)).2
    simp only [samePersistedConfig, Bool.not_eq_true', Bool.not_eq_false, Bool.and_eq_true,
      decide_eq_true_eq] at persisted
    obtain ⟨⟨⟨⟨⟨⟨⟨kind, size⟩, schema⟩, aligned⟩, stream⟩, epoch⟩, first⟩, manifest⟩ := persisted
    have bare : { header with headerCrc32 := 0 } = bareHeader config := by
      have offset : recordsOffset header.actual = recordsOffset config :=
        recordsOffset_congr aligned
      rw [bareHeader, FileHeader.mk.injEq]
      exact ⟨not_not.mp same_magic, not_not.mp same_version, not_not.mp same_size, kind,
        not_not.mp same_flags, size, schema, aligned, placed.trans offset, stream, epoch, first,
        manifest, rfl⟩
    have crc : header.headerCrc32 = fileHeaderCrc32 (bareHeader config) := by
      rw [← not_not.mp same_crc, ← bare]
      exact (fileHeaderCrc32_set header 0).symm
    rw [fileHeader_eq, ← crc, ← bare]
  · rintro rfl
    exact fileHeaderError_fileHeader readable

/-! ### Opening -/

theorem fileHeader_recordsOffset (config : WalConfig) :
    (fileHeader config).recordsOffset = recordsOffset config := by simp only [fileHeader]

/-- The padding that the reader computes is the one that the writer wrote. -/
theorem headerPadding_toNat (config : WalConfig) :
    (recordsOffset config - physicalFileHeaderSize.toUInt32).toUInt64.toNat =
      (fileHeaderPaddingSize config).toNat := by
  rw [UInt32.toNat_toUInt64, fileHeaderPaddingSize]

namespace WalReader

/-- An open reader in front of the record with this sequence; behind the last one there is
the first number that is no sequence. -/
def reading (config : WalConfig) (next offset : ℕ) (rest : List UInt8) : WalReader :=
  { physicalReader := ⟨rest, true⟩
    config
    nextSequence := .ofNat (min next (2 ^ 64 - 1))
    nextOffset := .ofNat offset
    failure := .none
    sequenceExhausted := decide (next = 2 ^ 64)
    isOpen := true }

theorem reading_first (config : WalConfig) (rest : List UInt8) :
    reading config config.firstSequence.toNat (recordsOffset config).toNat rest =
      { physicalReader := ⟨rest, true⟩
        config
        nextSequence := config.firstSequence
        nextOffset := (recordsOffset config).toUInt64
        failure := .none
        sequenceExhausted := false
        isOpen := true } := by
  have below := config.firstSequence.toNat_lt
  have sequence : UInt64.ofNat (min config.firstSequence.toNat (2 ^ 64 - 1)) =
      config.firstSequence := by
    rw [Nat.min_eq_left (by omega), UInt64.ofNat_toNat]
  have wide (value : UInt32) : UInt64.ofNat value.toNat = value.toUInt64 := by
    rw [← UInt32.toNat_toUInt64, UInt64.ofNat_toNat]
  rw [reading, sequence, wide, decide_eq_false (Nat.ne_of_lt below)]

variable {reader : WalReader} {file : DiskFile}

theorem open_fileHead (readable : Readable config) (closed : reader.isOpen = false)
    (content : file.bytes = fileHead config ++ rest) : reader.open_ (some file) config =
      ({ status := .ok },
        reading config config.firstSequence.toNat (recordsOffset config).toNat rest) := by
  have known : validReaderConfig config = true := validReader_iff.mpr readable
  have header := read_append (serializeFileHeader (fileHeader config))
    (List.replicate (fileHeaderPaddingSize config).toNat 0 ++ rest)
  rw [length_serializeFileHeader, ← List.append_assoc, ← fileHead, ← content] at header
  have padding : readZeroPadding
      ⟨List.replicate (fileHeaderPaddingSize config).toNat 0 ++ rest, true⟩
      (recordsOffset config - physicalFileHeaderSize.toUInt32).toUInt64
      .incompleteFileHeader = (.none, ⟨rest, true⟩) := by
    rw [← headerPadding_toNat]
    exact readZeroPadding_zeros _
  rw [open_, if_neg (by simp [closed]), if_neg (by simp [known]), reading_first]
  simp only [header, deserialize_serializeFileHeader, Option.getD_some,
    fileHeaderError_fileHeader readable, padding, fileHeader_recordsOffset, ne_eq, not_true_eq_false, if_false]

/-- A file that does not begin with the header area is refused, and the reader stays closed. -/
theorem open_refused (readable : Readable config) (closed : reader.isOpen = false)
    (other : ¬ fileHead config <+: file.bytes) : ∃ error, error ≠ .none ∧ error ≠ .ioError ∧
      reader.open_ (some file) config = ({ status := .failed, error }, {}) := by
  have known : validReaderConfig config = true := validReader_iff.mpr readable
  rw [open_, if_neg (by simp [closed]), if_neg (by simp [known])]
  by_cases short : file.bytes.length < 64
  · obtain ⟨status, left, answer, incomplete, served⟩ := read_short short
    refine ⟨.incompleteFileHeader, by decide, by decide, ?_⟩
    simp only [answer, if_pos incomplete, if_neg served, close]
  · rw [Nat.not_lt] at short
    have length : (file.bytes.take 64).length = 64 := List.length_take_of_le short
    obtain ⟨header, found⟩ : ∃ header, deserializeFileHeader (file.bytes.take 64) = some header :=
      ⟨_, if_neg (not_not.mpr length)⟩
    simp only [read_complete short, found, Option.getD_some, ne_eq, not_true_eq_false, if_false]
    by_cases accepted : fileHeaderError header config = .none
    · obtain rfl := (fileHeaderError_none readable).mp accepted
      have front := serialize_deserializeFileHeader found
      have rejected : paddingError .incompleteFileHeader (fileHeaderPaddingSize config).toNat
          (file.bytes.drop 64) ≠ .none := by
        intro zeros
        obtain ⟨more, back⟩ := (paddingError_none (by decide)).mp zeros
        refine other ⟨more, ?_⟩
        rw [fileHead, List.append_assoc, ← back, front, List.take_append_drop]
      simp only [accepted, fileHeader_recordsOffset, readZeroPadding_error, headerPadding_toNat,
        not_true_eq_false, rejected, if_false, not_false_eq_true, if_true, close]
      refine ⟨_, ?_, ?_, rfl⟩
      · split_ifs
        · decide
        · exact rejected
      · unfold paddingError
        split_ifs <;> decide
    · refine ⟨_, accepted, fileHeaderError_served header config, ?_⟩
      simp only [accepted, not_false_eq_true, if_true, close]

end WalReader

/-! ### Reading -/

/-- An unfinished record that no check made up to the end of the file objects to. -/
inductive TornTail (config : WalConfig) (next : ℕ) : List UInt8 → Prop
  | header {part : List UInt8} (some_bytes : part ≠ []) (short : part.length < 24) :
    TornTail config next part
  | payload {part : List UInt8} (payloadCrc32 : UInt32) (inside : next < 2 ^ 64)
      (short : part.length < config.payloadSize.toNat) :
    TornTail config next (serializeRecordHeader (headerFor (.ofNat next) payloadCrc32) ++ part)
  | padding {payload part : List UInt8} (inside : next < 2 ^ 64)
      (size : payload.length = config.payloadSize.toNat)
      (short : part.length < (paddingSize config).toNat)
      (zeros : ∀ byte ∈ part.take (part.length / 4096 * 4096), byte = 0) :
    TornTail config next
      (serializeRecordHeader (recordHeader (.ofNat next) payload) ++ (payload ++ part))

/-- The file goes on with a whole record, and there is a sequence left for it. -/
def RecordAhead (config : WalConfig) (next : ℕ) (rest : List UInt8) : Prop :=
  ∃ payload more, next < 2 ^ 64 ∧ payload.length = config.payloadSize.toNat ∧
    rest = recordFrame config (.ofNat next) payload ++ more

theorem TornTail.ne_nil (torn : TornTail config next rest) : rest ≠ [] := by
  have header (header : RecordHeader) (bytes : List UInt8) :
      serializeRecordHeader header ++ bytes ≠ [] := by
    intro empty
    have length := congrArg List.length empty
    rw [List.length_append, length_serializeRecordHeader, List.length_nil] at length
    omega
  cases torn with
  | header some_bytes short => exact some_bytes
  | payload payloadCrc32 inside short => exact header _ _
  | padding inside size short zeros => exact header _ _

theorem readPadding_toNat (readable : Readable config) :
    (alignedRecordSize config - physicalRecordHeaderSize.toUInt64 -
      config.payloadSize.toUInt64).toNat = (paddingSize config).toNat := by
  have stride := alignedRecordSize_toNat readable.aligned
  have above := @le_alignUp (24 + config.payloadSize.toNat) _ (toNat_pos readable.aligned)
  have header : physicalRecordHeaderSize.toUInt64.toNat = 24 := by decide
  have behind : (alignedRecordSize config - physicalRecordHeaderSize.toUInt64).toNat =
      (alignedRecordSize config).toNat - 24 := by
    rw [UInt64.toNat_sub_of_le, header]
    rw [UInt64.le_iff_toNat_le, header]
    omega
  rw [UInt64.toNat_sub_of_le, behind, UInt32.toNat_toUInt64, paddingSize_toNat readable.aligned]
  · omega
  · rw [UInt64.le_iff_toNat_le, behind, UInt32.toNat_toUInt64]
    omega

namespace WalReader

variable {buffer : List UInt8} {payloadCrc32 : UInt32}

/-- A call that fails for good, for a reason that the scanner sees as this status. -/
def Stops (answer : ReadResult × List UInt8 × WalReader) (status : ScanStatus) : Prop :=
  ∃ error buffer reader, answer = ({ status := .failed, error }, buffer, reader) ∧
    error ≠ .none ∧ scanStatusFor error = status ∧ reader.isOpen = true ∧ reader.failure = error

/-- The end of the log is found again and again. -/
theorem readNext_end (fits : buffer.length = config.payloadSize.toNat) :
    readNext (reading config next offset []) buffer =
      ({ status := .endOfLog }, buffer, reading config next offset []) := by
  have none : (⟨[], true⟩ : PhysicalWalReaderAdapter).read 24 = (.endOfFile, [], ⟨[], true⟩) :=
    read_endOfFile (by omega)
  simp only [readNext, reading, none, fits, Bool.not_true, Bool.false_eq_true, ne_eq,
    not_true_eq_false, if_false, if_true]

theorem readNext_header (fits : buffer.length = config.payloadSize.toNat) (inside : next < 2 ^ 64) :
    readNext (reading config next offset
        (serializeRecordHeader (headerFor (.ofNat next) payloadCrc32) ++ rest)) buffer =
      (reading config next offset rest).readBody (headerFor (.ofNat next) payloadCrc32) buffer := by
  have header := read_append (serializeRecordHeader (headerFor (.ofNat next) payloadCrc32)) rest
  rw [length_serializeRecordHeader] at header
  have left : decide (next = 2 ^ 64) = false := decide_eq_false (Nat.ne_of_lt inside)
  have sequence : min next (2 ^ 64 - 1) = next := Nat.min_eq_left (by omega)
  rw [reading, reading, left, sequence]
  simp only [readNext, header, fits, deserialize_serializeRecordHeader, Option.getD_some,
    recordHeaderError_headerFor, Bool.not_true, Bool.false_eq_true, reduceCtorEq, ne_eq,
    not_true_eq_false, if_false]

theorem last_iff (inside : next < 2 ^ 64) :
    UInt64.ofNat next = maxUInt64 ↔ next + 1 = 2 ^ 64 := by
  have value : (UInt64.ofNat next).toNat = next := UInt64.toNat_ofNat_of_lt' inside
  rw [← UInt64.toNat_inj, value, maxUInt64_toNat]
  omega

theorem next_sequence (inside : next < 2 ^ 64) :
    (if next + 1 = 2 ^ 64 then UInt64.ofNat next else UInt64.ofNat next + 1) =
      UInt64.ofNat (min (next + 1) (2 ^ 64 - 1)) := by
  by_cases last : next + 1 = 2 ^ 64
  · have same : min (next + 1) (2 ^ 64 - 1) = next := by omega
    rw [if_pos last, same]
  · have same : min (next + 1) (2 ^ 64 - 1) = next + 1 := by omega
    rw [if_neg last, same, UInt64.ofNat_add, UInt64.ofNat_one]

section Stages
variable {reader : WalReader} {header : RecordHeader} {behind done : PhysicalWalReaderAdapter}

theorem readBody_ok (fits : buffer.length = payload.length)
    (body : reader.physicalReader.read reader.config.payloadSize.toNat =
      (.complete, payload, behind))
    (crc : crc32Bytes payload = header.payloadCrc32)
    (padding : readZeroPadding behind (alignedRecordSize reader.config -
      physicalRecordHeaderSize.toUInt64 - reader.config.payloadSize.toUInt64) .incompletePadding =
      (.none, done)) : reader.readBody header buffer =
      ({ status := .record, sequence := reader.nextSequence }, payload,
        advance { reader with physicalReader := done }) := by
  have whole : payload ++ buffer.drop payload.length = payload := by
    rw [List.drop_of_length_le (by omega), List.append_nil]
  simp only [readBody, body, whole, crc, padding, ne_eq, not_true_eq_false, if_false]

theorem readBody_short {status : PhysicalReadStatus} {bytes : List UInt8}
    (body : reader.physicalReader.read reader.config.payloadSize.toNat = (status, bytes, behind))
    (incomplete : status ≠ .complete) (served : status ≠ .ioError) (opened : reader.isOpen = true) :
    Stops (reader.readBody header buffer) .incompleteTail := by
  refine ⟨.incompletePayload, bytes ++ buffer.drop bytes.length,
    fail { reader with physicalReader := behind } .incompletePayload, ?_, by decide, rfl, opened, rfl⟩
  simp only [readBody, body, if_pos incomplete, if_neg served]

theorem readBody_damaged (fits : buffer.length = payload.length)
    (body : reader.physicalReader.read reader.config.payloadSize.toNat =
      (.complete, payload, behind)) (crc : crc32Bytes payload ≠ header.payloadCrc32)
    (opened : reader.isOpen = true) : Stops (reader.readBody header buffer) .corrupted := by
  have whole : payload ++ buffer.drop payload.length = payload := by
    rw [List.drop_of_length_le (by omega), List.append_nil]
  refine ⟨.invalidPayloadCrc, payload,
    fail { reader with physicalReader := behind } .invalidPayloadCrc, ?_, by decide, rfl, opened, rfl⟩
  simp only [readBody, body, whole, if_pos crc, ne_eq, not_true_eq_false, if_false]

theorem readBody_unpadded {error : WalReadError} (fits : buffer.length = payload.length)
    (body : reader.physicalReader.read reader.config.payloadSize.toNat =
      (.complete, payload, behind)) (crc : crc32Bytes payload = header.payloadCrc32)
    (padding : readZeroPadding behind (alignedRecordSize reader.config -
      physicalRecordHeaderSize.toUInt64 - reader.config.payloadSize.toUInt64) .incompletePadding =
      (error, done)) (refused : error ≠ .none) (opened : reader.isOpen = true) :
    Stops (reader.readBody header buffer) (scanStatusFor error) := by
  have whole : payload ++ buffer.drop payload.length = payload := by
    rw [List.drop_of_length_le (by omega), List.append_nil]
  refine ⟨error, payload, fail { reader with physicalReader := done } error, ?_, refused, rfl,
    opened, rfl⟩
  simp only [readBody, body, whole, crc, padding, if_pos refused, ne_eq, not_true_eq_false, if_false]

end Stages

/-- The reader behind a record stands in front of the next one. -/
theorem advance_reading (inside : next < 2 ^ 64) : advance (reading config next offset rest) =
    reading config (next + 1) (offset + (alignedRecordSize config).toNat) rest := by
  have sequence : min next (2 ^ 64 - 1) = next := Nat.min_eq_left (by omega)
  have left : decide (next = 2 ^ 64) = false := decide_eq_false (Nat.ne_of_lt inside)
  have place : UInt64.ofNat offset + alignedRecordSize config =
      UInt64.ofNat (offset + (alignedRecordSize config).toNat) := by
    rw [UInt64.ofNat_add, UInt64.ofNat_toNat]
  simp only [advance, reading, sequence, left, last_iff inside, next_sequence inside, place,
    Bool.false_or]

theorem readBody_record (readable : Readable config) (inside : next < 2 ^ 64)
    (size : payload.length = config.payloadSize.toNat)
    (fits : buffer.length = config.payloadSize.toNat) :
    (reading config next offset
        (payload ++ (List.replicate (paddingSize config).toNat 0 ++ rest))).readBody
        (headerFor (.ofNat next) (crc32Bytes payload)) buffer =
      ({ status := .record, sequence := .ofNat next }, payload,
        reading config (next + 1) (offset + (alignedRecordSize config).toNat) rest) := by
  have body := read_append payload (List.replicate (paddingSize config).toNat 0 ++ rest)
  rw [size] at body
  have zeros := @readZeroPadding_zeros rest .incompletePadding
    (alignedRecordSize config - physicalRecordHeaderSize.toUInt64 - config.payloadSize.toUInt64)
  rw [readPadding_toNat readable] at zeros
  have crc : crc32Bytes payload =
      (headerFor (.ofNat next) (crc32Bytes payload)).payloadCrc32 := by simp only [headerFor]
  have sequence : min next (2 ^ 64 - 1) = next := Nat.min_eq_left (by omega)
  have accepted := @readBody_ok payload buffer (reading config next offset
    (payload ++ (List.replicate (paddingSize config).toNat 0 ++ rest))) _ _ _ (fits.trans size.symm)
    body crc zeros
  have behind := @advance_reading config rest next offset inside
  rw [reading] at behind
  rw [accepted, reading, behind, sequence]

theorem readNext_record (readable : Readable config) (inside : next < 2 ^ 64)
    (size : payload.length = config.payloadSize.toNat)
    (fits : buffer.length = config.payloadSize.toNat) :
    readNext (reading config next offset (recordFrame config (.ofNat next) payload ++ rest)) buffer =
      ({ status := .record, sequence := .ofNat next }, payload,
        reading config (next + 1) (offset + (alignedRecordSize config).toNat) rest) := by
  rw [recordFrame, recordHeader_eq, List.append_assoc, List.append_assoc,
    readNext_header fits inside, readBody_record readable inside size fits]

/-- Every check up to the end of the file passes, and then the file ends. -/
theorem readNext_torn (readable : Readable config) (fits : buffer.length = config.payloadSize.toNat)
    (torn : TornTail config next rest) :
    Stops (readNext (reading config next offset rest) buffer) .incompleteTail := by
  cases torn with
  | header some_bytes short =>
    refine ⟨.incompleteRecordHeader, buffer,
      fail { reading config next offset rest with physicalReader := ⟨[], true⟩ }
        .incompleteRecordHeader, ?_, by decide, rfl, rfl, rfl⟩
    have opened : (reading config next offset rest).isOpen = true := rfl
    have intact : (reading config next offset rest).failure = .none := rfl
    have known : (reading config next offset rest).config = config := rfl
    have place : (reading config next offset rest).physicalReader = ⟨rest, true⟩ := rfl
    simp only [readNext, opened, intact, known, place, read_incomplete some_bytes short, fits,
      Bool.not_true, Bool.false_eq_true, reduceCtorEq, ne_eq, not_true_eq_false,
      not_false_eq_true, if_false, if_true]
  | @payload part payloadCrc32 inside short =>
    obtain ⟨status, behind, body, incomplete, served⟩ := read_short short
    rw [readNext_header fits inside]
    exact readBody_short body incomplete served rfl
  | @padding payload part inside size short zeros =>
    have body := read_append payload part
    rw [size] at body
    rw [recordHeader_eq, readNext_header fits inside]
    have answer := @readZeroPadding_error part .incompletePadding
      (alignedRecordSize config - physicalRecordHeaderSize.toUInt64 - config.payloadSize.toUInt64)
    have incomplete : paddingError .incompletePadding (paddingSize config).toNat part =
        .incompletePadding := by
      have checked : ¬ ∃ byte ∈ checkedPadding (paddingSize config).toNat part, byte ≠ 0 := by
        rw [checkedPadding, if_neg (Nat.not_le.mpr short)]
        rintro ⟨byte, member, some_byte⟩
        exact some_byte (zeros byte member)
      rw [paddingError, if_neg checked, if_pos short]
    rw [readPadding_toNat readable, incomplete] at answer
    cases padded : readZeroPadding ⟨part, true⟩ (alignedRecordSize config -
        physicalRecordHeaderSize.toUInt64 - config.payloadSize.toUInt64) .incompletePadding with
    | mk error done =>
    rw [padded] at answer
    cases answer
    have crc : crc32Bytes payload =
        (headerFor (.ofNat next) (crc32Bytes payload)).payloadCrc32 := by simp only [headerFor]
    exact @readBody_unpadded payload buffer (reading config next offset (payload ++ part)) _ _ _ _
      (fits.trans size.symm) body crc padded (by decide) rfl

/-- A header that a check objects to, or that stands behind the last sequence. -/
theorem readNext_refused (fits : buffer.length = config.payloadSize.toNat)
    {header : RecordHeader} (whole : 24 ≤ rest.length)
    (found : deserializeRecordHeader (rest.take 24) = some header)
    (refused : next = 2 ^ 64 ∨
      recordHeaderError header (.ofNat (min next (2 ^ 64 - 1))) ≠ .none) :
    Stops (readNext (reading config next offset rest) buffer) .corrupted := by
  let behind : WalReader := { reading config next offset rest with physicalReader := ⟨rest.drop 24, true⟩ }
  by_cases last : next = 2 ^ 64
  · refine ⟨.unexpectedSequence, buffer, fail behind .unexpectedSequence, ?_, by decide, rfl, rfl, rfl⟩
    simp only [readNext, reading, read_complete whole, fits, last, behind, decide_true,
      Bool.not_true, Bool.false_eq_true, reduceCtorEq, ne_eq, not_true_eq_false, if_false, if_true]
  · have rejected := refused.resolve_left last
    refine ⟨_, buffer, fail behind (recordHeaderError header (.ofNat (min next (2 ^ 64 - 1)))), ?_,
      rejected, scanStatusFor_recordHeaderError _ _, rfl, rfl⟩
    simp only [readNext, reading, read_complete whole, fits, decide_eq_false last, behind, found,
      Option.getD_some, if_pos rejected, Bool.not_true, Bool.false_eq_true, reduceCtorEq, ne_eq,
      not_true_eq_false, if_false]

/-- What follows an accepted header: a record, an unfinished one or a damaged one. -/
theorem readBody_cases (readable : Readable config) (inside : next < 2 ^ 64)
    (fits : buffer.length = config.payloadSize.toNat) :
    (∃ payload more, payload.length = config.payloadSize.toNat ∧
        serializeRecordHeader (headerFor (.ofNat next) payloadCrc32) ++ rest =
          recordFrame config (.ofNat next) payload ++ more) ∨
      TornTail config next
        (serializeRecordHeader (headerFor (.ofNat next) payloadCrc32) ++ rest) ∨
      Stops ((reading config next offset rest).readBody (headerFor (.ofNat next) payloadCrc32) buffer)
        .corrupted := by
  by_cases short : rest.length < config.payloadSize.toNat
  · exact .inr (.inl (.payload payloadCrc32 inside short))
  obtain ⟨payload, part, rfl, size⟩ : ∃ payload part, rest = payload ++ part ∧
      payload.length = config.payloadSize.toNat :=
    ⟨_, _, (List.take_append_drop _ _).symm, List.length_take_of_le (Nat.not_lt.mp short)⟩
  have body := read_append payload part
  rw [size] at body
  have named : (headerFor (.ofNat next) payloadCrc32).payloadCrc32 = payloadCrc32 := by
    simp only [headerFor]
  by_cases crc : crc32Bytes payload = payloadCrc32
  swap
  · exact .inr (.inr (readBody_damaged (fits.trans size.symm) body (by rw [named]; exact crc) rfl))
  subst crc
  by_cases padded : paddingError .incompletePadding (paddingSize config).toNat part = .none
  · obtain ⟨more, zeros⟩ := (paddingError_none (by decide)).mp padded
    refine .inl ⟨payload, more, size, ?_⟩
    rw [zeros, recordFrame, recordHeader_eq, List.append_assoc, List.append_assoc]
  have answer := @readZeroPadding_error part .incompletePadding
    (alignedRecordSize config - physicalRecordHeaderSize.toUInt64 - config.payloadSize.toUInt64)
  rw [readPadding_toNat readable] at answer
  cases found : readZeroPadding ⟨part, true⟩ (alignedRecordSize config -
      physicalRecordHeaderSize.toUInt64 - config.payloadSize.toUInt64) .incompletePadding with
  | mk error done =>
    rw [found] at answer
    have same : error = paddingError .incompletePadding (paddingSize config).toNat part := answer
    rw [← same] at padded
    have stops := @readBody_unpadded payload buffer (reading config next offset (payload ++ part))
      _ _ _ _ (fits.trans size.symm) body named.symm found padded rfl
    rw [same] at padded stops
    unfold paddingError at padded stops
    split_ifs at padded stops with damaged incomplete
    · exact .inr (.inr stops)
    · refine .inr (.inl (.padding inside size incomplete fun byte member => ?_))
      by_contra some_byte
      rw [checkedPadding, if_neg (Nat.not_le.mpr incomplete)] at damaged
      exact damaged ⟨byte, member, some_byte⟩
    · exact absurd rfl padded

/-- Whatever the file goes on with, it is one of four things. -/
theorem readNext_cases (readable : Readable config) (sequences : next ≤ 2 ^ 64)
    (fits : buffer.length = config.payloadSize.toNat) :
    rest = [] ∨ RecordAhead config next rest ∨ TornTail config next rest ∨
      Stops (readNext (reading config next offset rest) buffer) .corrupted := by
  by_cases some_bytes : rest = []
  · exact .inl some_bytes
  by_cases short : rest.length < 24
  · exact .inr (.inr (.inl (.header some_bytes short)))
  rw [Nat.not_lt] at short
  obtain ⟨header, found⟩ : ∃ header, deserializeRecordHeader (rest.take 24) = some header :=
    ⟨_, if_neg (not_not.mpr (List.length_take_of_le short))⟩
  by_cases refused : next = 2 ^ 64 ∨
      recordHeaderError header (.ofNat (min next (2 ^ 64 - 1))) ≠ .none
  · exact .inr (.inr (.inr (readNext_refused fits short found refused)))
  obtain ⟨more, accepted⟩ := not_or.mp refused
  have inside : next < 2 ^ 64 := by omega
  rw [not_not, Nat.min_eq_left (by omega)] at accepted
  have front := serialize_deserializeRecordHeader found
  rw [recordHeaderError_none.mp accepted] at front
  rw [← List.take_append_drop 24 rest, ← front, readNext_header fits inside]
  rcases @readBody_cases config (rest.drop 24) next offset buffer header.payloadCrc32 readable inside
    fits with ⟨payload, more, size, same⟩ | torn | stops
  · exact .inr (.inl ⟨payload, more, inside, size, same⟩)
  · exact .inr (.inr (.inl torn))
  · exact .inr (.inr (.inr stops))

/-- A reader that has failed keeps its answer. -/
theorem readNext_failed {reader : WalReader} (opened : reader.isOpen = true)
    (failed : reader.failure ≠ .none) : readNext reader buffer =
      ({ status := .failed, error := reader.failure }, buffer, reader) := by
  simp only [readNext, opened, failed, Bool.not_true, Bool.false_eq_true, ne_eq,
    not_false_eq_true, if_false, if_true]

end WalReader

end Fexma.Wal
