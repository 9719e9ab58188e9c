import Fexma.Library.TornLog
import Fexma.Wal.Format

/-! The bytes of a complete log file: the header area of a configuration and one frame for
each record behind it. -/
namespace Fexma.Wal

open TornLog

/-- The header a file is created with. -/
def fileHeader (config : WalConfig) : FileHeader :=
  let header : FileHeader :=
    { streamKind := config.streamKind
      payloadSize := config.payloadSize
      payloadSchemaVersion := config.payloadSchemaVersion
      alignment := config.alignment
      recordsOffset := recordsOffset config
      streamId := config.streamId
      epochId := config.epochId
      firstSequence := config.firstSequence
      manifestId := config.manifestId }
  { header with headerCrc32 := fileHeaderCrc32 header }

/-- The header a record is appended with. -/
def recordHeader (sequence : UInt64) (payload : List UInt8) : RecordHeader :=
  let header : RecordHeader := { sequence, payloadCrc32 := crc32Bytes payload }
  { header with headerCrc32 := recordHeaderCrc32 header }

/-- The header and its padding up to the first record. -/
def fileHead (config : WalConfig) : List UInt8 :=
  serializeFileHeader (fileHeader config) ++
    List.replicate (fileHeaderPaddingSize config).toNat 0

/-- One record with its padding. -/
def recordFrame (config : WalConfig) (sequence : UInt64) (payload : List UInt8) : List UInt8 :=
  serializeRecordHeader (recordHeader sequence payload) ++
    (payload ++ List.replicate (paddingSize config).toNat 0)

/-- The records of some payloads, with consecutive sequences. -/
def recordFrames (config : WalConfig) : UInt64 → List (List UInt8) → List (List UInt8)
  | _, [] => []
  | sequence, payload :: payloads =>
    recordFrame config sequence payload :: recordFrames config (sequence + 1) payloads

def fileImage (config : WalConfig) (payloads : List (List UInt8)) : List UInt8 :=
  fileHead config ++ (recordFrames config config.firstSequence payloads).flatten

/-- Payloads a log can hold: of the configured size, and no more than there are sequences. -/
structure Loggable (config : WalConfig) (payloads : List (List UInt8)) : Prop where
  sizes : ∀ payload ∈ payloads, payload.length = config.payloadSize.toNat
  sequences : config.firstSequence.toNat + payloads.length ≤ 2 ^ 64

variable {config : WalConfig} {payload : List UInt8} {payloads more : List (List UInt8)}
variable {sequence : UInt64} {n : ℕ}

theorem Loggable.take (loggable : Loggable config payloads) : Loggable config (payloads.take n) := by
  refine ⟨fun payload member => loggable.sizes payload (List.mem_of_mem_take member), ?_⟩
  have fewer := List.length_take_le' n payloads
  exact (Nat.add_le_add_left fewer _).trans loggable.sequences

theorem length_fileHead (valid : Valid config) :
    (fileHead config).length = (recordsOffset config).toNat := by
  have above := @le_alignUp 64 _ (toNat_pos valid.aligned)
  rw [fileHead, List.length_append, length_serializeFileHeader, List.length_replicate,
    fileHeaderPaddingSize_toNat valid.aligned valid.offset]
  have offset := recordsOffset_toNat valid.aligned valid.offset
  omega

theorem length_recordFrame (valid : Valid config)
    (size : payload.length = config.payloadSize.toNat) :
    (recordFrame config sequence payload).length = (alignedRecordSize config).toNat := by
  have above := @le_alignUp (24 + config.payloadSize.toNat) _ (toNat_pos valid.aligned)
  have stride := alignedRecordSize_toNat valid.aligned
  rw [recordFrame, List.length_append, List.length_append, length_serializeRecordHeader,
    List.length_replicate, paddingSize_toNat valid.aligned, size]
  omega

/-- A record is never empty. -/
theorem recordFrame_ne_nil : recordFrame config sequence payload ≠ [] := by
  intro none
  have length := congrArg List.length none
  rw [recordFrame, List.length_append, length_serializeRecordHeader, List.length_nil] at length
  omega

theorem length_recordFrames : (recordFrames config sequence payloads).length = payloads.length := by
  induction payloads generalizing sequence with
  | nil => rfl
  | cons payload payloads ih => rw [recordFrames, List.length_cons, ih, List.length_cons]

theorem recordFrames_append : recordFrames config sequence (payloads ++ more) =
    recordFrames config sequence payloads ++
      recordFrames config (sequence + UInt64.ofNat payloads.length) more := by
  induction payloads generalizing sequence with
  | nil => simp [recordFrames]
  | cons payload payloads ih =>
    rw [List.cons_append, recordFrames, recordFrames, ih, List.cons_append, List.length_cons,
      UInt64.ofNat_add, UInt64.add_assoc, UInt64.add_comm 1]
    rfl

theorem take_recordFrames : (recordFrames config sequence payloads).take n =
    recordFrames config sequence (payloads.take n) := by
  induction payloads generalizing sequence n with
  | nil => simp [recordFrames]
  | cons payload payloads ih =>
    cases n with
    | zero => rfl
    | succ n => rw [recordFrames, List.take_succ_cons, ih, List.take_succ_cons, recordFrames]

/-- The first records of a log are the log of the first payloads. -/
theorem fileImage_take : fileImage config (payloads.take n) =
    fileHead config ++ kept (recordFrames config config.firstSequence payloads) n := by
  rw [fileImage, kept, take_recordFrames]

theorem length_flatten_recordFrames (valid : Valid config)
    (sizes : ∀ payload ∈ payloads, payload.length = config.payloadSize.toNat) :
    (recordFrames config sequence payloads).flatten.length =
      payloads.length * (alignedRecordSize config).toNat := by
  induction payloads generalizing sequence with
  | nil => simp [recordFrames]
  | cons payload payloads ih =>
    rw [recordFrames, List.flatten_cons, List.length_append,
      length_recordFrame valid (sizes payload (by simp)),
      ih fun other member => sizes other (by simp [member]), List.length_cons, Nat.succ_mul,
      Nat.add_comm]

/-- A complete log of n records: the header area and n strides. -/
theorem length_fileImage (valid : Valid config)
    (sizes : ∀ payload ∈ payloads, payload.length = config.payloadSize.toNat) :
    (fileImage config payloads).length =
      (recordsOffset config).toNat + payloads.length * (alignedRecordSize config).toNat := by
  rw [fileImage, List.length_append, length_fileHead valid, length_flatten_recordFrames valid sizes]

theorem fileImage_append : fileImage config (payloads ++ more) = fileImage config payloads ++
    (recordFrames config (config.firstSequence + UInt64.ofNat payloads.length) more).flatten := by
  rw [fileImage, fileImage, recordFrames_append, List.flatten_append, List.append_assoc]

theorem fileImage_prefix : fileImage config payloads <+: fileImage config (payloads ++ more) := by
  rw [fileImage_append]
  exact List.prefix_append _ _

end Fexma.Wal
