import Fexma.Library.ByteLayout
import Fexma.Library.Checksum
import Fexma.Wal.Config

/-! The raw headers of a log file (`format.hpp`, `physical_wal_file.cpp`) and their checksums.
Serialised and structured headers determine each other. -/
namespace Fexma.Wal

open ByteLayout Checksum

structure FileHeader where
  magic : UInt32 := fileMagic
  version : UInt16 := formatVersion
  headerSize : UInt16 := physicalFileHeaderSize
  streamKind : StreamKind := .generic
  flags : UInt16 := 0
  payloadSize : UInt32 := 0
  payloadSchemaVersion : UInt32 := 0
  alignment : UInt32 := defaultAlignment
  recordsOffset : UInt32 := 0
  streamId : StreamId := 0
  epochId : EpochId := 0
  firstSequence : UInt64 := 1
  manifestId : ManifestId := 0
  headerCrc32 : UInt32 := 0
  deriving DecidableEq, Repr

structure RecordHeader where
  magic : UInt32 := recordMagic
  version : UInt16 := formatVersion
  headerSize : UInt16 := physicalRecordHeaderSize
  sequence : UInt64 := 0
  payloadCrc32 : UInt32 := 0
  headerCrc32 : UInt32 := 0
  deriving DecidableEq, Repr

def crc32Bytes (bytes : List UInt8) : UInt32 := ~~~ shiftBytes 0xEDB88320 0xFFFFFFFF bytes

def serializeFileHeader (header : FileHeader) : List UInt8 :=
  let out := List.replicate 64 0
  let out := put out 0 4 header.magic.toNat
  let out := put out 4 2 header.version.toNat
  let out := put out 6 2 header.headerSize.toNat
  let out := put out 8 2 header.streamKind.toUInt16.toNat
  let out := put out 10 2 header.flags.toNat
  let out := put out 12 4 header.payloadSize.toNat
  let out := put out 16 4 header.payloadSchemaVersion.toNat
  let out := put out 20 4 header.alignment.toNat
  let out := put out 24 4 header.recordsOffset.toNat
  let out := put out 28 8 header.streamId.toNat
  let out := put out 36 8 header.epochId.toNat
  let out := put out 44 8 header.firstSequence.toNat
  let out := put out 52 8 header.manifestId.toNat
  put out 60 4 header.headerCrc32.toNat

def serializeRecordHeader (header : RecordHeader) : List UInt8 :=
  let out := List.replicate 24 0
  let out := put out 0 4 header.magic.toNat
  let out := put out 4 2 header.version.toNat
  let out := put out 6 2 header.headerSize.toNat
  let out := put out 8 8 header.sequence.toNat
  let out := put out 16 4 header.payloadCrc32.toNat
  put out 20 4 header.headerCrc32.toNat

def deserializeFileHeader (bytes : List UInt8) : Option FileHeader :=
  if bytes.length ≠ 64 then none
  else some
    { magic := .ofNat (get bytes 0 4)
      version := .ofNat (get bytes 4 2)
      headerSize := .ofNat (get bytes 6 2)
      streamKind := .ofUInt16 (.ofNat (get bytes 8 2))
      flags := .ofNat (get bytes 10 2)
      payloadSize := .ofNat (get bytes 12 4)
      payloadSchemaVersion := .ofNat (get bytes 16 4)
      alignment := .ofNat (get bytes 20 4)
      recordsOffset := .ofNat (get bytes 24 4)
      streamId := .ofNat (get bytes 28 8)
      epochId := .ofNat (get bytes 36 8)
      firstSequence := .ofNat (get bytes 44 8)
      manifestId := .ofNat (get bytes 52 8)
      headerCrc32 := .ofNat (get bytes 60 4) }

def deserializeRecordHeader (bytes : List UInt8) : Option RecordHeader :=
  if bytes.length ≠ 24 then none
  else some
    { magic := .ofNat (get bytes 0 4)
      version := .ofNat (get bytes 4 2)
      headerSize := .ofNat (get bytes 6 2)
      sequence := .ofNat (get bytes 8 8)
      payloadCrc32 := .ofNat (get bytes 16 4)
      headerCrc32 := .ofNat (get bytes 20 4) }

def fileHeaderCrc32 (header : FileHeader) : UInt32 :=
  crc32Bytes (serializeFileHeader { header with headerCrc32 := 0 })

def recordHeaderCrc32 (header : RecordHeader) : UInt32 :=
  crc32Bytes (serializeRecordHeader { header with headerCrc32 := 0 })

/-! ### Field tables -/

/-- The fields of a file header in file order: widths and numbers. -/
def FileHeader.table (header : FileHeader) : List (ℕ × ℕ) :=
  [(4, header.magic.toNat), (2, header.version.toNat), (2, header.headerSize.toNat),
    (2, header.streamKind.toUInt16.toNat), (2, header.flags.toNat), (4, header.payloadSize.toNat),
    (4, header.payloadSchemaVersion.toNat), (4, header.alignment.toNat),
    (4, header.recordsOffset.toNat), (8, header.streamId.toNat), (8, header.epochId.toNat),
    (8, header.firstSequence.toNat), (8, header.manifestId.toNat), (4, header.headerCrc32.toNat)]

def RecordHeader.table (header : RecordHeader) : List (ℕ × ℕ) :=
  [(4, header.magic.toNat), (2, header.version.toNat), (2, header.headerSize.toNat),
    (8, header.sequence.toNat), (4, header.payloadCrc32.toNat), (4, header.headerCrc32.toNat)]

/-- The offsets of the source put the fields side by side. -/
theorem serializeFileHeader_eq (header : FileHeader) :
    serializeFileHeader header = putFields (List.replicate 64 0) 0 header.table := rfl

theorem serializeRecordHeader_eq (header : RecordHeader) :
    serializeRecordHeader header = putFields (List.replicate 24 0) 0 header.table := rfl

@[simp] theorem length_serializeFileHeader (header : FileHeader) :
    (serializeFileHeader header).length = 64 := by
  rw [serializeFileHeader_eq, length_putFields, List.length_replicate]

@[simp] theorem length_serializeRecordHeader (header : RecordHeader) :
    (serializeRecordHeader header).length = 24 := by
  rw [serializeRecordHeader_eq, length_putFields, List.length_replicate]

theorem fields_serializeFileHeader (header : FileHeader) :
    fields (serializeFileHeader header) 0 [4, 2, 2, 2, 2, 4, 4, 4, 4, 8, 8, 8, 8, 4] =
      header.table.map Prod.snd := by
  have widths : header.table.map Prod.fst = [4, 2, 2, 2, 2, 4, 4, 4, 4, 8, 8, 8, 8, 4] := rfl
  rw [serializeFileHeader_eq, ← widths]
  refine fields_putFields (by rw [List.length_replicate, widths]; decide) ?_
  simp only [FileHeader.table, List.forall_mem_cons, List.not_mem_nil, false_implies,
    implies_true, and_true]
  exact ⟨UInt32.toNat_lt _, UInt16.toNat_lt _, UInt16.toNat_lt _, UInt16.toNat_lt _,
    UInt16.toNat_lt _, UInt32.toNat_lt _, UInt32.toNat_lt _, UInt32.toNat_lt _, UInt32.toNat_lt _,
    UInt64.toNat_lt _, UInt64.toNat_lt _, UInt64.toNat_lt _, UInt64.toNat_lt _, UInt32.toNat_lt _⟩

theorem fields_serializeRecordHeader (header : RecordHeader) :
    fields (serializeRecordHeader header) 0 [4, 2, 2, 8, 4, 4] = header.table.map Prod.snd := by
  have widths : header.table.map Prod.fst = [4, 2, 2, 8, 4, 4] := rfl
  rw [serializeRecordHeader_eq, ← widths]
  refine fields_putFields (by rw [List.length_replicate, widths]; decide) ?_
  simp only [RecordHeader.table, List.forall_mem_cons, List.not_mem_nil, false_implies,
    implies_true, and_true]
  exact ⟨UInt32.toNat_lt _, UInt16.toNat_lt _, UInt16.toNat_lt _, UInt64.toNat_lt _,
    UInt32.toNat_lt _, UInt32.toNat_lt _⟩

/-! ### Round trips -/

theorem deserialize_serializeFileHeader (header : FileHeader) :
    deserializeFileHeader (serializeFileHeader header) = some header := by
  have read := fields_serializeFileHeader header
  simp only [fields, FileHeader.table, List.map_cons, List.map_nil, List.cons.injEq, and_true,
    Nat.reduceAdd] at read
  obtain ⟨magic, version, headerSize, streamKind, flags, payloadSize, payloadSchemaVersion,
    alignment, offset, streamId, epochId, firstSequence, manifestId, crc⟩ := read
  rw [deserializeFileHeader, if_neg (not_not.mpr (length_serializeFileHeader header)), magic,
    version, headerSize, streamKind, flags, payloadSize, payloadSchemaVersion, alignment, offset,
    streamId, epochId, firstSequence, manifestId, crc]
  simp only [UInt32.ofNat_toNat, UInt16.ofNat_toNat, UInt64.ofNat_toNat,
    StreamKind.ofUInt16_toUInt16]

theorem deserialize_serializeRecordHeader (header : RecordHeader) :
    deserializeRecordHeader (serializeRecordHeader header) = some header := by
  have read := fields_serializeRecordHeader header
  simp only [fields, RecordHeader.table, List.map_cons, List.map_nil, List.cons.injEq, and_true,
    Nat.reduceAdd] at read
  obtain ⟨magic, version, headerSize, sequence, payloadCrc, headerCrc⟩ := read
  rw [deserializeRecordHeader, if_neg (not_not.mpr (length_serializeRecordHeader header)), magic,
    version, headerSize, sequence, payloadCrc, headerCrc]
  simp only [UInt32.ofNat_toNat, UInt16.ofNat_toNat, UInt64.ofNat_toNat]

/-- Every byte of a header is in one of its fields. -/
theorem serialize_deserializeFileHeader {bytes : List UInt8} {header : FileHeader}
    (read : deserializeFileHeader bytes = some header) : serializeFileHeader header = bytes := by
  rw [deserializeFileHeader] at read
  split_ifs at read with length
  rw [not_not] at length
  cases read
  refine @eq_of_fields _ _ [4, 2, 2, 2, 2, 4, 4, 4, 4, 8, 8, 8, 8, 4]
    (by rw [length_serializeFileHeader]; rfl) (by rw [length]; rfl) ?_
  have small (offset width : ℕ) (inside : offset + width ≤ 64) :
      get bytes offset width < 256 ^ width := get_lt (by omega)
  rw [fields_serializeFileHeader]
  simp only [FileHeader.table, List.map_cons, List.map_nil, fields, Nat.reduceAdd,
    StreamKind.toUInt16_ofUInt16, List.cons.injEq, and_true]
  refine ⟨?_, ?_, ?_, ?_, ?_, ?_, ?_, ?_, ?_, ?_, ?_, ?_, ?_, ?_⟩
  all_goals first
    | exact UInt16.toNat_ofNat_of_lt' (small _ 2 (by omega))
    | exact UInt32.toNat_ofNat_of_lt' (small _ 4 (by omega))
    | exact UInt64.toNat_ofNat_of_lt' (small _ 8 (by omega))

theorem serialize_deserializeRecordHeader {bytes : List UInt8} {header : RecordHeader}
    (read : deserializeRecordHeader bytes = some header) :
    serializeRecordHeader header = bytes := by
  rw [deserializeRecordHeader] at read
  split_ifs at read with length
  rw [not_not] at length
  cases read
  refine @eq_of_fields _ _ [4, 2, 2, 8, 4, 4]
    (by rw [length_serializeRecordHeader]; rfl) (by rw [length]; rfl) ?_
  have small (offset width : ℕ) (inside : offset + width ≤ 24) :
      get bytes offset width < 256 ^ width := get_lt (by omega)
  rw [fields_serializeRecordHeader]
  simp only [RecordHeader.table, List.map_cons, List.map_nil, fields, Nat.reduceAdd,
    List.cons.injEq, and_true]
  refine ⟨?_, ?_, ?_, ?_, ?_, ?_⟩
  all_goals first
    | exact UInt16.toNat_ofNat_of_lt' (small _ 2 (by omega))
    | exact UInt32.toNat_ofNat_of_lt' (small _ 4 (by omega))
    | exact UInt64.toNat_ofNat_of_lt' (small _ 8 (by omega))

/-- Payloads that differ in a single byte have different checksums. -/
theorem byte_eq_of_crc32Bytes_eq {left right : List UInt8} {byte byte' : UInt8}
    (same : crc32Bytes (left ++ byte :: right) = crc32Bytes (left ++ byte' :: right)) :
    byte = byte' := by
  have flipped := congrArg (~~~ ·) same
  simp only [crc32Bytes, UInt32.not_not] at flipped
  exact byte_eq_of_shiftBytes_eq (by decide) flipped

/-! From here on the bytes are used through their lemmas only. -/
attribute [irreducible] crc32Bytes serializeFileHeader serializeRecordHeader

end Fexma.Wal
