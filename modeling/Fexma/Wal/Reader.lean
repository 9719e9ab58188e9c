import Fexma.Wal.Format
import Fexma.Wal.PhysicalFile

/-! The validated sequential reader and the scanner (`reader.cpp`). Reads do not fail; they
come to the end of the file. -/
namespace Fexma.Wal

inductive WalReadError where
  | none
  | ioError
  | incompleteFileHeader
  | invalidFileMagic
  | unsupportedFormatVersion
  | invalidFileHeaderSize
  | invalidFileHeaderCrc
  | invalidStreamKind
  | unsupportedFlags
  | identityMismatch
  | invalidPhysicalLayout
  | incompleteRecordHeader
  | invalidRecordMagic
  | invalidRecordHeaderSize
  | invalidRecordHeaderCrc
  | unexpectedSequence
  | incompletePayload
  | invalidPayloadCrc
  | incompletePadding
  | nonZeroPadding
  deriving DecidableEq, Repr

inductive ReaderOpenStatus where
  | ok
  | invalidConfig
  | failed
  | alreadyOpen
  deriving DecidableEq, Repr

structure ReaderOpenResult where
  status : ReaderOpenStatus := .failed
  error : WalReadError := .none
  deriving DecidableEq, Repr

inductive ReadStatus where
  | record
  | endOfLog
  | invalidPayloadSize
  | failed
  | closed
  deriving DecidableEq, Repr

structure ReadResult where
  status : ReadStatus := .closed
  error : WalReadError := .none
  sequence : UInt64 := 0
  deriving DecidableEq, Repr

inductive ScanStatus where
  | clean
  | incompleteTail
  | corrupted
  | invalidConfig
  | ioError
  deriving DecidableEq, Repr

structure ScanResult where
  status : ScanStatus := .ioError
  error : WalReadError := .none
  records : UInt64 := 0
  lastSequence : UInt64 := 0
  lastValidOffset : UInt64 := 0
  deriving DecidableEq, Repr

/-! ### The physical reader -/

inductive PhysicalReadStatus where
  | complete
  | endOfFile
  | incomplete
  | ioError
  deriving DecidableEq, Repr

/-- What is left to read of an open file. -/
structure PhysicalWalReaderAdapter where
  remaining : List UInt8 := []
  isOpen : Bool := false

/-- The read loop goes on to the end of the file: the bytes it got stand in the result. -/
def PhysicalWalReaderAdapter.read (adapter : PhysicalWalReaderAdapter) (count : ℕ) :
    PhysicalReadStatus × List UInt8 × PhysicalWalReaderAdapter :=
  if !adapter.isOpen then (.ioError, [], adapter)
  else
    let bytes := adapter.remaining.take count
    let rest := { adapter with remaining := adapter.remaining.drop count }
    if bytes.length = count then (.complete, bytes, rest)
    else if bytes = [] then (.endOfFile, bytes, rest)
    else (.incomplete, bytes, rest)

/-- The loop over chunks of 4096 bytes; every chunk takes a byte, so the size bounds them. -/
def readZeroLoop (incompleteError : WalReadError) :
    ℕ → ℕ → PhysicalWalReaderAdapter → WalReadError × PhysicalWalReaderAdapter
  | 0, _, reader => (.none, reader)
  | chunks + 1, size, reader =>
    if size = 0 then (.none, reader)
    else
      let chunk := min size 4096
      let (status, buffer, reader) := reader.read chunk
      if status = .ioError then (.ioError, reader)
      else if status ≠ .complete then (incompleteError, reader)
      else if !buffer.all (· = 0) then (.nonZeroPadding, reader)
      else readZeroLoop incompleteError chunks (size - chunk) reader

def readZeroPadding (reader : PhysicalWalReaderAdapter) (size : UInt64)
    (incompleteError : WalReadError) : WalReadError × PhysicalWalReaderAdapter :=
  readZeroLoop incompleteError size.toNat size.toNat reader

/-! ### The reader -/

def samePersistedConfig (header : FileHeader) (expected : WalConfig) : Bool :=
  header.streamKind = expected.streamKind && header.payloadSize = expected.payloadSize &&
    header.payloadSchemaVersion = expected.payloadSchemaVersion &&
    header.alignment = expected.alignment && header.streamId = expected.streamId &&
    header.epochId = expected.epochId && header.firstSequence = expected.firstSequence &&
    header.manifestId = expected.manifestId

def validReaderConfig (expected : WalConfig) : Bool := validConfig { expected with capacity := 1 }

/-- The configuration a file header names. -/
def FileHeader.actual (header : FileHeader) : WalConfig :=
  { payloadSize := header.payloadSize
    capacity := 1
    alignment := header.alignment
    payloadSchemaVersion := header.payloadSchemaVersion
    streamKind := header.streamKind
    streamId := header.streamId
    epochId := header.epochId
    firstSequence := header.firstSequence
    manifestId := header.manifestId }

/-- The first check that a file header fails. -/
def fileHeaderError (header : FileHeader) (expected : WalConfig) : WalReadError :=
  if header.magic ≠ fileMagic then .invalidFileMagic
  else if header.version ≠ formatVersion then .unsupportedFormatVersion
  else if header.headerSize ≠ physicalFileHeaderSize then .invalidFileHeaderSize
  else if fileHeaderCrc32 header ≠ header.headerCrc32 then .invalidFileHeaderCrc
  else if !header.streamKind.valid then .invalidStreamKind
  else if header.flags ≠ 0 then .unsupportedFlags
  else if !validConfig header.actual || header.recordsOffset ≠ recordsOffset header.actual then
    .invalidPhysicalLayout
  else if !samePersistedConfig header expected then .identityMismatch
  else .none

/-- The first check that a record header fails. -/
def recordHeaderError (header : RecordHeader) (nextSequence : UInt64) : WalReadError :=
  if header.magic ≠ recordMagic then .invalidRecordMagic
  else if header.version ≠ formatVersion then .unsupportedFormatVersion
  else if header.headerSize ≠ physicalRecordHeaderSize then .invalidRecordHeaderSize
  else if recordHeaderCrc32 header ≠ header.headerCrc32 then .invalidRecordHeaderCrc
  else if header.sequence ≠ nextSequence then .unexpectedSequence
  else .none

structure WalReader where
  physicalReader : PhysicalWalReaderAdapter := {}
  config : WalConfig := {}
  nextSequence : UInt64 := 0
  nextOffset : UInt64 := 0
  failure : WalReadError := .none
  sequenceExhausted : Bool := false
  isOpen : Bool := false

namespace WalReader

/-- Closing resets everything. -/
def close (_reader : WalReader) : WalReader := {}

def fail (reader : WalReader) (error : WalReadError) : WalReader := { reader with failure := error }

/-- A file that cannot be opened is none. -/
def open_ (reader : WalReader) (file : Option DiskFile) (expected : WalConfig) :
    ReaderOpenResult × WalReader :=
  if reader.isOpen then ({ status := .alreadyOpen }, reader)
  else if !validReaderConfig expected then ({ status := .invalidConfig }, reader)
  else match file with
    | none => ({ status := .failed, error := .ioError }, { reader with physicalReader := {} })
    | some file =>
      let physicalReader : PhysicalWalReaderAdapter := { remaining := file.bytes, isOpen := true }
      let (readStatus, bytes, physicalReader) := physicalReader.read 64
      if readStatus ≠ .complete then
        let error := if readStatus = .ioError then .ioError else .incompleteFileHeader
        ({ status := .failed, error }, reader.close)
      else
        let header := (deserializeFileHeader bytes).getD {}
        let error := fileHeaderError header expected
        if error ≠ .none then ({ status := .failed, error }, reader.close)
        else
          let headerPadding := (header.recordsOffset - physicalFileHeaderSize.toUInt32).toUInt64
          let (error, physicalReader) :=
            readZeroPadding physicalReader headerPadding .incompleteFileHeader
          if error ≠ .none then
            let error := if error = .nonZeroPadding then .invalidPhysicalLayout else error
            ({ status := .failed, error }, reader.close)
          else
            ({ status := .ok },
              { physicalReader
                config := expected
                nextSequence := expected.firstSequence
                nextOffset := header.recordsOffset.toUInt64
                failure := .none
                sequenceExhausted := false
                isOpen := true })

/-- The state behind an accepted record. -/
def advance (reader : WalReader) : WalReader :=
  { reader with
    nextSequence := if reader.nextSequence = maxUInt64 then reader.nextSequence
      else reader.nextSequence + 1
    sequenceExhausted := reader.sequenceExhausted || reader.nextSequence = maxUInt64
    nextOffset := reader.nextOffset + alignedRecordSize reader.config }

/-- The part of `read_next` behind an accepted header. What was read of a payload stands in
the caller's buffer afterwards. -/
def readBody (reader : WalReader) (header : RecordHeader) (payload : List UInt8) :
    ReadResult × List UInt8 × WalReader :=
  let (payloadStatus, bytes, physicalReader) :=
    reader.physicalReader.read reader.config.payloadSize.toNat
  let reader := { reader with physicalReader }
  let payload := bytes ++ payload.drop bytes.length
  if payloadStatus ≠ .complete then
    let error := if payloadStatus = .ioError then .ioError else .incompletePayload
    ({ status := .failed, error }, payload, reader.fail error)
  else if crc32Bytes payload ≠ header.payloadCrc32 then
    ({ status := .failed, error := .invalidPayloadCrc }, payload, reader.fail .invalidPayloadCrc)
  else
    let padding := alignedRecordSize reader.config - physicalRecordHeaderSize.toUInt64 -
      reader.config.payloadSize.toUInt64
    let padded := readZeroPadding reader.physicalReader padding .incompletePadding
    let reader := { reader with physicalReader := padded.2 }
    if padded.1 ≠ .none then
      ({ status := .failed, error := padded.1 }, payload, reader.fail padded.1)
    else
      ({ status := .record, sequence := reader.nextSequence }, payload, reader.advance)

/-- `payload` is the caller's buffer. -/
def readNext (reader : WalReader) (payload : List UInt8) : ReadResult × List UInt8 × WalReader :=
  if !reader.isOpen then ({ status := .closed }, payload, reader)
  else if reader.failure ≠ .none then
    ({ status := .failed, error := reader.failure }, payload, reader)
  else if payload.length ≠ reader.config.payloadSize.toNat then
    ({ status := .invalidPayloadSize }, payload, reader)
  else
    let (headerStatus, headerBytes, physicalReader) := reader.physicalReader.read 24
    let reader := { reader with physicalReader }
    if headerStatus = .endOfFile then ({ status := .endOfLog }, payload, reader)
    else if headerStatus ≠ .complete then
      let error := if headerStatus = .ioError then .ioError else .incompleteRecordHeader
      ({ status := .failed, error }, payload, reader.fail error)
    else if reader.sequenceExhausted then
      ({ status := .failed, error := .unexpectedSequence }, payload, reader.fail .unexpectedSequence)
    else
      let header := (deserializeRecordHeader headerBytes).getD {}
      let error := recordHeaderError header reader.nextSequence
      if error ≠ .none then ({ status := .failed, error }, payload, reader.fail error)
      else reader.readBody header payload

end WalReader

/-! ### The scanner -/

def scanStatusFor : WalReadError → ScanStatus
  | .incompleteRecordHeader | .incompletePayload | .incompletePadding => .incompleteTail
  | .ioError => .ioError
  | _ => .corrupted

/-- The read loop; every record takes bytes of the file, so its length bounds the rounds. -/
def scanLoop : ℕ → WalReader → List UInt8 → ScanResult → ScanResult
  | 0, _, _, result => result
  | rounds + 1, reader, payload, result =>
    let (read, payload, reader) := reader.readNext payload
    if read.status = .record then
      scanLoop rounds reader payload
        { result with
          records := result.records + 1
          lastSequence := read.sequence
          lastValidOffset := reader.nextOffset }
    else if read.status = .endOfLog then result
    else { result with status := scanStatusFor read.error, error := read.error }

def scanWal (file : Option DiskFile) (expected : WalConfig) : ScanResult :=
  let (opened, reader) := ({} : WalReader).open_ file expected
  if opened.status ≠ .ok then
    { status := if opened.status = .invalidConfig then .invalidConfig
        else if opened.error = .ioError then .ioError else .corrupted
      error := opened.error }
  else
    scanLoop ((file.map (·.bytes.length)).getD 0 + 1) reader
      (List.replicate expected.payloadSize.toNat 0)
      { status := .clean, error := .none, lastValidOffset := reader.nextOffset }

end Fexma.Wal
