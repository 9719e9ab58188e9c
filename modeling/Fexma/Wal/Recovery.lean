import Fexma.Wal.Reader

/-! Removal of an incomplete tail (`recovery.cpp`). The operating system may refuse each step
of the truncation. -/
namespace Fexma.Wal

inductive RecoveryStatus where
  | clean
  | recovered
  | refused
  | invalidConfig
  | ioError
  deriving DecidableEq, Repr

structure RecoveryResult where
  status : RecoveryStatus := .ioError
  error : WalReadError := .none
  records : UInt64 := 0
  lastSequence : UInt64 := 0
  lastValidOffset : UInt64 := 0
  originalSize : UInt64 := 0
  recoveredSize : UInt64 := 0
  removedBytes : UInt64 := 0
  deriving DecidableEq, Repr

namespace DiskFile

def size (file : DiskFile) : UInt64 := .ofNat file.bytes.length

def truncate (file : DiskFile) (size : ℕ) : DiskFile :=
  ⟨file.bytes.take size, (List.length_take_le' _ _).trans file.bounded⟩

end DiskFile

/-- Which steps of a truncation the operating system serves. -/
structure TruncationAnswers where
  opened : Bool := true
  truncated : Bool := true
  synced : Bool := true
  closed : Bool := true

def truncateAndSync (answers : TruncationAnswers) (file : DiskFile) (size : UInt64) :
    Bool × DiskFile :=
  if size.toNat > maxFileSize || !answers.opened || !answers.truncated then (false, file)
  else (answers.synced && answers.closed, file.truncate size.toNat)

def resultFromScan (status : RecoveryStatus) (scan : ScanResult)
    (originalSize recoveredSize : UInt64) : RecoveryResult :=
  { status
    error := scan.error
    records := scan.records
    lastSequence := scan.lastSequence
    lastValidOffset := scan.lastValidOffset
    originalSize
    recoveredSize
    removedBytes := if originalSize ≥ recoveredSize then originalSize - recoveredSize else 0 }

/-- What follows a scan that has found an incomplete tail. -/
def removeTail (answers : TruncationAnswers) (file : DiskFile) (expected : WalConfig)
    (before : ScanResult) : RecoveryResult × DiskFile :=
  if before.lastValidOffset > file.size then
    (resultFromScan .ioError before file.size file.size, file)
  else
    let truncation := truncateAndSync answers file before.lastValidOffset
    if !truncation.1 then
      (resultFromScan .ioError before file.size truncation.2.size, truncation.2)
    else
      let recoveredSize := truncation.2.size
      let after := scanWal (some truncation.2) expected
      if after.status ≠ .clean || recoveredSize ≠ before.lastValidOffset ||
          after.lastValidOffset ≠ before.lastValidOffset || after.records ≠ before.records ||
          after.lastSequence ≠ before.lastSequence then
        (resultFromScan .ioError after file.size recoveredSize, truncation.2)
      else
        ({ resultFromScan .recovered after file.size recoveredSize with error := before.error },
          truncation.2)

/-- The result, and the file that is left. -/
def recoverIncompleteTail (answers : TruncationAnswers) (file : Option DiskFile)
    (expected : WalConfig) : RecoveryResult × Option DiskFile :=
  match file with
  | none => ({ status := .ioError, error := .ioError }, none)
  | some file =>
    let before := scanWal (some file) expected
    match before.status with
    | .clean => (resultFromScan .clean before file.size file.size, some file)
    | .invalidConfig => (resultFromScan .invalidConfig before file.size file.size, some file)
    | .corrupted => (resultFromScan .refused before file.size file.size, some file)
    | .ioError => (resultFromScan .ioError before file.size file.size, some file)
    | .incompleteTail => ((removeTail answers file expected before).1,
        some (removeTail answers file expected before).2)

end Fexma.Wal
