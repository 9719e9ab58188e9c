import Fexma.Wal.Format

/-! The adapter that writes the physical log file (`physical_wal_file.cpp`). The operating
system is a device with a state of its own, which answers each call as it likes. -/
namespace Fexma.Wal

/-- The largest offset in a file. -/
def maxFileSize : ℕ := 2 ^ 63 - 1

/-- The content of a file. -/
structure DiskFile where
  bytes : List UInt8
  bounded : bytes.length ≤ maxFileSize

namespace DiskFile

def empty : DiskFile := ⟨[], Nat.zero_le _⟩

/-- A file does not outgrow its largest offset. -/
def append (file : DiskFile) (bytes : List UInt8) : Option DiskFile :=
  if fits : (file.bytes ++ bytes).length ≤ maxFileSize then some ⟨file.bytes ++ bytes, fits⟩
  else none

end DiskFile

inductive CreateAnswer where
  | created
  | alreadyExists
  | failed
  deriving DecidableEq, Repr

/-- The answers of the operating system. A write accepts some of the bytes or fails;
interrupted writes are repeated until they are answered. -/
class Device (δ : Type) where
  create : δ → CreateAnswer × δ
  write : δ → ℕ → Option ℕ × δ
  sync : δ → Bool × δ
  syncParentDirectory : δ → Bool × δ
  close : δ → Bool × δ

/-- A point of a run: what has been written and how much of it a sync has covered. -/
structure Moment where
  bytes : List UInt8
  synced : ℕ
  deriving DecidableEq, Repr

/-- `synced` and `moments` record what happened; no operation reads them. -/
structure PhysicalWalAdapter (δ : Type) where
  device : δ
  file : DiskFile := .empty
  config : WalConfig := {}
  isOpen : Bool := false
  synced : ℕ := 0
  moments : List Moment := []

namespace PhysicalWalAdapter

variable {δ : Type} [Device δ]

/-- `if (!step) return false;` in front of the rest. -/
def andThen (step next : PhysicalWalAdapter δ → Bool × PhysicalWalAdapter δ)
    (adapter : PhysicalWalAdapter δ) : Bool × PhysicalWalAdapter δ :=
  if (step adapter).1 then next (step adapter).2 else (false, (step adapter).2)

/-- The loop of `write_bytes`; every round accepts a byte, so the length bounds the rounds. -/
def writeLoop : ℕ → List UInt8 → PhysicalWalAdapter δ → Bool × PhysicalWalAdapter δ
  | 0, _, adapter => (true, adapter)
  | rounds + 1, bytes, adapter =>
    if bytes = [] then (true, adapter)
    else match Device.write adapter.device bytes.length with
      | (none, device) => (false, { adapter with device })
      | (some written, device) =>
        if written = 0 then (false, { adapter with device })
        else match adapter.file.append (bytes.take written) with
          | none => (false, { adapter with device })
          | some file => writeLoop rounds (bytes.drop written)
              { adapter with
                device, file
                moments := adapter.moments ++ [⟨file.bytes, adapter.synced⟩] }

def writeBytes (bytes : List UInt8) : PhysicalWalAdapter δ → Bool × PhysicalWalAdapter δ :=
  writeLoop bytes.length bytes

/-- The padding loop: chunks of `default_alignment` zeros. -/
def writeZeros : ℕ → ℕ → PhysicalWalAdapter δ → Bool × PhysicalWalAdapter δ
  | 0, _, adapter => (true, adapter)
  | rounds + 1, remaining, adapter =>
    if remaining = 0 then (true, adapter)
    else
      let chunk := min remaining defaultAlignment.toNat
      andThen (writeBytes (List.replicate chunk 0)) (writeZeros rounds (remaining - chunk)) adapter

def sync (adapter : PhysicalWalAdapter δ) : Bool × PhysicalWalAdapter δ :=
  if !adapter.isOpen then (false, adapter)
  else match Device.sync adapter.device with
    | (false, device) => (false, { adapter with device })
    | (true, device) =>
      (true, { adapter with
        device
        synced := adapter.file.bytes.length
        moments := adapter.moments ++ [⟨adapter.file.bytes, adapter.file.bytes.length⟩] })

def syncParentDirectory (adapter : PhysicalWalAdapter δ) : Bool × PhysicalWalAdapter δ :=
  ((Device.syncParentDirectory adapter.device).1,
    { adapter with device := (Device.syncParentDirectory adapter.device).2 })

def close (adapter : PhysicalWalAdapter δ) : Bool × PhysicalWalAdapter δ :=
  if !adapter.isOpen then (true, adapter)
  else ((Device.close adapter.device).1,
    { adapter with isOpen := false, device := (Device.close adapter.device).2 })

/-- What follows a created file: the header, its padding and both syncs. -/
def writeHead (config : WalConfig) : PhysicalWalAdapter δ → Bool × PhysicalWalAdapter δ :=
  let header : FileHeader :=
    { streamKind := config.streamKind
      payloadSize := config.payloadSize
      payloadSchemaVersion := config.payloadSchemaVersion
      alignment := config.alignment
      recordsOffset := recordsOffset config
      streamId := config.streamId
      epochId := config.epochId
      firstSequence := config.firstSequence
      manifestId := config.manifestId }
  let header := { header with headerCrc32 := fileHeaderCrc32 header }
  let remaining := (fileHeaderPaddingSize config).toNat
  andThen (writeBytes (serializeFileHeader header)) <|
    andThen (writeZeros remaining remaining) <| andThen sync syncParentDirectory

/-- The adapter over the empty file that it has just created. -/
def fresh (device : δ) (config : WalConfig) : PhysicalWalAdapter δ :=
  { device, config, isOpen := true, file := .empty, synced := 0, moments := [⟨[], 0⟩] }

def create (config : WalConfig) (adapter : PhysicalWalAdapter δ) :
    OpenStatus × PhysicalWalAdapter δ :=
  if adapter.isOpen then (.ioError, adapter)
  else match Device.create adapter.device with
    | (.alreadyExists, device) => (.fileAlreadyExists, { adapter with device })
    | (.failed, device) => (.ioError, { adapter with device })
    | (.created, device) =>
      match writeHead config (fresh device config) with
      | (false, adapter) => (.ioError, adapter.close.2)
      | (true, adapter) => (.ok, adapter)

def appendRecord (sequence : UInt64) (payload : List UInt8) (adapter : PhysicalWalAdapter δ) :
    Bool × PhysicalWalAdapter δ :=
  if !adapter.isOpen || payload.length ≠ adapter.config.payloadSize.toNat then (false, adapter)
  else
    let header : RecordHeader := { sequence, payloadCrc32 := crc32Bytes payload }
    let header := { header with headerCrc32 := recordHeaderCrc32 header }
    let remaining := (paddingSize adapter.config).toNat
    andThen (writeBytes (serializeRecordHeader header)) (andThen (writeBytes payload)
      (writeZeros remaining remaining)) adapter

end PhysicalWalAdapter

end Fexma.Wal
