import Fexma.Library.GuardedArithmetic
import Fexma.Wal.ReaderProofs
import Mathlib.Data.UInt

/-! The arithmetic of the file layout: sizes and paddings of a valid configuration as numbers,
and the checks on an untrusted header, evaluated step by step with every subtraction, division
and shift guarded. The checksum is arithmetic on bits modulo 2^32 and no part of the layout. -/
namespace Fexma.Wal

open ByteLayout GuardedArithmetic

namespace Guarded

/-! ### The checks, step by step -/

def checkedAdd (left right : UInt64) : Guarded (Option UInt64) := do
  let room ← subtract 0xFFFFFFFFFFFFFFFF right
  return if left > room then none else some (left + right)

def checkedMul (left right : UInt64) : Guarded (Option UInt64) :=
  if left = 0 then return some (left * right)
  else do
    let most ← divide 0xFFFFFFFFFFFFFFFF left
    return if right > most then none else some (left * right)

def checkedAlignUp (value alignment : UInt64) : Guarded (Option UInt64) := do
  let mask ← subtract alignment 1
  match ← checkedAdd value mask with
  | none => return none
  | some biased =>
    let count ← divide biased alignment
    return some (count * alignment)

def alignedRecordSize (config : WalConfig) : Guarded UInt64 := do
  match ← checkedAdd physicalRecordHeaderSize.toUInt64 config.payloadSize.toUInt64 with
  | none => return 0
  | some rawSize =>
    let stride ← checkedAlignUp rawSize config.alignment.toUInt64
    return stride.getD 0

def recordsOffset (config : WalConfig) : Guarded UInt32 := do
  let offset ← checkedAlignUp physicalFileHeaderSize.toUInt64 config.alignment.toUInt64
  return offset.elim 0 fun offset => if offset > 0xFFFFFFFF then 0 else offset.toUInt32

/-- The last part of `valid_config`: the storage fits and the layout has its sizes. -/
def validLayout (config : WalConfig) : Guarded Bool := do
  match ← checkedAlignUp config.payloadSize.toUInt64 config.alignment.toUInt64 with
  | none => return false
  | some storageStride =>
    match ← checkedMul storageStride config.capacity.toUInt64 with
    | none => return false
    | some _ =>
      let offset ← recordsOffset config
      if offset = 0 then return false
      else
        let size ← alignedRecordSize config
        return size ≠ 0

def validConfig (config : WalConfig) : Guarded Bool :=
  if config.payloadSize = 0 || config.capacity = 0 || config.alignment < pointerAlignment ||
      config.firstSequence = 0 || !config.streamKind.valid then return false
  else if config.streamKind ≠ .generic &&
      (config.streamId = 0 || config.epochId = 0 || config.manifestId = 0) then return false
  else do
    let mask ← subtract config.alignment 1
    if config.alignment &&& mask ≠ 0 then return false else validLayout config

/-- `get_u16_le`, `get_u32_le` and `get_u64_le`: each byte is shifted to its place. -/
def getLe (bytes : List UInt8) (offset : ℕ) : ℕ → Guarded ℕ
  | 0 => return 0
  | width + 1 => do
    let value ← getLe bytes offset width
    let shifted ← shiftLeft (bytes.getD (offset + width) 0).toNat (8 * width)
    return value ||| shifted.toNat

def deserializeFileHeader (bytes : List UInt8) : Guarded FileHeader := do
  let magic ← getLe bytes 0 4
  let version ← getLe bytes 4 2
  let headerSize ← getLe bytes 6 2
  let streamKind ← getLe bytes 8 2
  let flags ← getLe bytes 10 2
  let payloadSize ← getLe bytes 12 4
  let payloadSchemaVersion ← getLe bytes 16 4
  let alignment ← getLe bytes 20 4
  let recordsOffset ← getLe bytes 24 4
  let streamId ← getLe bytes 28 8
  let epochId ← getLe bytes 36 8
  let firstSequence ← getLe bytes 44 8
  let manifestId ← getLe bytes 52 8
  let headerCrc32 ← getLe bytes 60 4
  return { magic := .ofNat magic
           version := .ofNat version
           headerSize := .ofNat headerSize
           streamKind := .ofUInt16 (.ofNat streamKind)
           flags := .ofNat flags
           payloadSize := .ofNat payloadSize
           payloadSchemaVersion := .ofNat payloadSchemaVersion
           alignment := .ofNat alignment
           recordsOffset := .ofNat recordsOffset
           streamId := .ofNat streamId
           epochId := .ofNat epochId
           firstSequence := .ofNat firstSequence
           manifestId := .ofNat manifestId
           headerCrc32 := .ofNat headerCrc32 }

def fileHeaderError (header : FileHeader) (expected : WalConfig) : Guarded WalReadError :=
  if header.magic ≠ fileMagic then return .invalidFileMagic
  else if header.version ≠ formatVersion then return .unsupportedFormatVersion
  else if header.headerSize ≠ physicalFileHeaderSize then return .invalidFileHeaderSize
  else if fileHeaderCrc32 header ≠ header.headerCrc32 then return .invalidFileHeaderCrc
  else if !header.streamKind.valid then return .invalidStreamKind
  else if header.flags ≠ 0 then return .unsupportedFlags
  else do
    if !(← validConfig header.actual) then return .invalidPhysicalLayout
    else if header.recordsOffset ≠ (← recordsOffset header.actual) then return .invalidPhysicalLayout
    else if !samePersistedConfig header expected then return .identityMismatch
    else return .none

/-- What `WalReader::open` evaluates between reading the header and reading its padding: the
error, or the size of the padding. -/
def checkHeader (bytes : List UInt8) (expected : WalConfig) : Guarded (WalReadError ⊕ UInt64) := do
  let header ← deserializeFileHeader bytes
  let error ← fileHeaderError header expected
  if error ≠ .none then return .inl error
  else
    let padding ← subtract header.recordsOffset physicalFileHeaderSize.toUInt32
    return .inr padding.toUInt64

/-! ### No fault is met -/

theorem checkedAdd_eq (left right : UInt64) : checkedAdd left right = .ok (Wal.checkedAdd left right) := by
  have ordered : ¬ 0xFFFFFFFFFFFFFFFF < right := by
    have small := right.toNat_lt
    rw [UInt64.lt_iff_toNat_lt, Nat.not_lt]
    exact Nat.le_of_lt_succ small
  rw [checkedAdd, subtract_ok ordered]
  rfl

theorem checkedMul_eq (left right : UInt64) : checkedMul left right = .ok (Wal.checkedMul left right) := by
  unfold checkedMul Wal.checkedMul
  by_cases zero : left = 0
  · simp [zero]
    rfl
  · rw [if_neg zero, divide_ok zero]
    simp [zero]

theorem checkedAlignUp_eq {value alignment : UInt64} (positive : alignment ≠ 0) :
    checkedAlignUp value alignment = .ok (Wal.checkedAlignUp value alignment) := by
  have ordered : ¬ alignment < 1 := by
    intro below
    rw [UInt64.lt_iff_toNat_lt] at below
    exact positive (UInt64.toNat_inj.mp (Nat.lt_one_iff.mp below))
  rw [checkedAlignUp, subtract_ok ordered, ok_bind, checkedAdd_eq, ok_bind, Wal.checkedAlignUp]
  cases Wal.checkedAdd value (alignment - 1) with
  | none => rfl
  | some biased =>
    dsimp only
    rw [divide_ok positive, ok_bind]
    rfl

theorem alignedRecordSize_eq {config : WalConfig} (aligned : config.alignment.toUInt64 ≠ 0) :
    alignedRecordSize config = .ok (Wal.alignedRecordSize config) := by
  rw [alignedRecordSize, checkedAdd_eq, ok_bind, Wal.alignedRecordSize]
  cases Wal.checkedAdd physicalRecordHeaderSize.toUInt64 config.payloadSize.toUInt64 with
  | none => rfl
  | some rawSize =>
    dsimp only
    rw [checkedAlignUp_eq aligned, ok_bind, Option.bind_some]
    rfl

theorem recordsOffset_eq {config : WalConfig} (aligned : config.alignment.toUInt64 ≠ 0) :
    recordsOffset config = .ok (Wal.recordsOffset config) := by
  rw [recordsOffset, checkedAlignUp_eq aligned, ok_bind]
  rfl

theorem validLayout_eq {config : WalConfig} (aligned : config.alignment.toUInt64 ≠ 0) :
    validLayout config = .ok
      (if ((Wal.checkedAlignUp config.payloadSize.toUInt64 config.alignment.toUInt64).bind
        fun storageStride => Wal.checkedMul storageStride config.capacity.toUInt64).isNone then false
      else Wal.recordsOffset config ≠ 0 && Wal.alignedRecordSize config ≠ 0) := by
  rw [validLayout, checkedAlignUp_eq aligned, ok_bind]
  cases Wal.checkedAlignUp config.payloadSize.toUInt64 config.alignment.toUInt64 with
  | none => rfl
  | some storageStride =>
    dsimp only
    rw [checkedMul_eq, ok_bind, Option.bind_some]
    generalize Wal.checkedMul storageStride config.capacity.toUInt64 = storage
    cases storage with
    | none => rfl
    | some storage =>
      have fits : ¬ (some storage).isNone = true := Bool.false_ne_true
      dsimp only
      rw [recordsOffset_eq aligned, ok_bind, alignedRecordSize_eq aligned, ok_bind, if_neg fits]
      by_cases zero : Wal.recordsOffset config = 0
      · rw [if_pos zero, zero]
        rfl
      · rw [if_neg zero, decide_eq_true zero, Bool.true_and]
        rfl

/-- The checks on a configuration meet no fault, whatever the configuration is. -/
theorem validConfig_eq (config : WalConfig) : validConfig config = .ok (Wal.validConfig config) := by
  rw [validConfig, Wal.validConfig]
  by_cases basic : (decide (config.payloadSize = 0) || decide (config.capacity = 0) ||
      decide (config.alignment < pointerAlignment) || decide (config.firstSequence = 0) ||
      !config.streamKind.valid) = true
  · rw [if_pos basic, if_pos basic]
    rfl
  rw [if_neg basic, if_neg basic]
  by_cases naming : (decide (config.streamKind ≠ .generic) &&
      (decide (config.streamId = 0) || decide (config.epochId = 0) ||
        decide (config.manifestId = 0))) = true
  · rw [if_pos naming, if_pos naming]
    rfl
  rw [if_neg naming, if_neg naming]
  -- an alignment that is not below that of a pointer is not zero
  have wide : 8 ≤ config.alignment.toNat := by
    simp only [Bool.or_eq_true, decide_eq_true_eq, not_or] at basic
    have least := basic.1.1.2
    rw [UInt32.lt_iff_toNat_lt, Nat.not_lt] at least
    exact least
  have aligned : config.alignment ≠ 0 := by
    rintro zero
    rw [zero] at wide
    exact absurd wide (by decide)
  have ordered : ¬ config.alignment < 1 := by
    rw [UInt32.lt_iff_toNat_lt, Nat.not_lt]
    exact Nat.le_trans (by decide) wide
  rw [subtract_ok ordered, ok_bind]
  by_cases power : config.alignment &&& (config.alignment - 1) ≠ 0
  · rw [if_pos power, if_pos power]
    rfl
  · rw [if_neg power, if_neg power, validLayout_eq (toUInt64_ne_zero aligned)]

theorem getLe_eq {bytes : List UInt8} {offset width : ℕ} (inside : offset + width ≤ bytes.length) :
    getLe bytes offset width = .ok (get bytes offset width) := by
  induction width with
  | zero => rfl
  | succ width ih =>
    have small : get bytes offset width < 2 ^ (8 * width) := by
      rw [Nat.pow_mul]
      exact get_lt (by omega)
    have joined := Nat.two_pow_add_eq_or_of_lt small (bytes.getD (offset + width) 0).toNat
    have value : (((bytes.getD (offset + width) 0).toNat : ℤ) * 2 ^ (8 * width)).toNat =
        2 ^ (8 * width) * (bytes.getD (offset + width) 0).toNat := by
      have cast : (((bytes.getD (offset + width) 0).toNat : ℤ) * 2 ^ (8 * width)) =
          ((2 ^ (8 * width) * (bytes.getD (offset + width) 0).toNat : ℕ) : ℤ) := by
        push_cast
        ring
      rw [cast, Int.toNat_natCast]
    have base : 256 ^ width = 2 ^ (8 * width) := (Nat.pow_mul 2 8 width).symm
    rw [getLe, ih (by omega), ok_bind, shiftLeft_ok, ok_bind, get_succ (by omega), value, base,
      Nat.or_comm, ← joined, Nat.add_comm]
    rfl

theorem deserializeFileHeader_eq {bytes : List UInt8} (length : bytes.length = 64) :
    deserializeFileHeader bytes = .ok ((Wal.deserializeFileHeader bytes).getD {}) := by
  unfold deserializeFileHeader
  simp (disch := omega) only [getLe_eq, ok_bind]
  rw [Wal.deserializeFileHeader, if_neg (not_not.mpr length)]
  rfl

theorem fileHeaderError_eq (header : FileHeader) (expected : WalConfig) :
    fileHeaderError header expected = .ok (Wal.fileHeaderError header expected) := by
  have layout : (do
      if !(← validConfig header.actual) then return .invalidPhysicalLayout
      else if header.recordsOffset ≠ (← recordsOffset header.actual) then
        return .invalidPhysicalLayout
      else if !samePersistedConfig header expected then return .identityMismatch
      else return .none : Guarded WalReadError) = .ok
        (if !Wal.validConfig header.actual || header.recordsOffset ≠ Wal.recordsOffset header.actual
          then .invalidPhysicalLayout
        else if !samePersistedConfig header expected then .identityMismatch
        else .none) := by
    rw [validConfig_eq, ok_bind]
    cases valid : Wal.validConfig header.actual with
    | false => rfl
    | true =>
      -- the offset is computed for a valid configuration only, whose alignment is not zero
      have aligned := toUInt64_ne_zero (validConfig_iff.mp valid).aligned
      rw [Bool.not_true, if_neg Bool.false_ne_true, recordsOffset_eq aligned, ok_bind, Bool.false_or]
      by_cases same : header.recordsOffset = Wal.recordsOffset header.actual
      · have placed : ¬ decide (header.recordsOffset ≠ Wal.recordsOffset header.actual) = true := by
          simp [same]
        rw [if_neg (not_not.mpr same), if_neg placed]
        split_ifs <;> rfl
      · rw [if_pos same, if_pos (decide_eq_true same)]
        rfl
  rw [fileHeaderError, Wal.fileHeaderError, layout]
  split_ifs <;> rfl

/-- A header without an error lies behind its own 64 bytes. -/
theorem offset_of_accepted {header : FileHeader} {expected : WalConfig}
    (accepted : Wal.fileHeaderError header expected = .none) : 64 ≤ header.recordsOffset.toNat := by
  unfold Wal.fileHeaderError at accepted
  split_ifs at accepted with magic version size crc kind flags layout identity
  simp only [Bool.or_eq_true, Bool.not_eq_true', decide_eq_true_eq, not_or, Bool.not_eq_false,
    not_not] at layout
  have valid := validConfig_iff.mp layout.1
  rw [layout.2, recordsOffset_toNat valid.aligned valid.offset]
  exact le_alignUp (toNat_pos valid.aligned)

/-- The checks on any 64 bytes meet no fault: they find the first error of the header, or the
size of its padding. -/
theorem checkHeader_eq {bytes : List UInt8} (length : bytes.length = 64) (expected : WalConfig) :
    checkHeader bytes expected = .ok
      (if Wal.fileHeaderError ((Wal.deserializeFileHeader bytes).getD {}) expected ≠ .none then
        .inl (Wal.fileHeaderError ((Wal.deserializeFileHeader bytes).getD {}) expected)
      else .inr (((Wal.deserializeFileHeader bytes).getD {}).recordsOffset -
        physicalFileHeaderSize.toUInt32).toUInt64) := by
  rw [checkHeader, deserializeFileHeader_eq length, ok_bind, fileHeaderError_eq, ok_bind]
  by_cases error : Wal.fileHeaderError ((Wal.deserializeFileHeader bytes).getD {}) expected = .none
  · have ordered : ¬ ((Wal.deserializeFileHeader bytes).getD {}).recordsOffset <
        physicalFileHeaderSize.toUInt32 := by
      rw [UInt32.lt_iff_toNat_lt, Nat.not_lt]
      exact offset_of_accepted error
    rw [if_neg (not_not.mpr error), if_neg (not_not.mpr error), subtract_ok ordered, ok_bind]
    rfl
  · rw [if_pos error, if_pos error]
    rfl

end Guarded

/-! ### The layout of a valid configuration -/

/-- Sizes that are the next multiples of the alignment, as numbers without wrapping, and
paddings on which the writer and the reader agree. -/
structure LayoutSound (config : WalConfig) : Prop where
  offset : (recordsOffset config).toNat = alignUp 64 config.alignment.toNat
  offsetAligned : config.alignment.toNat ∣ (recordsOffset config).toNat
  offsetBounds : 64 ≤ (recordsOffset config).toNat ∧
    (recordsOffset config).toNat < 64 + config.alignment.toNat
  size : (alignedRecordSize config).toNat =
    alignUp (24 + config.payloadSize.toNat) config.alignment.toNat
  sizeAligned : config.alignment.toNat ∣ (alignedRecordSize config).toNat
  sizeBounds : 24 + config.payloadSize.toNat ≤ (alignedRecordSize config).toNat ∧
    (alignedRecordSize config).toNat < 24 + config.payloadSize.toNat + config.alignment.toNat
  padding : (paddingSize config).toUInt64 =
    alignedRecordSize config - physicalRecordHeaderSize.toUInt64 - config.payloadSize.toUInt64
  paddingBound : paddingSize config < config.alignment
  headerPadding : (fileHeaderPaddingSize config).toUInt64 =
    (recordsOffset config).toUInt64 - physicalFileHeaderSize.toUInt64
  headerPaddingBound : fileHeaderPaddingSize config < config.alignment

theorem Valid.layoutSound {config : WalConfig} (valid : Valid config) : LayoutSound config := by
  have aligned := valid.aligned
  have positive := toNat_pos aligned
  have offset := recordsOffset_toNat aligned valid.offset
  have size := alignedRecordSize_toNat aligned
  have offsetAbove := @le_alignUp 64 _ positive
  have offsetBelow := @alignUp_lt 64 _ positive
  have sizeAbove := @le_alignUp (24 + config.payloadSize.toNat) _ positive
  have sizeBelow := @alignUp_lt (24 + config.payloadSize.toNat) _ positive
  have padding := paddingSize_toNat aligned
  have headerPadding := fileHeaderPaddingSize_toNat aligned valid.offset
  refine ⟨offset, ?_, ?_, size, ?_, ?_, ?_, ?_, ?_, ?_⟩
  · rw [offset, alignUp]
    exact Nat.dvd_mul_left _ _
  · rw [offset]
    exact ⟨offsetAbove, offsetBelow⟩
  · rw [size, alignUp]
    exact Nat.dvd_mul_left _ _
  · rw [size]
    exact ⟨sizeAbove, sizeBelow⟩
  · refine UInt64.toNat_inj.mp ?_
    rw [readPadding_toNat valid.single, UInt32.toNat_toUInt64]
  · rw [UInt32.lt_iff_toNat_lt, padding, size]
    omega
  · have ordered : physicalFileHeaderSize.toUInt64 ≤ (recordsOffset config).toUInt64 := by
      rw [UInt64.le_iff_toNat_le, UInt32.toNat_toUInt64, offset]
      exact offsetAbove
    refine UInt64.toNat_inj.mp ?_
    rw [UInt32.toNat_toUInt64, headerPadding, UInt64.toNat_sub_of_le _ _ ordered,
      UInt32.toNat_toUInt64]
    rfl
  · rw [UInt32.lt_iff_toNat_lt, headerPadding, offset]
    omega

/-- Every valid configuration has a sound layout, and neither the checks on a configuration nor
those on 64 bytes of a header that may be anything come to a division by zero, a shift of a
negative number or a subtraction below zero. -/
theorem layout_arithmetic_sound :
    (∀ config, validConfig config → LayoutSound config ∧ recordsOffset config ≠ 0 ∧
      alignedRecordSize config ≠ 0) ∧
    (∀ config, Guarded.validConfig config = .ok (validConfig config)) ∧
    ∀ (bytes : List UInt8) (expected : WalConfig), bytes.length = 64 →
      Guarded.checkHeader bytes expected = .ok
        (if fileHeaderError ((deserializeFileHeader bytes).getD {}) expected ≠ .none then
          .inl (fileHeaderError ((deserializeFileHeader bytes).getD {}) expected)
        else .inr (((deserializeFileHeader bytes).getD {}).recordsOffset -
          physicalFileHeaderSize.toUInt32).toUInt64) := by
  refine ⟨fun config valid => ?_, Guarded.validConfig_eq, fun bytes expected length =>
    Guarded.checkHeader_eq length expected⟩
  have valid := validConfig_iff.mp valid
  exact ⟨valid.layoutSound, valid.offset, alignedRecordSize_ne_zero valid.aligned⟩

/-- Payloads of almost 2^32 bytes, where the 32-bit sum of the sizes wraps. -/
theorem layout_arithmetic_sound_wrapping :
    LayoutSound { payloadSize := 0xFFFFFFFF, capacity := 1, alignment := 8 } ∧
      (paddingSize { payloadSize := 0xFFFFFFFF, capacity := 1, alignment := 8 }) = 1 :=
  ⟨(layout_arithmetic_sound.1 { payloadSize := 0xFFFFFFFF, capacity := 1, alignment := 8 }
    (by decide)).1, by decide⟩

end Fexma.Wal
