import Fexma.Wal.Types
import Mathlib.Order.Nat
import Mathlib.Tactic.SplitIfs

/-! Checked layout arithmetic (`config.cpp`, `physical_wal_file.cpp`). Sizes are 64 bits
wide; the writer's padding sizes are computed in 32 bits. -/
namespace Fexma.Wal

def checkedAdd (left right : UInt64) : Option UInt64 :=
  if left > 0xFFFFFFFFFFFFFFFF - right then none else some (left + right)

def checkedMul (left right : UInt64) : Option UInt64 :=
  if left ≠ 0 && right > 0xFFFFFFFFFFFFFFFF / left then none else some (left * right)

def checkedAlignUp (value alignment : UInt64) : Option UInt64 :=
  (checkedAdd value (alignment - 1)).map fun biased => biased / alignment * alignment

def physicalFileHeaderSize : UInt16 := 64
def physicalRecordHeaderSize : UInt16 := 24

/-- Zero stands for a size that does not fit. -/
def alignedRecordSize (config : WalConfig) : UInt64 :=
  ((checkedAdd physicalRecordHeaderSize.toUInt64 config.payloadSize.toUInt64).bind fun rawSize =>
    checkedAlignUp rawSize config.alignment.toUInt64).getD 0

def recordsOffset (config : WalConfig) : UInt32 :=
  (checkedAlignUp physicalFileHeaderSize.toUInt64 config.alignment.toUInt64).elim 0 fun offset =>
    if offset > 0xFFFFFFFF then 0 else offset.toUInt32

/-- The raw size is a 32-bit sum before it is widened. -/
def paddingSize (config : WalConfig) : UInt32 :=
  let rawSize : UInt64 := (physicalRecordHeaderSize.toUInt32 + config.payloadSize).toUInt64
  (alignedRecordSize config - rawSize).toUInt32

def fileHeaderPaddingSize (config : WalConfig) : UInt32 :=
  recordsOffset config - physicalFileHeaderSize.toUInt32

/-- The size of a pointer. -/
def pointerAlignment : UInt32 := 8

def validConfig (config : WalConfig) : Bool :=
  if config.payloadSize = 0 || config.capacity = 0 || config.alignment < pointerAlignment ||
      config.firstSequence = 0 || !config.streamKind.valid then false
  else if config.streamKind ≠ .generic &&
      (config.streamId = 0 || config.epochId = 0 || config.manifestId = 0) then false
  else if config.alignment &&& (config.alignment - 1) ≠ 0 then false
  else if ((checkedAlignUp config.payloadSize.toUInt64 config.alignment.toUInt64).bind
      fun storageStride => checkedMul storageStride config.capacity.toUInt64).isNone then false
  else recordsOffset config ≠ 0 && alignedRecordSize config ≠ 0

/-! ### Sizes as numbers -/

theorem checkedAdd_some {left right : UInt64} (fits : left.toNat + right.toNat < 2 ^ 64) :
    checkedAdd left right = some (left + right) := by
  have within : ¬ left > 0xFFFFFFFFFFFFFFFF - right := by
    have := right.toNat_lt
    rw [gt_iff_lt, UInt64.lt_iff_toNat_lt, UInt64.toNat_sub_of_le]
    · change ¬ 2 ^ 64 - 1 - right.toNat < left.toNat
      omega
    · rw [UInt64.le_iff_toNat_le]
      change right.toNat ≤ 2 ^ 64 - 1
      omega
  rw [checkedAdd, if_neg within]

/-- The smallest multiple of the alignment that is not below a value. -/
def alignUp (value alignment : ℕ) : ℕ := (value + alignment - 1) / alignment * alignment

theorem le_alignUp {value alignment : ℕ} (positive : 0 < alignment) :
    value ≤ alignUp value alignment := by
  have split := Nat.div_add_mod (value + alignment - 1) alignment
  have small := Nat.mod_lt (value + alignment - 1) positive
  rw [Nat.mul_comm] at split
  rw [alignUp]
  omega

theorem alignUp_lt {value alignment : ℕ} (positive : 0 < alignment) :
    alignUp value alignment < value + alignment := by
  have below := Nat.div_mul_le_self (value + alignment - 1) alignment
  rw [alignUp]
  omega

theorem checkedAlignUp_some {value alignment : UInt64} (positive : alignment ≠ 0)
    (fits : value.toNat + alignment.toNat < 2 ^ 64) :
    ∃ aligned, checkedAlignUp value alignment = some aligned ∧
      aligned.toNat = alignUp value.toNat alignment.toNat := by
  have some_alignment : 0 < alignment.toNat := by
    refine Nat.pos_of_ne_zero fun zero => positive (UInt64.toNat_inj.mp zero)
  have biased : (alignment - 1).toNat = alignment.toNat - 1 := by
    rw [UInt64.toNat_sub_of_le]
    · rfl
    · rw [UInt64.le_iff_toNat_le]
      exact some_alignment
  have sum : (value + (alignment - 1)).toNat = value.toNat + alignment.toNat - 1 := by
    rw [UInt64.toNat_add, biased, Nat.mod_eq_of_lt (by omega)]
    omega
  refine ⟨_, by rw [checkedAlignUp, checkedAdd_some (by omega), Option.map_some], ?_⟩
  have below := Nat.div_mul_le_self (value.toNat + alignment.toNat - 1) alignment.toNat
  rw [UInt64.toNat_mul, UInt64.toNat_div, sum, Nat.mod_eq_of_lt (by omega)]
  rfl

section Sizes
variable {config : WalConfig}

theorem toNat_pos {value : UInt32} (some_value : value ≠ 0) : 0 < value.toNat :=
  Nat.pos_of_ne_zero fun zero => some_value (UInt32.toNat_inj.mp zero)

theorem toUInt64_ne_zero {value : UInt32} (some_value : value ≠ 0) : value.toUInt64 ≠ 0 := by
  intro zero
  have total := congrArg UInt64.toNat zero
  rw [UInt32.toNat_toUInt64] at total
  exact some_value (UInt32.toNat_inj.mp total)

theorem alignedRecordSize_toNat (aligned : config.alignment ≠ 0) :
    (alignedRecordSize config).toNat =
      alignUp (24 + config.payloadSize.toNat) config.alignment.toNat := by
  have payload := config.payloadSize.toNat_lt
  have alignment := config.alignment.toNat_lt
  have header : physicalRecordHeaderSize.toUInt64.toNat = 24 := by decide
  have raw : (physicalRecordHeaderSize.toUInt64 + config.payloadSize.toUInt64).toNat =
      24 + config.payloadSize.toNat := by
    rw [UInt64.toNat_add, header, UInt32.toNat_toUInt64, Nat.mod_eq_of_lt (by omega)]
  have positive := toUInt64_ne_zero aligned
  have fits : (physicalRecordHeaderSize.toUInt64 + config.payloadSize.toUInt64).toNat +
      config.alignment.toUInt64.toNat < 2 ^ 64 := by
    rw [raw, UInt32.toNat_toUInt64]
    omega
  obtain ⟨size, found, exact_size⟩ := checkedAlignUp_some positive fits
  have sum : checkedAdd physicalRecordHeaderSize.toUInt64 config.payloadSize.toUInt64 =
      some (physicalRecordHeaderSize.toUInt64 + config.payloadSize.toUInt64) := by
    apply checkedAdd_some
    rw [header, UInt32.toNat_toUInt64]
    omega
  have value : alignedRecordSize config = size := by
    rw [alignedRecordSize, sum, Option.bind_some, found, Option.getD_some]
  rw [value, exact_size, raw, UInt32.toNat_toUInt64]

theorem recordsOffset_toNat (aligned : config.alignment ≠ 0) (fits : recordsOffset config ≠ 0) :
    (recordsOffset config).toNat = alignUp 64 config.alignment.toNat := by
  have alignment := config.alignment.toNat_lt
  have header : physicalFileHeaderSize.toUInt64.toNat = 64 := by decide
  have positive := toUInt64_ne_zero aligned
  have room : physicalFileHeaderSize.toUInt64.toNat + config.alignment.toUInt64.toNat < 2 ^ 64 := by
    rw [header, UInt32.toNat_toUInt64]
    omega
  obtain ⟨offset, found, exact_offset⟩ := checkedAlignUp_some positive room
  rw [header, UInt32.toNat_toUInt64] at exact_offset
  have value : recordsOffset config = if offset > 0xFFFFFFFF then 0 else offset.toUInt32 := by
    rw [recordsOffset, found, Option.elim_some]
  rw [value] at fits ⊢
  split_ifs at fits ⊢ with beyond
  · exact absurd rfl fits
  · have small : offset.toNat < 2 ^ 32 := by
      have limit : (0xFFFFFFFF : UInt64).toNat = 2 ^ 32 - 1 := by decide
      rw [gt_iff_lt, UInt64.lt_iff_toNat_lt, Nat.not_lt, limit] at beyond
      omega
    rw [UInt64.toNat_toUInt32, Nat.mod_eq_of_lt small, exact_offset]

/-- The writer's 32-bit padding is the gap behind a record, also where the raw size wraps. -/
theorem paddingSize_toNat (aligned : config.alignment ≠ 0) :
    (paddingSize config).toNat =
      (alignedRecordSize config).toNat - (24 + config.payloadSize.toNat) := by
  have payload := config.payloadSize.toNat_lt
  have alignment := config.alignment.toNat_lt
  have size := alignedRecordSize_toNat aligned
  have above := @le_alignUp (24 + config.payloadSize.toNat) _ (toNat_pos aligned)
  have below := @alignUp_lt (24 + config.payloadSize.toNat) _ (toNat_pos aligned)
  have raw : ((physicalRecordHeaderSize.toUInt32 + config.payloadSize).toUInt64).toNat =
      (24 + config.payloadSize.toNat) % 2 ^ 32 := by
    rw [UInt32.toNat_toUInt64, UInt32.toNat_add]
    rfl
  have ordered : (physicalRecordHeaderSize.toUInt32 + config.payloadSize).toUInt64 ≤
      alignedRecordSize config := by
    rw [UInt64.le_iff_toNat_le, raw, size]
    exact (Nat.mod_le _ _).trans above
  rw [paddingSize, UInt64.toNat_toUInt32, UInt64.toNat_sub_of_le _ _ ordered, raw, size]
  omega

theorem fileHeaderPaddingSize_toNat (aligned : config.alignment ≠ 0)
    (fits : recordsOffset config ≠ 0) :
    (fileHeaderPaddingSize config).toNat = (recordsOffset config).toNat - 64 := by
  have above := @le_alignUp 64 _ (toNat_pos aligned)
  rw [fileHeaderPaddingSize, UInt32.toNat_sub_of_le]
  · rfl
  · rw [UInt32.le_iff_toNat_le, recordsOffset_toNat aligned fits]
    exact above

end Sizes

/-! ### Valid configurations -/

/-- What a valid configuration is. -/
structure Valid (config : WalConfig) : Prop where
  payloadSize : config.payloadSize ≠ 0
  capacity : config.capacity ≠ 0
  alignment : 8 ≤ config.alignment.toNat
  firstSequence : config.firstSequence ≠ 0
  streamKind : config.streamKind.valid
  named : config.streamKind = .generic ∨
    config.streamId ≠ 0 ∧ config.epochId ≠ 0 ∧ config.manifestId ≠ 0
  power : config.alignment &&& (config.alignment - 1) = 0
  offset : recordsOffset config ≠ 0
  storage : ((checkedAlignUp config.payloadSize.toUInt64 config.alignment.toUInt64).bind
    fun storageStride => checkedMul storageStride config.capacity.toUInt64).isSome

theorem Valid.aligned {config : WalConfig} (valid : Valid config) : config.alignment ≠ 0 := by
  intro zero
  have wide := valid.alignment
  rw [zero] at wide
  exact absurd wide (by decide)

/-- The size of a record is never below that of its header. -/
theorem alignedRecordSize_ne_zero {config : WalConfig} (aligned : config.alignment ≠ 0) :
    alignedRecordSize config ≠ 0 := by
  intro zero
  have size := alignedRecordSize_toNat aligned
  have above := @le_alignUp (24 + config.payloadSize.toNat) _ (toNat_pos aligned)
  rw [zero, UInt64.toNat_zero] at size
  omega

theorem validConfig_iff {config : WalConfig} : validConfig config ↔ Valid config := by
  constructor
  · intro valid
    unfold validConfig at valid
    split_ifs at valid with basic naming power storage
    simp only [Bool.or_eq_true, decide_eq_true_eq, Bool.not_eq_true', not_or, Bool.not_eq_false]
      at basic
    obtain ⟨⟨⟨⟨payloadSize, capacity⟩, alignment⟩, firstSequence⟩, streamKind⟩ := basic
    refine ⟨payloadSize, capacity, ?_, firstSequence, streamKind, ?_, not_not.mp power, ?_, ?_⟩
    · rw [UInt32.lt_iff_toNat_lt, Nat.not_lt] at alignment
      exact alignment
    · by_cases generic : config.streamKind = .generic
      · exact .inl generic
      · simpa [generic, not_or, and_assoc] using naming
    · simpa using (Bool.and_eq_true_iff.mp valid).1
    · simpa [Option.isSome_iff_ne_none, Option.isNone_iff_eq_none] using storage
  · intro valid
    have basic : ¬ (decide (config.payloadSize = 0) || decide (config.capacity = 0) ||
        decide (config.alignment < pointerAlignment) || decide (config.firstSequence = 0) ||
        !config.streamKind.valid) := by
      have wide : ¬ config.alignment < pointerAlignment := by
        rw [UInt32.lt_iff_toNat_lt, Nat.not_lt]
        exact valid.alignment
      simp [valid.payloadSize, valid.capacity, wide, valid.firstSequence, valid.streamKind]
    have naming : ¬ (decide (config.streamKind ≠ .generic) &&
        (decide (config.streamId = 0) || decide (config.epochId = 0) ||
          decide (config.manifestId = 0))) := by
      rcases valid.named with generic | ⟨stream, epoch, manifest⟩
      · simp [generic]
      · simp [stream, epoch, manifest]
    have storage : ¬ ((checkedAlignUp config.payloadSize.toUInt64 config.alignment.toUInt64).bind
        fun storageStride => checkedMul storageStride config.capacity.toUInt64).isNone := by
      simpa [Option.isSome_iff_ne_none, Option.isNone_iff_eq_none] using valid.storage
    rw [validConfig, if_neg basic, if_neg naming, if_neg (not_not.mpr valid.power), if_neg storage]
    simp [valid.offset, alignedRecordSize_ne_zero valid.aligned]

theorem checkedMul_one (left : UInt64) : checkedMul left 1 = some left := by
  have within : ¬ (decide (left ≠ 0) && decide (1 > 0xFFFFFFFFFFFFFFFF / left)) := by
    intro beyond
    obtain ⟨some_left, above⟩ := Bool.and_eq_true_iff.mp beyond
    have above := UInt64.lt_iff_toNat_lt.mp (of_decide_eq_true above)
    have small := left.toNat_lt
    have positive : 0 < left.toNat :=
      Nat.pos_of_ne_zero fun zero => of_decide_eq_true some_left (UInt64.toNat_inj.mp zero)
    have limit : (0xFFFFFFFFFFFFFFFF : UInt64).toNat = 2 ^ 64 - 1 := by decide
    have one : (1 : UInt64).toNat = 1 := by decide
    rw [UInt64.toNat_div, limit, one, Nat.div_lt_iff_lt_mul positive] at above
    omega
  rw [checkedMul, if_neg within, UInt64.mul_one]

/-- A single slot is room enough wherever more slots are. -/
theorem Valid.single {config : WalConfig} (valid : Valid config) :
    Valid { config with capacity := 1 } := by
  have one : (1 : UInt32) ≠ 0 := by decide
  refine ⟨valid.payloadSize, one, valid.alignment, valid.firstSequence, valid.streamKind,
    valid.named, valid.power, valid.offset, ?_⟩
  have storage := valid.storage
  cases aligned : checkedAlignUp config.payloadSize.toUInt64 config.alignment.toUInt64 with
  | none =>
    rw [aligned] at storage
    cases storage
  | some stride =>
    have whole : (checkedMul stride (UInt32.toUInt64 1)).isSome := by
      rw [show UInt32.toUInt64 1 = 1 by decide, checkedMul_one]
      rfl
    exact whole

/-- What a reader asks of a configuration: that it is valid for a single slot. -/
def Readable (config : WalConfig) : Prop := Valid { config with capacity := 1 }

theorem validReader_iff {config : WalConfig} :
    validConfig { config with capacity := 1 } ↔ Readable config := validConfig_iff

theorem Readable.aligned {config : WalConfig} (readable : Readable config) :
    config.alignment ≠ 0 := @Valid.aligned { config with capacity := 1 } readable

/-- A stream of single bytes. -/
def byteConfig : WalConfig := { payloadSize := 1, capacity := 2, alignment := 8 }

theorem byteConfig_valid : validConfig byteConfig := by decide

end Fexma.Wal
