import Mathlib.Algebra.Group.Nat.Defs
import Mathlib.Tactic.SplitIfs

/-! Public types of the write-ahead log (`types.hpp`). Bytes are byte lists and a view of
a payload is the list of its bytes. -/
namespace Fexma.Wal

def fileMagic : UInt32 := 0x57414c46
def recordMagic : UInt32 := 0x57414c52
def formatVersion : UInt16 := 3
def defaultAlignment : UInt32 := 64

/-- The largest 64-bit number. -/
def maxUInt64 : UInt64 := 0xFFFFFFFFFFFFFFFF

theorem maxUInt64_toNat : maxUInt64.toNat = 2 ^ 64 - 1 := by decide

abbrev StreamId := UInt64
abbrev EpochId := UInt64
abbrev ManifestId := UInt64
/-- Absolute zero-based runtime position. -/
abbrev Position := UInt64

theorem toNat_onward {position : Position} {limit : ℕ} (below : position.toNat < limit)
    (fits : limit < 2 ^ 64) : (position + 1).toNat = position.toNat + 1 := by
  rw [UInt64.toNat_add]
  exact Nat.mod_eq_of_lt (Nat.lt_of_le_of_lt below fits)

/-- `unknown` is a value outside the enumeration. -/
inductive StreamKind where
  | generic
  | command
  | event
  | unknown (value : UInt16) (outside : 2 < value)
  deriving DecidableEq, Repr

namespace StreamKind

def toUInt16 : StreamKind → UInt16
  | generic => 0
  | command => 1
  | event => 2
  | unknown value _ => value

def ofUInt16 (value : UInt16) : StreamKind :=
  if outside : 2 < value then unknown value outside
  else if value = 0 then generic else if value = 1 then command else event

/-- The kinds the enumeration has. -/
def valid : StreamKind → Bool
  | generic | command | event => true
  | unknown _ _ => false

@[simp] theorem ofUInt16_toUInt16 (kind : StreamKind) : ofUInt16 kind.toUInt16 = kind := by
  cases kind with
  | unknown value outside => rw [toUInt16, ofUInt16, dif_pos outside]
  | _ => rfl

@[simp] theorem toUInt16_ofUInt16 (value : UInt16) : (ofUInt16 value).toUInt16 = value := by
  unfold ofUInt16
  split_ifs with outside zero one
  · rfl
  · exact zero.symm
  · exact one.symm
  · refine UInt16.toNat_inj.mp ?_
    have most : value.toNat ≤ 2 := UInt16.le_iff_toNat_le.mp (UInt16.not_lt.mp outside)
    have some_value : value.toNat ≠ 0 := fun same => zero (UInt16.toNat_inj.mp same)
    have not_one : value.toNat ≠ 1 := fun same => one (UInt16.toNat_inj.mp same)
    change 2 = value.toNat
    omega

end StreamKind

structure WalConfig where
  payloadSize : UInt32 := 0
  capacity : UInt32 := 0
  alignment : UInt32 := defaultAlignment
  payloadSchemaVersion : UInt32 := 0
  streamKind : StreamKind := .generic
  streamId : StreamId := 0
  epochId : EpochId := 0
  firstSequence : UInt64 := 1
  manifestId : ManifestId := 0
  deriving DecidableEq, Repr

inductive ViewStatus where
  | ok
  | closed
  | reclaimed
  | unpublished
  deriving DecidableEq, Repr

structure RecordView where
  position : Position := 0
  sequence : UInt64 := 0
  payload : List UInt8 := []
  deriving DecidableEq, Repr

structure AccessResult where
  status : ViewStatus := .closed
  record : RecordView := {}
  deriving DecidableEq, Repr

structure WalSnapshot where
  tail : UInt64 := 0
  durable : UInt64 := 0
  head : UInt64 := 0
  deriving DecidableEq, Repr

inductive OpenStatus where
  | ok
  | invalidConfig
  | allocationFailed
  | ioError
  | fileAlreadyExists
  | alreadyOpen
  deriving DecidableEq, Repr

inductive PublishStatus where
  | ok
  | full
  | invalidPayloadSize
  | sequenceExhausted
  | ioError
  | closed
  deriving DecidableEq, Repr

structure PublishResult where
  status : PublishStatus := .closed
  sequence : UInt64 := 0
  deriving DecidableEq, Repr

inductive DurabilityStatus where
  | ok
  | sequenceExhausted
  | ioError
  | closed
  deriving DecidableEq, Repr

structure DurabilityResult where
  status : DurabilityStatus := .closed
  durableFrontier : UInt64 := 0
  records : UInt32 := 0
  deriving DecidableEq, Repr

inductive ConsumeStatus where
  | ok
  | empty
  | invalidPayloadSize
  | closed
  deriving DecidableEq, Repr

structure ConsumeResult where
  status : ConsumeStatus := .closed
  sequence : UInt64 := 0
  deriving DecidableEq, Repr

inductive CloseStatus where
  | ok
  | pendingConsumption
  | pendingDurability
  | sequenceExhausted
  | ioError
  | alreadyClosed
  deriving DecidableEq, Repr

end Fexma.Wal
