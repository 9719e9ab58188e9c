import Mathlib.Logic.Function.Iterate

/-! Bit-serial cyclic checksums, low bit first. The polynomial has its top bit, so a step
loses nothing, and byte strings that differ in a single byte never collide. -/
namespace Fexma.Checksum

variable {polynomial crc other : UInt32} {byte byte' : UInt8} {left right : List UInt8}

def shiftBit (polynomial crc : UInt32) : UInt32 :=
  (crc >>> 1) ^^^ (polynomial &&& (0 - (crc &&& 1)))

def shiftByte (polynomial crc : UInt32) (byte : UInt8) : UInt32 :=
  (shiftBit polynomial)^[8] (crc ^^^ byte.toUInt32)

def shiftBytes (polynomial crc : UInt32) (bytes : List UInt8) : UInt32 :=
  bytes.foldl (shiftByte polynomial) crc

/-- One step on bits: a shift to the right, with the polynomial folded in when a one has been
shifted out. -/
theorem shiftBit_toBitVec : (shiftBit polynomial crc).toBitVec =
    (crc.toBitVec >>> 1) ^^^ if crc.toBitVec.getLsbD 0 then polynomial.toBitVec else 0 := by
  have low : crc.toBitVec &&& 1#32 = if crc.toBitVec.getLsbD 0 then 1#32 else 0#32 := by
    rw [BitVec.and_one_eq_setWidth_ofBool_getLsbD]
    cases crc.toBitVec.getLsbD 0 <;> rfl
  have mask : (0 - (crc &&& 1)).toBitVec =
      if crc.toBitVec.getLsbD 0 then BitVec.allOnes 32 else 0 := by
    rw [UInt32.toBitVec_sub, UInt32.toBitVec_and]
    change 0#32 - (crc.toBitVec &&& 1#32) = _
    rw [low]
    cases crc.toBitVec.getLsbD 0 <;> rfl
  rw [shiftBit, UInt32.toBitVec_xor, UInt32.toBitVec_and, mask]
  congr 1
  split
  · exact BitVec.and_allOnes
  · exact BitVec.and_zero

/-- The shifted-out bit shows as the top bit of the polynomial, so a step can be undone.
Everything that follows about changed bytes rests on this. -/
theorem shiftBit_injective (top : polynomial.toBitVec.getLsbD 31) :
    Function.Injective (shiftBit polynomial) := by
  intro crc other same
  have same := congrArg UInt32.toBitVec same
  rw [shiftBit_toBitVec, shiftBit_toBitVec] at same
  have bits (i : ℕ) := congrArg (fun bits : BitVec 32 => bits.getLsbD i) same
  simp only [BitVec.getLsbD_xor, BitVec.getLsbD_ushiftRight] at bits
  have lowest : crc.toBitVec.getLsbD 0 = other.toBitVec.getLsbD 0 := by
    have last := bits 31
    simp only [Nat.reduceAdd, BitVec.getLsbD_of_ge _ 32 (Nat.le_refl 32), Bool.false_xor] at last
    cases here : crc.toBitVec.getLsbD 0 <;> cases there : other.toBitVec.getLsbD 0 <;>
      simp_all
  refine UInt32.toBitVec_inj.mp (BitVec.eq_of_getLsbD_eq fun i _ => ?_)
  cases i with
  | zero => exact lowest
  | succ i =>
    have shifted := bits i
    rw [lowest] at shifted
    rw [Nat.add_comm i 1]
    simpa using shifted

theorem shiftByte_injective_crc (top : polynomial.toBitVec.getLsbD 31) :
    Function.Injective fun crc => shiftByte polynomial crc byte := by
  intro crc other same
  have joined := (shiftBit_injective top).iterate 8 same
  have undone := congrArg (· ^^^ byte.toUInt32) joined
  simpa only [UInt32.xor_assoc, UInt32.xor_self, UInt32.xor_zero] using undone

/-- From one register two different bytes never lead to the same one. -/
theorem shiftByte_injective_byte (top : polynomial.toBitVec.getLsbD 31) :
    Function.Injective (shiftByte polynomial crc) := by
  intro byte byte' same
  have joined := (shiftBit_injective top).iterate 8 same
  have undone := congrArg (crc ^^^ ·) joined
  simp only [← UInt32.xor_assoc, UInt32.xor_self, UInt32.zero_xor] at undone
  have same_byte := congrArg UInt32.toNat undone
  rw [UInt8.toNat_toUInt32, UInt8.toNat_toUInt32] at same_byte
  exact UInt8.toNat_inj.mp same_byte

/-- Two registers that differ still differ behind any bytes that they both take in. -/
theorem shiftBytes_injective_crc (top : polynomial.toBitVec.getLsbD 31) (bytes : List UInt8) :
    Function.Injective fun crc => shiftBytes polynomial crc bytes := by
  induction bytes with
  | nil => exact fun crc other same => same
  | cons byte bytes ih =>
    intro crc other same
    exact shiftByte_injective_crc top (ih same)

/-- A single changed byte always changes the checksum: it makes the registers differ, and the
equal bytes behind it cannot bring them together again. -/
theorem byte_eq_of_shiftBytes_eq (top : polynomial.toBitVec.getLsbD 31)
    (same : shiftBytes polynomial crc (left ++ byte :: right) =
      shiftBytes polynomial crc (left ++ byte' :: right)) : byte = byte' := by
  rw [shiftBytes, shiftBytes, List.foldl_append, List.foldl_append, List.foldl_cons,
    List.foldl_cons] at same
  exact shiftByte_injective_byte top (shiftBytes_injective_crc top right same)

end Fexma.Checksum
