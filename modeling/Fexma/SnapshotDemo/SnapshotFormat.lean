import Fexma.SnapshotDemo.CaptureGeneration
import Fexma.Wal.Format

/-! The files of a module's capture (`snapshot_format.cpp`). Both modules write one layout:
a header that names the module, the capture boundary, the module's own numbers and the failed
flag, padded to a multiple of eight bytes. -/
namespace Fexma.SnapshotDemo

open ByteLayout Wal

def snapshotFormatVersion : UInt16 := 1
def hashChainSchemaVersion : UInt16 := 1
def bitAccumulatorSchemaVersion : UInt16 := 1
def hashChainModuleId : UInt64 := 0x3630305f48534148
def bitAccumulatorModuleId : UInt64 := 0x3630305f54494241
def hashSnapshotMagic : UInt32 := 0x36485346
def bitSnapshotMagic : UInt32 := 0x36425346

/-- What tells the file of one module from another's, and its numbers as words. -/
class SnapshotSchema (β : Type) where
  magic : UInt32
  schemaVersion : UInt16
  moduleId : UInt64
  words : ℕ
  toWords : β → List UInt64
  ofWords : List UInt64 → β
  length_toWords : ∀ body, (toWords body).length = words
  ofWords_toWords : ∀ body, ofWords (toWords body) = body
  toWords_ofWords : ∀ values : List UInt64, values.length = words → toWords (ofWords values) = values

instance : SnapshotSchema HashChain where
  magic := hashSnapshotMagic
  schemaVersion := hashChainSchemaVersion
  moduleId := hashChainModuleId
  words := 1
  toWords chain := [chain.digest]
  ofWords values := { digest := values.getD 0 0 }
  length_toWords _ := rfl
  ofWords_toWords _ := rfl
  toWords_ofWords
    | [_], _ => rfl

instance : SnapshotSchema BitAccumulator where
  magic := bitSnapshotMagic
  schemaVersion := bitAccumulatorSchemaVersion
  moduleId := bitAccumulatorModuleId
  words := 2
  toWords bits := [bits.totalOneBits, bits.rollingBits]
  ofWords values := { totalOneBits := values.getD 0 0, rollingBits := values.getD 1 0 }
  length_toWords _ := rfl
  ofWords_toWords _ := rfl
  toWords_ofWords
    | [_, _], _ => rfl

section Module
variable {β : Type} [SnapshotSchema β]

open SnapshotSchema

/-- The place of the failed flag. -/
def flagOffset (β : Type) [SnapshotSchema β] : ℕ := 48 + 8 * words β

def snapshotSize (β : Type) [SnapshotSchema β] : ℕ := flagOffset β + 8

def serializeSnapshot (capture : Capture β) : List UInt8 :=
  let out := List.replicate (snapshotSize β) 0
  let out := put out 0 4 (magic β).toNat
  let out := put out 4 2 snapshotFormatVersion.toNat
  let out := put out 6 2 (schemaVersion β).toNat
  let out := put out 8 8 (moduleId β).toNat
  let out := put out 16 8 capture.generationId.toNat
  let out := put out 24 8 capture.recordPosition.toNat
  let out := put out 32 8 capture.processedEnd.toNat
  let out := put out 40 8 capture.sequence.toNat
  let out := putFields out 48 ((toWords capture.state.body).map fun word => (8, word.toNat))
  put out (flagOffset β) 1 (if capture.state.failed then 1 else 0)

def deserializeSnapshot (bytes : List UInt8) : Option (Capture β) :=
  if bytes.length ≠ snapshotSize β || UInt32.ofNat (get bytes 0 4) ≠ magic β ||
      UInt16.ofNat (get bytes 4 2) ≠ snapshotFormatVersion ||
      UInt16.ofNat (get bytes 6 2) ≠ schemaVersion β ||
      UInt64.ofNat (get bytes 8 8) ≠ moduleId β || 1 < get bytes (flagOffset β) 1 ||
      (slice bytes (flagOffset β + 1) 7).any (· ≠ 0) then none
  else some
    { generationId := .ofNat (get bytes 16 8)
      recordPosition := .ofNat (get bytes 24 8)
      processedEnd := .ofNat (get bytes 32 8)
      sequence := .ofNat (get bytes 40 8)
      state :=
        { processedEnd := .ofNat (get bytes 32 8)
          body := ofWords ((fields bytes 48 (List.replicate (words β) 8)).map .ofNat)
          failed := get bytes (flagOffset β) 1 ≠ 0 } }

/-! ### The layout -/

variable {capture : Capture β} {bytes : List UInt8} {body : β}

/-- The widths of the fields, the padding included. -/
def snapshotWidths (β : Type) [SnapshotSchema β] : List ℕ :=
  [4, 2, 2, 8, 8, 8, 8, 8] ++ List.replicate (words β) 8 ++ [1] ++ [7]

private def wordTable (body : β) : List (ℕ × ℕ) := (toWords body).map fun word => (8, word.toNat)

private def snapshotTable (capture : Capture β) : List (ℕ × ℕ) :=
  [(4, (magic β).toNat), (2, snapshotFormatVersion.toNat), (2, (schemaVersion β).toNat),
    (8, (moduleId β).toNat), (8, capture.generationId.toNat), (8, capture.recordPosition.toNat),
    (8, capture.processedEnd.toNat), (8, capture.sequence.toNat)] ++
  wordTable capture.state.body ++ [(1, if capture.state.failed then 1 else 0)]

private theorem wordTable_widths : (wordTable body).map Prod.fst = List.replicate (words β) 8 := by
  rw [wordTable, List.map_map, ← length_toWords body]
  exact List.map_const'

private theorem snapshotTable_widths : (snapshotTable capture).map Prod.fst =
    [4, 2, 2, 8, 8, 8, 8, 8] ++ List.replicate (words β) 8 ++ [1] := by
  rw [snapshotTable, List.map_append, List.map_append, wordTable_widths]
  rfl

private theorem snapshotTable_sum : ((snapshotTable capture).map Prod.fst).sum = flagOffset β + 1 := by
  rw [snapshotTable_widths, List.sum_append, List.sum_append, List.sum_replicate_nat, flagOffset, Nat.mul_comm 8]
  rfl

theorem serializeSnapshot_eq : serializeSnapshot capture =
    putFields (List.replicate (snapshotSize β) 0) 0 (snapshotTable capture) := by
  have flag : 0 + (([(4, (magic β).toNat), (2, snapshotFormatVersion.toNat),
      (2, (schemaVersion β).toNat), (8, (moduleId β).toNat), (8, capture.generationId.toNat),
      (8, capture.recordPosition.toNat), (8, capture.processedEnd.toNat),
      (8, capture.sequence.toNat)] ++ wordTable capture.state.body).map Prod.fst).sum =
      flagOffset β := by
    rw [List.map_append, List.sum_append, wordTable_widths, List.sum_replicate_nat, flagOffset, Nat.mul_comm 8, Nat.zero_add]
    rfl
  rw [snapshotTable, putFields_append, flag, putFields_append]
  rfl

@[simp] theorem length_serializeSnapshot : (serializeSnapshot capture).length = snapshotSize β := by
  rw [serializeSnapshot_eq, length_putFields, List.length_replicate]

theorem fields_serializeSnapshot : fields (serializeSnapshot capture) 0 (snapshotWidths β) =
    (snapshotTable capture).map Prod.snd ++ [0] := by
  have inside : 0 + ((snapshotTable capture).map Prod.fst).sum ≤
      (List.replicate (snapshotSize β) (0 : UInt8)).length := by
    rw [snapshotTable_sum, List.length_replicate, snapshotSize]
    omega
  have written : fields (serializeSnapshot capture) 0 ((snapshotTable capture).map Prod.fst) =
      (snapshotTable capture).map Prod.snd := by
    rw [serializeSnapshot_eq]
    refine fields_putFields inside ?_
    intro field member
    rw [snapshotTable, List.mem_append, List.mem_append] at member
    rcases member with (header | word) | flag
    · revert field
      simp only [List.forall_mem_cons, List.not_mem_nil, false_implies, implies_true, and_true]
      exact ⟨UInt32.toNat_lt _, UInt16.toNat_lt _, UInt16.toNat_lt _, UInt64.toNat_lt _,
        UInt64.toNat_lt _, UInt64.toNat_lt _, UInt64.toNat_lt _, UInt64.toNat_lt _⟩
    · obtain ⟨value, -, rfl⟩ := List.mem_map.mp word
      exact value.toNat_lt
    · rw [List.mem_singleton.mp flag]
      change (if capture.state.failed then 1 else 0) < 256
      split <;> decide
  have padding : get (serializeSnapshot capture) (flagOffset β + 1) 7 = 0 := by
    rw [serializeSnapshot_eq, get_putFields_behind (by rw [snapshotTable_sum]; omega) inside]
    exact get_zeros
  rw [snapshotWidths, fields_append, ← @snapshotTable_widths _ _ capture, written, snapshotTable_sum, Nat.zero_add, fields,
    fields, padding]

/-- The fields of a module file by their offsets. -/
private theorem fields_split : fields bytes 0 (snapshotWidths β) =
    [get bytes 0 4, get bytes 4 2, get bytes 6 2, get bytes 8 8, get bytes 16 8, get bytes 24 8,
      get bytes 32 8, get bytes 40 8] ++ fields bytes 48 (List.replicate (words β) 8) ++
      [get bytes (flagOffset β) 1] ++ [get bytes (flagOffset β + 1) 7] := by
  have header : [4, 2, 2, 8, 8, 8, 8, 8].sum = 48 := rfl
  have flag : ([4, 2, 2, 8, 8, 8, 8, 8] ++ List.replicate (words β) 8).sum = flagOffset β := by
    rw [List.sum_append, header, List.sum_replicate_nat, Nat.mul_comm, flagOffset]
  have padding : ([4, 2, 2, 8, 8, 8, 8, 8] ++ List.replicate (words β) 8 ++ [1]).sum =
      flagOffset β + 1 := by
    rw [List.sum_append, flag]
    rfl
  rw [snapshotWidths, fields_append, fields_append, fields_append, padding, flag, header,
    Nat.zero_add, Nat.zero_add, Nat.zero_add]
  rfl

/-- What is read back at the offsets of a serialised capture. -/
private theorem serializeSnapshot_fields :
    [get (serializeSnapshot capture) 0 4, get (serializeSnapshot capture) 4 2,
      get (serializeSnapshot capture) 6 2, get (serializeSnapshot capture) 8 8,
      get (serializeSnapshot capture) 16 8, get (serializeSnapshot capture) 24 8,
      get (serializeSnapshot capture) 32 8, get (serializeSnapshot capture) 40 8] =
      [(magic β).toNat, snapshotFormatVersion.toNat, (schemaVersion β).toNat, (moduleId β).toNat,
        capture.generationId.toNat, capture.recordPosition.toNat, capture.processedEnd.toNat,
        capture.sequence.toNat] ∧
    fields (serializeSnapshot capture) 48 (List.replicate (words β) 8) =
      (toWords capture.state.body).map UInt64.toNat ∧
    get (serializeSnapshot capture) (flagOffset β) 1 = (if capture.state.failed then 1 else 0) ∧
    get (serializeSnapshot capture) (flagOffset β + 1) 7 = 0 := by
  have read := @fields_serializeSnapshot _ _ capture
  rw [fields_split, snapshotTable, List.map_append, List.map_append] at read
  obtain ⟨read, padding⟩ := List.append_inj' read rfl
  obtain ⟨read, flag⟩ := List.append_inj' read rfl
  obtain ⟨header, body⟩ := List.append_inj read rfl
  rw [wordTable, List.map_map] at body
  exact ⟨header, body, (List.cons.inj flag).1, (List.cons.inj padding).1⟩

/-- A capture whose state ends where the capture does is read back. -/
theorem deserialize_serializeSnapshot
    (boundary : capture.state.processedEnd = capture.processedEnd) :
    deserializeSnapshot (serializeSnapshot capture) = some capture := by
  obtain ⟨generationId, recordPosition, processedEnd, sequence, ⟨stateEnd, body, failed⟩⟩ := capture
  change stateEnd = processedEnd at boundary
  subst boundary
  generalize same : (⟨generationId, recordPosition, stateEnd, sequence, ⟨stateEnd, body, failed⟩⟩ :
    Capture β) = capture
  obtain ⟨header, body, flag, padding⟩ := @serializeSnapshot_fields _ _ capture
  simp only [List.cons.injEq, and_true] at header
  obtain ⟨magic, version, schema, moduleId, generation, position, ends, sequence⟩ := header
  have zeros : (slice (serializeSnapshot capture) (flagOffset β + 1) 7).any (· ≠ 0) = false := by
    rw [List.any_eq_false]
    intro byte member
    rw [decide_eq_true_eq, not_not]
    exact decode_eq_zero.mp padding byte member
  have words : ((toWords capture.state.body).map UInt64.toNat).map UInt64.ofNat =
      toWords capture.state.body := by
    rw [List.map_map]
    exact List.map_id'' (fun _ => UInt64.ofNat_toNat) _
  unfold deserializeSnapshot
  rw [magic, version, schema, moduleId, generation, position, ends, sequence, body, flag, zeros,
    words, ofWords_toWords, length_serializeSnapshot]
  simp only [UInt32.ofNat_toNat, UInt16.ofNat_toNat, UInt64.ofNat_toNat]
  subst same
  cases failed with
  | false => simp
  | true => simp

/-- Every byte of an accepted file is one that the serialisation writes. -/
theorem serialize_deserializeSnapshot (read : deserializeSnapshot bytes = some capture) :
    serializeSnapshot capture = bytes ∧ capture.state.processedEnd = capture.processedEnd := by
  unfold deserializeSnapshot at read
  split_ifs at read with checks
  simp only [Bool.or_eq_true, decide_eq_true_eq, not_or, ne_eq, not_not, Bool.not_eq_true,
    Nat.not_lt] at checks
  obtain ⟨⟨⟨⟨⟨⟨length, magic⟩, version⟩, schema⟩, moduleId⟩, flag⟩, padding⟩ := checks
  have total : (snapshotWidths β).sum = snapshotSize β := by
    rw [snapshotWidths, List.sum_append, List.sum_append, List.sum_append, List.sum_replicate_nat,
      snapshotSize, flagOffset, Nat.mul_comm 8]
    rfl
  have inside : flagOffset β + 8 = bytes.length := length.symm
  have place : flagOffset β = 48 + 8 * words β := rfl
  have small (offset width : ℕ) (inside : offset + width ≤ bytes.length) :
      get bytes offset width < 256 ^ width := get_lt inside
  have body : (toWords (ofWords ((fields bytes 48 (List.replicate (words β) 8)).map .ofNat) : β)).map
      UInt64.toNat = fields bytes 48 (List.replicate (words β) 8) := by
    rw [toWords_ofWords _ (by rw [List.length_map, length_fields, List.length_replicate]),
      List.map_map]
    refine (List.map_congr_left fun value member => ?_).trans (List.map_id _)
    exact UInt64.toNat_ofNat_of_lt' (fields_replicate_lt (by omega) value member)
  have zeros : get bytes (flagOffset β + 1) 7 = 0 := by
    refine decode_eq_zero.mpr fun byte member => ?_
    have zero := List.any_eq_false.mp padding byte member
    rwa [decide_eq_true_eq, not_not] at zero
  have failed : (if decide (get bytes (flagOffset β) 1 ≠ 0) = true then 1 else 0) =
      get bytes (flagOffset β) 1 := by
    simp only [decide_eq_true_eq]
    split <;> omega
  cases read
  refine ⟨eq_of_fields (by rw [total, length_serializeSnapshot]) (by rw [total, length]) ?_, rfl⟩
  obtain ⟨header, words, flag', padding'⟩ := @serializeSnapshot_fields β _ _
  rw [fields_split, fields_split, header, words, flag', padding', body, failed, zeros, ← magic,
    ← version, ← schema, ← moduleId]
  simp only [UInt32.toNat_ofNat_of_lt' (small 0 4 (by omega)),
    UInt16.toNat_ofNat_of_lt' (small 4 2 (by omega)),
    UInt16.toNat_ofNat_of_lt' (small 6 2 (by omega)),
    UInt64.toNat_ofNat_of_lt' (small 8 8 (by omega)),
    UInt64.toNat_ofNat_of_lt' (small 16 8 (by omega)),
    UInt64.toNat_ofNat_of_lt' (small 24 8 (by omega)),
    UInt64.toNat_ofNat_of_lt' (small 32 8 (by omega)),
    UInt64.toNat_ofNat_of_lt' (small 40 8 (by omega))]

end Module

def serializeHashChainSnapshot : HashChainCapture → List UInt8 := serializeSnapshot
def serializeBitAccumulatorSnapshot : BitAccumulatorCapture → List UInt8 := serializeSnapshot
def deserializeHashChainSnapshot : List UInt8 → Option HashChainCapture := deserializeSnapshot
def deserializeBitAccumulatorSnapshot : List UInt8 → Option BitAccumulatorCapture :=
  deserializeSnapshot

def hashChainSnapshotSize : ℕ := 64
def bitAccumulatorSnapshotSize : ℕ := 72

theorem length_serializeHashChainSnapshot {capture : HashChainCapture} :
    (serializeHashChainSnapshot capture).length = hashChainSnapshotSize := length_serializeSnapshot

theorem length_serializeBitAccumulatorSnapshot {capture : BitAccumulatorCapture} :
    (serializeBitAccumulatorSnapshot capture).length = bitAccumulatorSnapshotSize :=
  length_serializeSnapshot

/-! From here on the bytes are used through their lemmas only. -/
attribute [irreducible] serializeSnapshot deserializeSnapshot

end Fexma.SnapshotDemo
