import Fexma.SnapshotDemo.SnapshotFormat

/-! The description file of a snapshot (`snapshot_format.cpp`): the identity of the stream
and of the composition, the boundary of the generation, and what the two module files must
be. Its own checksum covers everything in front of it. -/
namespace Fexma.SnapshotDemo

open ByteLayout Wal

def descriptionMagic : UInt32 := 0x36445346
def requiredModuleCount : UInt32 := 2
def snapshotDescriptionSize : ℕ := 152

/-- `unknown` is a value outside the enumeration. -/
inductive SnapshotFileKind where
  | hashChain
  | bitAccumulator
  | unknown (value : UInt32) (outside : value ≠ 1 ∧ value ≠ 2)
  deriving DecidableEq, Repr

namespace SnapshotFileKind

def toUInt32 : SnapshotFileKind → UInt32
  | hashChain => 1
  | bitAccumulator => 2
  | unknown value _ => value

def ofUInt32 (value : UInt32) : SnapshotFileKind :=
  if hash : value = 1 then hashChain
  else if bits : value = 2 then bitAccumulator
  else unknown value ⟨hash, bits⟩

@[simp] theorem ofUInt32_toUInt32 (kind : SnapshotFileKind) : ofUInt32 kind.toUInt32 = kind := by
  cases kind with
  | hashChain => rfl
  | bitAccumulator => rfl
  | unknown value outside => rw [toUInt32, ofUInt32, dif_neg outside.1, dif_neg outside.2]

@[simp] theorem toUInt32_ofUInt32 (value : UInt32) : (ofUInt32 value).toUInt32 = value := by
  unfold ofUInt32
  split_ifs with hash bits
  · exact hash.symm
  · exact bits.symm
  · rfl

end SnapshotFileKind

structure SnapshotIdentity where
  streamKind : StreamKind := .generic
  streamId : StreamId := 0
  epochId : Wal.EpochId := 0
  manifestId : ManifestId := 0
  compositionId : UInt64 := 0
  deriving DecidableEq, Repr

structure SnapshotModuleDescription where
  moduleId : UInt64
  schemaVersion : UInt32
  fileKind : SnapshotFileKind
  fileSize : UInt64
  checksum : UInt32
  deriving DecidableEq, Repr

structure SnapshotDescription where
  identity : SnapshotIdentity
  generationId : UInt64
  recordPosition : Position
  processedEnd : Position
  snapshotSequence : UInt64
  hashChain : SnapshotModuleDescription
  bitAccumulator : SnapshotModuleDescription
  deriving DecidableEq, Repr

def putModuleDescription (out : List UInt8) (offset : ℕ) (module : SnapshotModuleDescription) :
    List UInt8 :=
  let out := put out offset 8 module.moduleId.toNat
  let out := put out (offset + 8) 4 module.schemaVersion.toNat
  let out := put out (offset + 12) 4 module.fileKind.toUInt32.toNat
  let out := put out (offset + 16) 8 module.fileSize.toNat
  put out (offset + 24) 4 module.checksum.toNat

def getModuleDescription (bytes : List UInt8) (offset : ℕ) : SnapshotModuleDescription where
  moduleId := .ofNat (get bytes offset 8)
  schemaVersion := .ofNat (get bytes (offset + 8) 4)
  fileKind := .ofUInt32 (.ofNat (get bytes (offset + 12) 4))
  fileSize := .ofNat (get bytes (offset + 16) 8)
  checksum := .ofNat (get bytes (offset + 24) 4)

/-- The description in front of its checksum. -/
def describedBytes (description : SnapshotDescription) : List UInt8 :=
  let out := List.replicate snapshotDescriptionSize 0
  let out := put out 0 4 descriptionMagic.toNat
  let out := put out 4 2 snapshotFormatVersion.toNat
  let out := put out 6 2 snapshotDescriptionSize
  let out := put out 8 8 description.identity.compositionId.toNat
  let out := put out 16 8 description.identity.streamId.toNat
  let out := put out 24 8 description.identity.epochId.toNat
  let out := put out 32 8 description.identity.manifestId.toNat
  let out := put out 40 8 description.generationId.toNat
  let out := put out 48 8 description.recordPosition.toNat
  let out := put out 56 8 description.processedEnd.toNat
  let out := put out 64 8 description.snapshotSequence.toNat
  let out := put out 72 4 requiredModuleCount.toNat
  let out := put out 76 2 description.identity.streamKind.toUInt16.toNat
  let out := putModuleDescription out 80 description.hashChain
  putModuleDescription out 112 description.bitAccumulator

def serializeSnapshotDescription (description : SnapshotDescription) : List UInt8 :=
  let out := describedBytes description
  put out 144 4 (crc32Bytes (out.take 144)).toNat

def deserializeSnapshotDescription (bytes : List UInt8) : Option SnapshotDescription :=
  if bytes.length ≠ snapshotDescriptionSize || UInt32.ofNat (get bytes 0 4) ≠ descriptionMagic ||
      UInt16.ofNat (get bytes 4 2) ≠ snapshotFormatVersion ||
      get bytes 6 2 ≠ snapshotDescriptionSize ||
      UInt32.ofNat (get bytes 72 4) ≠ requiredModuleCount || get bytes 78 2 ≠ 0 ||
      get bytes 108 4 ≠ 0 || get bytes 140 4 ≠ 0 || get bytes 148 4 ≠ 0 ||
      UInt32.ofNat (get bytes 144 4) ≠ crc32Bytes (bytes.take 144) then none
  else
    let decoded : SnapshotDescription :=
      { identity :=
          { streamKind := .ofUInt16 (.ofNat (get bytes 76 2))
            compositionId := .ofNat (get bytes 8 8)
            streamId := .ofNat (get bytes 16 8)
            epochId := .ofNat (get bytes 24 8)
            manifestId := .ofNat (get bytes 32 8) }
        generationId := .ofNat (get bytes 40 8)
        recordPosition := .ofNat (get bytes 48 8)
        processedEnd := .ofNat (get bytes 56 8)
        snapshotSequence := .ofNat (get bytes 64 8)
        hashChain := getModuleDescription bytes 80
        bitAccumulator := getModuleDescription bytes 112 }
    if !decoded.identity.streamKind.valid || decoded.hashChain.fileKind ≠ .hashChain ||
        decoded.bitAccumulator.fileKind ≠ .bitAccumulator then none
    else some decoded

/-! ### The layout -/

variable {description : SnapshotDescription} {bytes : List UInt8}

private def moduleTable (module : SnapshotModuleDescription) : List (ℕ × Option ℕ) :=
  [(8, some module.moduleId.toNat), (4, some module.schemaVersion.toNat),
    (4, some module.fileKind.toUInt32.toNat), (8, some module.fileSize.toNat),
    (4, some module.checksum.toNat), (4, none)]

private def descriptionTable (description : SnapshotDescription) (checksum : ℕ) :
    List (ℕ × Option ℕ) :=
  [(4, some descriptionMagic.toNat), (2, some snapshotFormatVersion.toNat),
    (2, some snapshotDescriptionSize), (8, some description.identity.compositionId.toNat),
    (8, some description.identity.streamId.toNat), (8, some description.identity.epochId.toNat),
    (8, some description.identity.manifestId.toNat), (8, some description.generationId.toNat),
    (8, some description.recordPosition.toNat), (8, some description.processedEnd.toNat),
    (8, some description.snapshotSequence.toNat), (4, some requiredModuleCount.toNat),
    (2, some description.identity.streamKind.toUInt16.toNat), (2, none)] ++
  moduleTable description.hashChain ++ moduleTable description.bitAccumulator ++
  [(4, some checksum), (4, none)]

def descriptionWidths : List ℕ :=
  [4, 2, 2, 8, 8, 8, 8, 8, 8, 8, 8, 4, 2, 2, 8, 4, 4, 8, 4, 4, 8, 4, 4, 8, 4, 4, 4, 4]

private theorem serializeSnapshotDescription_gapped :
    serializeSnapshotDescription description =
      putGapped (List.replicate snapshotDescriptionSize 0) 0
        (descriptionTable description (crc32Bytes ((describedBytes description).take 144)).toNat) :=
  rfl

@[simp] theorem length_serializeSnapshotDescription :
    (serializeSnapshotDescription description).length = snapshotDescriptionSize := by
  simp only [serializeSnapshotDescription, describedBytes, putModuleDescription, length_put,
    List.length_replicate]

/-- Over zeros the gaps of the source are fields that hold zero. -/
private theorem fields_serializeSnapshotDescription :
    fields (serializeSnapshotDescription description) 0 descriptionWidths =
      (descriptionTable description
        (crc32Bytes ((describedBytes description).take 144)).toNat).map fun field =>
          field.2.getD 0 := by
  rw [serializeSnapshotDescription_gapped]
  generalize crc32Bytes ((describedBytes description).take 144) = checksum
  have zeros (index : ℕ) (_ : 0 ≤ index)
      (below : index < (List.replicate snapshotDescriptionSize (0 : UInt8)).length) :
      (List.replicate snapshotDescriptionSize (0 : UInt8))[index]? = some 0 := by
    rw [List.length_replicate] at below
    rw [List.getElem?_replicate, if_pos below]
  have widths : ((descriptionTable description checksum.toNat).map fun field =>
      (field.1, field.2.getD 0)).map Prod.fst = descriptionWidths := rfl
  have values : ((descriptionTable description checksum.toNat).map fun field =>
      (field.1, field.2.getD 0)).map Prod.snd =
        (descriptionTable description checksum.toNat).map fun field => field.2.getD 0 := rfl
  have room : 0 + descriptionWidths.sum ≤
      (List.replicate snapshotDescriptionSize (0 : UInt8)).length := by
    rw [List.length_replicate]
    decide
  rw [putGapped_eq room zeros, ← values, ← widths]
  refine fields_putFields room ?_
  simp only [descriptionTable, moduleTable, List.cons_append, List.nil_append, List.map_cons,
    List.map_nil, Option.getD_some, Option.getD_none, List.forall_mem_cons, List.not_mem_nil,
    false_implies, implies_true, and_true]
  refine ⟨UInt32.toNat_lt _, UInt16.toNat_lt _, by decide, UInt64.toNat_lt _, UInt64.toNat_lt _,
    UInt64.toNat_lt _, UInt64.toNat_lt _, UInt64.toNat_lt _, UInt64.toNat_lt _, UInt64.toNat_lt _,
    UInt64.toNat_lt _, UInt32.toNat_lt _, UInt16.toNat_lt _, by decide, UInt64.toNat_lt _,
    UInt32.toNat_lt _, UInt32.toNat_lt _, UInt64.toNat_lt _, UInt32.toNat_lt _, by decide,
    UInt64.toNat_lt _, UInt32.toNat_lt _, UInt32.toNat_lt _, UInt64.toNat_lt _, UInt32.toNat_lt _,
    by decide, UInt32.toNat_lt _, by decide⟩

/-- The checksum is written behind the bytes that it covers. -/
private theorem take_serializeSnapshotDescription :
    (serializeSnapshotDescription description).take 144 = (describedBytes description).take 144 := by
  have length : (describedBytes description).length = snapshotDescriptionSize := by
    simp only [describedBytes, putModuleDescription, length_put, List.length_replicate]
  have kept := @slice_splice_apart _ (describedBytes description)
    (encode 4 (crc32Bytes ((describedBytes description).take 144)).toNat) 144 0 144
    (by rw [length, length_encode]; decide) (.inl (by decide))
  simp only [slice, List.drop_zero] at kept
  exact kept

/-- A description of the known kinds is read back. -/
theorem deserialize_serializeSnapshotDescription
    (kind : description.identity.streamKind.valid)
    (hash : description.hashChain.fileKind = .hashChain)
    (bits : description.bitAccumulator.fileKind = .bitAccumulator) :
    deserializeSnapshotDescription (serializeSnapshotDescription description) =
      some description := by
  have read := @fields_serializeSnapshotDescription description
  rw [← take_serializeSnapshotDescription] at read
  have length := @length_serializeSnapshotDescription description
  generalize serializeSnapshotDescription description = bytes at read length ⊢
  simp only [fields, descriptionWidths, descriptionTable, moduleTable, List.cons_append,
    List.nil_append, List.map_cons, List.map_nil, Option.getD_some, Option.getD_none,
    List.cons.injEq, and_true, Nat.reduceAdd] at read
  obtain ⟨magic, version, size, composition, stream, epoch, manifest, generation, position, ends,
    sequence, count, streamKind, gap, hashId, hashSchema, hashKind, hashSize, hashChecksum, gap',
    bitsId, bitsSchema, bitsKind, bitsSize, bitsChecksum, gap'', checksum, padding⟩ := read
  unfold deserializeSnapshotDescription getModuleDescription
  simp only [Nat.reduceAdd]
  rw [length, magic, version, size, composition, stream, epoch, manifest, generation, position, ends, sequence, count, streamKind, gap, hashId, hashSchema, hashKind,
    hashSize, hashChecksum, gap', bitsId, bitsSchema, bitsKind, bitsSize, bitsChecksum, gap'',
    checksum, padding]
  simp only [UInt32.ofNat_toNat, UInt16.ofNat_toNat, UInt64.ofNat_toNat,
    StreamKind.ofUInt16_toUInt16, SnapshotFileKind.ofUInt32_toUInt32]
  rw [if_neg (by simp), if_neg (by simp [kind, hash, bits])]

/-- Every byte of an accepted description is one that the serialisation writes. -/
theorem serialize_deserializeSnapshotDescription
    (read : deserializeSnapshotDescription bytes = some description) :
    serializeSnapshotDescription description = bytes ∧ description.identity.streamKind.valid ∧
      description.hashChain.fileKind = .hashChain ∧
      description.bitAccumulator.fileKind = .bitAccumulator := by
  unfold deserializeSnapshotDescription at read
  dsimp only at read
  split_ifs at read with checks kinds
  simp only [Bool.or_eq_true, decide_eq_true_eq, not_or, ne_eq, not_not,
    Bool.not_eq_eq_eq_not, Bool.not_true, Bool.not_eq_false] at checks kinds
  obtain ⟨⟨⟨⟨⟨⟨⟨⟨⟨length, magic⟩, version⟩, size⟩, count⟩, gap⟩, gap'⟩, gap''⟩, padding⟩, checksum⟩ :=
    checks
  obtain ⟨⟨kind, hash⟩, bits⟩ := kinds
  have written := @fields_serializeSnapshotDescription description
  rw [← take_serializeSnapshotDescription] at written
  have length' := @length_serializeSnapshotDescription description
  generalize serializeSnapshotDescription description = out at written length' ⊢
  have whole : snapshotDescriptionSize = 152 := rfl
  cases read
  refine ⟨?_, kind, hash, bits⟩
  simp (disch := omega) only [fields, descriptionWidths, descriptionTable, moduleTable,
    getModuleDescription, List.cons_append, List.nil_append, List.map_cons, List.map_nil,
    Option.getD_some, Option.getD_none, List.cons.injEq, and_true, Nat.reduceAdd,
    StreamKind.toUInt16_ofUInt16, SnapshotFileKind.toUInt32_ofUInt32, toNat_word64, toNat_word32,
    toNat_word16, ← magic, ← version, ← count] at written
  obtain ⟨magic', version', size', composition, stream, epoch, manifest, generation, position, ends,
    sequence, count', streamKind, none, hashId, hashSchema, hashKind, hashSize, hashChecksum, none',
    bitsId, bitsSchema, bitsKind, bitsSize, bitsChecksum, none'', checksum', padding'⟩ := written
  have front : slice out 0 (descriptionWidths.take 26).sum =
      slice bytes 0 (descriptionWidths.take 26).sum := by
    refine slice_eq_of_fields (by rw [length']; decide) (by rw [length]; decide) ?_
    simp only [fields, descriptionWidths, List.take_succ_cons, List.take_zero, Nat.reduceAdd, magic', version', size', size, composition,
      stream, epoch, manifest, generation, position, ends, sequence, count', streamKind, none, gap,
      hashId, hashSchema, hashKind, hashSize, hashChecksum, none', gap', bitsId, bitsSchema, bitsKind,
      bitsSize, bitsChecksum, none'', gap'']
  change out.take 144 = bytes.take 144 at front
  rw [front, ← checksum, toNat_word32 (by omega)] at checksum'
  refine @eq_of_fields _ _ descriptionWidths (by rw [length']; rfl) (by rw [length]; rfl) ?_
  simp only [fields, descriptionWidths, Nat.reduceAdd, magic', version', size', size, composition,
    stream, epoch, manifest, generation, position, ends, sequence, count', streamKind, none, gap,
    hashId, hashSchema, hashKind, hashSize, hashChecksum, none', gap', bitsId, bitsSchema, bitsKind,
    bitsSize, bitsChecksum, none'', gap'', checksum', padding', padding]

/-! From here on the bytes are used through their lemmas only. -/
attribute [irreducible] serializeSnapshotDescription deserializeSnapshotDescription

end Fexma.SnapshotDemo
