import Fexma.Library.ByteLayout
import Fexma.Wal.Types

/-! The fixed application record of the snapshot demo (`record.hpp`): a kind, a generation
id and 48 bytes of data behind a magic and a version. -/
namespace Fexma.SnapshotDemo

open ByteLayout

def applicationMagic : UInt32 := 0x36303044
def applicationVersion : UInt16 := 1
def applicationPayloadSize : ℕ := 64
def applicationDataSize : ℕ := 48

abbrev ApplicationPayload := { bytes : List UInt8 // bytes.length = applicationPayloadSize }
abbrev ApplicationData := { bytes : List UInt8 // bytes.length = applicationDataSize }

inductive RecordKind where
  | data
  | saveSnapshot
  deriving DecidableEq, Repr

def RecordKind.toUInt16 : RecordKind → UInt16
  | data => 1
  | saveSnapshot => 2

structure ApplicationRecordView where
  kind : RecordKind := .data
  generationId : UInt64 := 0
  data : List UInt8 := []
  deriving DecidableEq, Repr

inductive DecodeStatus where
  | ok
  | invalidSize
  | invalidMagic
  | unsupportedVersion
  | invalidKind
  | invalidGeneration
  | nonZeroSnapshotData
  deriving DecidableEq, Repr

structure DecodeResult where
  status : DecodeStatus := .invalidSize
  record : ApplicationRecordView := {}
  deriving DecidableEq, Repr

def recordHeader (kind : RecordKind) : List UInt8 :=
  let payload := List.replicate applicationPayloadSize 0
  let payload := put payload 0 4 applicationMagic.toNat
  let payload := put payload 4 2 applicationVersion.toNat
  put payload 6 2 kind.toUInt16.toNat

@[simp] theorem length_recordHeader {kind : RecordKind} :
    (recordHeader kind).length = applicationPayloadSize := by
  simp only [recordHeader, length_put, List.length_replicate]

/-- The generation id of a data record stays zero. -/
def encodeData (data : ApplicationData) : ApplicationPayload :=
  ⟨splice (recordHeader .data) 16 data.val, length_splice.trans length_recordHeader⟩

def encodeSaveSnapshot (generationId : UInt64) : ApplicationPayload :=
  ⟨put (recordHeader .saveSnapshot) 8 8 generationId.toNat,
    length_put.trans length_recordHeader⟩

def decodeRecord (payload : List UInt8) : DecodeResult :=
  if payload.length ≠ applicationPayloadSize then { status := .invalidSize }
  else if UInt32.ofNat (get payload 0 4) ≠ applicationMagic then { status := .invalidMagic }
  else if UInt16.ofNat (get payload 4 2) ≠ applicationVersion then
    { status := .unsupportedVersion }
  else
    let rawKind := UInt16.ofNat (get payload 6 2)
    if rawKind ≠ RecordKind.data.toUInt16 && rawKind ≠ RecordKind.saveSnapshot.toUInt16 then
      { status := .invalidKind }
    else
      let record : ApplicationRecordView :=
        { kind := if rawKind = RecordKind.data.toUInt16 then .data else .saveSnapshot
          generationId := .ofNat (get payload 8 8)
          data := slice payload 16 applicationDataSize }
      if record.kind = .data && record.generationId ≠ 0 then { status := .invalidGeneration }
      else if record.kind = .saveSnapshot && record.data.any (· ≠ 0) then
        { status := .nonZeroSnapshotData }
      else { status := .ok, record }

/-! ### What the encoders write is read back -/

private theorem header_fields {kind : RecordKind} :
    get (recordHeader kind) 0 4 = applicationMagic.toNat ∧
      get (recordHeader kind) 4 2 = applicationVersion.toNat ∧
      get (recordHeader kind) 6 2 = kind.toUInt16.toNat ∧
      get (recordHeader kind) 8 8 = 0 ∧
      slice (recordHeader kind) 16 applicationDataSize = List.replicate applicationDataSize 0 := by
  cases kind with
  | data => decide
  | saveSnapshot => decide

theorem decodeRecord_encodeData (data : ApplicationData) :
    decodeRecord (encodeData data).val =
      { status := .ok, record := { kind := .data, data := data.val } } := by
  obtain ⟨data, length⟩ := data
  obtain ⟨magic, version, kind, generation, -⟩ := @header_fields .data
  have inside : 16 + data.length ≤ (recordHeader .data).length := by
    rw [length_recordHeader, length]
    decide
  have kept {start count : ℕ} (before : start + count ≤ 16) :
      get (splice (recordHeader .data) 16 data) start count = get (recordHeader .data) start count :=
    get_splice_apart inside (.inl before)
  have copied : slice (splice (recordHeader .data) 16 data) 16 applicationDataSize = data := by
    rw [← length]
    exact slice_splice inside
  unfold decodeRecord encodeData
  simp only [kept, copied, magic, version, kind, generation, length_splice, length_recordHeader,
    Nat.reduceAdd, Nat.reduceLeDiff, UInt32.ofNat_toNat, UInt16.ofNat_toNat]
  rfl

theorem decodeRecord_encodeSaveSnapshot (generationId : UInt64) :
    decodeRecord (encodeSaveSnapshot generationId).val =
      { status := .ok
        record :=
          { kind := .saveSnapshot, generationId
            data := List.replicate applicationDataSize 0 } } := by
  obtain ⟨magic, version, kind, -, zeros⟩ := @header_fields .saveSnapshot
  have inside : 8 + 8 ≤ (recordHeader .saveSnapshot).length := by
    rw [length_recordHeader]
    decide
  have kept {start count : ℕ} (before : start + count ≤ 8) :
      get (put (recordHeader .saveSnapshot) 8 8 generationId.toNat) start count =
        get (recordHeader .saveSnapshot) start count := get_put_apart inside (.inl before)
  have written : get (put (recordHeader .saveSnapshot) 8 8 generationId.toNat) 8 8 =
      generationId.toNat := get_put inside generationId.toNat_lt
  have copied : slice (put (recordHeader .saveSnapshot) 8 8 generationId.toNat) 16
      applicationDataSize = List.replicate applicationDataSize 0 := by
    rw [← zeros]
    exact slice_splice_apart (by rwa [length_encode]) (.inr (by rw [length_encode]))
  unfold decodeRecord encodeSaveSnapshot
  simp only [kept, written, copied, magic, version, kind, length_put, length_recordHeader,
    Nat.reduceAdd, Nat.reduceLeDiff, UInt32.ofNat_toNat, UInt16.ofNat_toNat, UInt64.ofNat_toNat]
  rfl

/-! ### Nothing else is read -/

/-- What a payload that decodes is made of, and what it decodes to. -/
structure Reads (payload : List UInt8) (recordKind : RecordKind) : Prop where
  length : payload.length = applicationPayloadSize
  magic : get payload 0 4 = applicationMagic.toNat
  version : get payload 4 2 = applicationVersion.toNat
  kind : get payload 6 2 = recordKind.toUInt16.toNat
  generation : recordKind = .data → UInt64.ofNat (get payload 8 8) = 0
  zeros : recordKind = .saveSnapshot →
    slice payload 16 applicationDataSize = List.replicate applicationDataSize 0
  decoded : decodeRecord payload =
    { status := .ok
      record :=
        { kind := recordKind, generationId := .ofNat (get payload 8 8)
          data := slice payload 16 applicationDataSize } }

section Canonical
variable {payload other : List UInt8} {recordKind : RecordKind}

/-- Each check of the decoder pins one field. -/
theorem reads_of_ok (ok : (decodeRecord payload).status = .ok) : ∃ recordKind, Reads payload recordKind := by
  have accepted := ok
  unfold decodeRecord at accepted
  split_ifs at accepted with length magic version
  rw [not_not] at length magic version
  have inside (offset width : ℕ) (le : offset + width ≤ 64) : offset + width ≤ payload.length :=
    length ▸ le
  have magicWord := toNat_word32 (inside 0 4 (by omega))
  have versionWord := toNat_word16 (inside 4 2 (by omega))
  have kindWord := toNat_word16 (inside 6 2 (by omega))
  rw [magic] at magicWord
  rw [version] at versionWord
  by_cases data : UInt16.ofNat (get payload 6 2) = RecordKind.data.toUInt16
  · have generation : UInt64.ofNat (get payload 8 8) = 0 := by
      by_contra nonzero
      simp [data, nonzero] at accepted
    rw [data] at kindWord
    refine ⟨.data, length, magicWord.symm, versionWord.symm, kindWord.symm, fun _ => generation, nofun, ?_⟩
    simp [decodeRecord, length, magic, version, data, generation]
  · have snapshot : UInt16.ofNat (get payload 6 2) = RecordKind.saveSnapshot.toUInt16 := by
      by_contra neither
      simp [data, neither] at accepted
    rw [snapshot] at data kindWord
    have zeros : ∀ byte ∈ slice payload 16 applicationDataSize, byte = 0 := by
      intro byte member
      by_contra nonzero
      have found : ∃ byte ∈ slice payload 16 applicationDataSize, ¬ byte = 0 := ⟨byte, member, nonzero⟩
      simp [snapshot, data, found] at accepted
    have size : (slice payload 16 applicationDataSize).length = applicationDataSize :=
      length_slice (inside 16 48 (by omega))
    have blank := List.eq_replicate_of_mem zeros
    rw [size] at blank
    refine ⟨.saveSnapshot, length, magicWord.symm, versionWord.symm, kindWord.symm, nofun, fun _ => blank, ?_⟩
    simp [decodeRecord, length, magic, version, snapshot, data, blank]

/-- Payloads that decode alike are the same. -/
theorem decodeRecord_injective (ok : (decodeRecord payload).status = .ok)
    (same : decodeRecord payload = decodeRecord other) : payload = other := by
  obtain ⟨recordKind, reads⟩ := reads_of_ok ok
  obtain ⟨otherKind, reads'⟩ := reads_of_ok (same ▸ ok)
  rw [reads.decoded, reads'.decoded] at same
  obtain ⟨kinds, generations, data⟩ := ApplicationRecordView.mk.inj (DecodeResult.mk.inj same).2
  have inside : 8 + 8 ≤ payload.length := by rw [reads.length]; decide
  have inside' : 8 + 8 ≤ other.length := by rw [reads'.length]; decide
  have generation : get payload 8 8 = get other 8 8 := by
    rw [← toNat_word64 inside, generations, toNat_word64 inside']
  have block : get payload 16 applicationDataSize = get other 16 applicationDataSize :=
    congrArg decode data
  refine @eq_of_fields _ _ [4, 2, 2, 8, applicationDataSize] reads.length.symm reads'.length.symm ?_
  simp only [fields, Nat.zero_add, Nat.reduceAdd, reads.magic, reads'.magic, reads.version,
    reads'.version, reads.kind, reads'.kind, kinds, generation, block]

theorem encodeData_of_reads (reads : Reads payload .data) : ∃ data, payload = (encodeData data).val := by
  have inside : 16 + applicationDataSize ≤ payload.length := by rw [reads.length]; decide
  refine ⟨⟨slice payload 16 applicationDataSize, length_slice inside⟩, ?_⟩
  refine decodeRecord_injective (by rw [reads.decoded]) ?_
  rw [reads.decoded, decodeRecord_encodeData, reads.generation rfl]

theorem encodeSaveSnapshot_of_reads (reads : Reads payload .saveSnapshot) :
    ∃ generationId, payload = (encodeSaveSnapshot generationId).val := by
  refine ⟨.ofNat (get payload 8 8), decodeRecord_injective (by rw [reads.decoded]) ?_⟩
  rw [reads.decoded, decodeRecord_encodeSaveSnapshot, reads.zeros rfl]

end Canonical

/-- The decoder accepts the images of the two encoders and nothing else. They are disjoint, and
what was encoded is what is decoded. -/
theorem record_codec_canonical :
    (∀ payload : List UInt8, (decodeRecord payload).status = .ok ↔
      (∃ data, payload = (encodeData data).val) ∨
        ∃ generationId, payload = (encodeSaveSnapshot generationId).val) ∧
    (∀ data, decodeRecord (encodeData data).val =
      { status := .ok, record := { kind := .data, generationId := 0, data := data.val } }) ∧
    (∀ generationId, decodeRecord (encodeSaveSnapshot generationId).val =
      { status := .ok
        record :=
          { kind := .saveSnapshot, generationId
            data := List.replicate applicationDataSize 0 } }) ∧
    (∀ data generationId, encodeData data ≠ encodeSaveSnapshot generationId) ∧
    encodeData.Injective ∧ encodeSaveSnapshot.Injective := by
  refine ⟨fun payload => ⟨fun ok => ?_, ?_⟩, decodeRecord_encodeData, decodeRecord_encodeSaveSnapshot,
    fun data generationId same => ?_, fun data other same => ?_, fun generationId other same => ?_⟩
  · obtain ⟨recordKind, reads⟩ := reads_of_ok ok
    cases recordKind with
    | data => exact .inl (encodeData_of_reads reads)
    | saveSnapshot => exact .inr (encodeSaveSnapshot_of_reads reads)
  · rintro (⟨data, rfl⟩ | ⟨generationId, rfl⟩)
    · rw [decodeRecord_encodeData]
    · rw [decodeRecord_encodeSaveSnapshot]
  · have decoded := decodeRecord_encodeData data
    rw [same, decodeRecord_encodeSaveSnapshot] at decoded
    cases decoded
  · have decoded := decodeRecord_encodeData data
    rw [same, decodeRecord_encodeData] at decoded
    exact Subtype.ext (ApplicationRecordView.mk.inj (DecodeResult.mk.inj decoded).2).2.2.symm
  · have decoded := decodeRecord_encodeSaveSnapshot generationId
    rw [same, decodeRecord_encodeSaveSnapshot] at decoded
    exact (ApplicationRecordView.mk.inj (DecodeResult.mk.inj decoded).2).2.1.symm

end Fexma.SnapshotDemo
