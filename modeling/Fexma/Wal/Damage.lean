import Fexma.Wal.Recovery
import Fexma.Wal.RoundTrip

/-! A log with a single damaged byte. The checksums cover headers and payloads, and padding
has one value only, so the reader comes to the damaged record and stops there. -/
namespace Fexma.Wal

open TornLog WalReader PhysicalWalAdapter

variable {config : WalConfig} {payloads : List (List UInt8)} {rest left right : List UInt8}
variable {payload payload' : List UInt8} {byte byte' : UInt8} {sequence : UInt64} {next n : ℕ}

theorem take_middle (inside : left.length < n) : (left ++ byte :: right).take n =
    left ++ byte :: right.take (n - (left.length + 1)) := by
  obtain ⟨more, rfl⟩ : ∃ more, n = left.length + (more + 1) := ⟨n - (left.length + 1), by omega⟩
  rw [List.take_length_add_append, List.take_succ_cons]
  congr 3
  omega

theorem drop_middle (inside : left.length < n) : (left ++ byte :: right).drop n =
    right.drop (n - (left.length + 1)) := by
  obtain ⟨more, rfl⟩ : ∃ more, n = left.length + (more + 1) := ⟨n - (left.length + 1), by omega⟩
  rw [List.drop_length_add_append, List.drop_succ_cons]
  congr 1
  omega

theorem middle_inj (same : left ++ byte :: right = left ++ byte' :: right) : byte = byte' :=
  (List.cons.inj (List.append_cancel_left same)).1

/-- A record header determines the checksum of the payload. -/
theorem crc32Bytes_eq_of_header (same : serializeRecordHeader (recordHeader sequence payload) =
    serializeRecordHeader (recordHeader sequence payload')) :
    crc32Bytes payload = crc32Bytes payload' := by
  have header := congrArg deserializeRecordHeader same
  rw [deserialize_serializeRecordHeader, deserialize_serializeRecordHeader, Option.some.injEq]
    at header
  exact congrArg RecordHeader.payloadCrc32 header

/-- Two frames of the same sequence never differ in a single byte. -/
theorem recordFrame_apart (size : payload.length = config.payloadSize.toNat)
    (size' : payload'.length = config.payloadSize.toNat)
    (frame : recordFrame config sequence payload = left ++ byte :: right)
    (frame' : recordFrame config sequence payload' = left ++ byte' :: right) : byte = byte' := by
  have settled (same : payload = payload') : byte = byte' := by
    rw [same, frame'] at frame
    exact (middle_inj frame).symm
  have header := length_serializeRecordHeader (recordHeader sequence payload)
  have header' := length_serializeRecordHeader (recordHeader sequence payload')
  rw [recordFrame] at frame frame'
  by_cases place : left.length < 24
  · -- The payloads stand behind the byte.
    have body := congrArg (List.drop 24) frame
    have body' := congrArg (List.drop 24) frame'
    rw [drop_middle place, List.drop_left' header] at body
    rw [drop_middle place, List.drop_left' header'] at body'
    exact settled (List.append_inj_left (body.trans body'.symm) (size.trans size'.symm))
  rw [Nat.not_lt] at place
  have front := congrArg (List.take 24) frame
  have front' := congrArg (List.take 24) frame'
  rw [List.take_append_of_le_length place, List.take_left' header] at front
  rw [List.take_append_of_le_length place, List.take_left' header'] at front'
  have crc := crc32Bytes_eq_of_header (front.trans front'.symm)
  have body := congrArg (List.drop 24) frame
  have body' := congrArg (List.drop 24) frame'
  rw [List.drop_append_of_le_length place, List.drop_left' header] at body
  rw [List.drop_append_of_le_length place, List.drop_left' header'] at body'
  have whole := congrArg (List.take config.payloadSize.toNat) body
  have whole' := congrArg (List.take config.payloadSize.toNat) body'
  rw [List.take_left' size] at whole
  rw [List.take_left' size'] at whole'
  by_cases within : (left.drop 24).length < config.payloadSize.toNat
  · rw [take_middle within] at whole whole'
    rw [whole, whole'] at crc
    exact byte_eq_of_crc32Bytes_eq crc
  · -- The payloads stand before the byte.
    rw [List.take_append_of_le_length (Nat.not_lt.mp within)] at whole whole'
    exact settled (whole.trans whole'.symm)

/-- An unfinished record is shorter than a whole one. -/
theorem TornTail.short (valid : Valid config) (torn : TornTail config next rest) :
    rest.length < (alignedRecordSize config).toNat := by
  have above := @le_alignUp (24 + config.payloadSize.toNat) _ (toNat_pos valid.aligned)
  have stride := alignedRecordSize_toNat valid.aligned
  have padding := paddingSize_toNat valid.aligned
  cases torn with
  | header some_bytes short => omega
  | payload payloadCrc32 inside short =>
    rw [List.length_append, length_serializeRecordHeader]
    omega
  | padding inside size short zeros =>
    rw [List.length_append, length_serializeRecordHeader, List.length_append]
    omega

theorem getElem?_recordFrames : (recordFrames config sequence payloads)[n]? =
    payloads[n]?.map (recordFrame config (sequence + .ofNat n)) := by
  induction payloads generalizing sequence n with
  | nil => rfl
  | cons payload payloads ih =>
    cases n with
    | zero =>
      have zero : sequence + UInt64.ofNat 0 = sequence := UInt64.add_zero sequence
      rw [recordFrames, List.getElem?_cons_zero, List.getElem?_cons_zero, Option.map_some, zero]
    | succ n =>
      rw [recordFrames, List.getElem?_cons_succ, List.getElem?_cons_succ, ih, UInt64.ofNat_add,
        UInt64.ofNat_one, UInt64.add_assoc, UInt64.add_comm 1]

/-- The damaged file is the log up to the damaged record, and a tail that is neither a record
nor an unfinished one. -/
theorem damaged_tail (valid : Valid config) (loggable : Loggable config payloads)
    (image : fileImage config payloads = left ++ byte :: right) (changed : byte' ≠ byte)
    (behind : (recordsOffset config).toNat ≤ left.length) : ∃ n tail, n < payloads.length ∧
      n = (left.length - (recordsOffset config).toNat) / (alignedRecordSize config).toNat ∧
      left ++ byte' :: right = fileImage config (payloads.take n) ++ tail ∧ tail ≠ [] ∧
      ¬ RecordAhead config (config.firstSequence.toNat + n) tail ∧
      ¬ TornTail config (config.firstSequence.toNat + n) tail := by
  have head := length_fileHead valid
  obtain ⟨left', rfl⟩ : ∃ left', left = fileHead config ++ left' := by
    have front : fileHead config <+: left ++ byte :: right :=
      image ▸ List.prefix_append _ _
    obtain ⟨left', same⟩ := List.prefix_of_prefix_length_le front (List.prefix_append _ _)
      (head ▸ behind)
    exact ⟨left', same.symm⟩
  rw [fileImage, List.append_assoc] at image
  obtain ⟨n, torn, after, here, early, late⟩ := exists_frame (List.append_cancel_left image)
  rw [getElem?_recordFrames, Option.map_eq_some_iff] at here
  obtain ⟨payload, found, frame⟩ := here
  obtain ⟨inside, -⟩ := List.getElem?_eq_some_iff.mp found
  have size := loggable.sizes payload (List.mem_of_getElem? found)
  have stride := @length_recordFrame config payload (config.firstSequence + .ofNat n) valid size
  have sizes : ∀ payload ∈ payloads.take n, payload.length = config.payloadSize.toNat :=
    fun payload member => loggable.sizes payload (List.mem_of_mem_take member)
  have front : (kept (recordFrames config config.firstSequence payloads) n).length =
      n * (alignedRecordSize config).toNat := by
    rw [kept, take_recordFrames, length_flatten_recordFrames valid sizes,
      List.length_take_of_le (Nat.le_of_lt inside)]
  have torn_length : torn.length < (alignedRecordSize config).toNat := by
    rw [← stride, frame, List.length_append, List.length_cons]
    omega
  have whole : (torn ++ byte' :: after).length = (alignedRecordSize config).toNat := by
    rw [← stride, frame, List.length_append, List.length_append, List.length_cons,
      List.length_cons]
  refine ⟨n, torn ++ byte' :: right, inside, ?_, ?_, ?_, ?_, ?_⟩
  · rw [early, List.length_append, List.length_append, head, front, Nat.add_sub_cancel_left,
      Nat.add_comm, Nat.add_mul_div_right _ _ (by omega), Nat.div_eq_of_lt torn_length,
      Nat.zero_add]
  · rw [fileImage_take, early, List.append_assoc, List.append_assoc, List.append_assoc]
  · exact List.append_ne_nil_of_right_ne_nil _ (List.cons_ne_nil _ _)
  · rintro ⟨payload', more, -, size', same⟩
    rw [late, ← List.cons_append, ← List.append_assoc] at same
    have frame' := List.append_inj_left same
      (whole.trans (length_recordFrame valid size').symm)
    rw [UInt64.ofNat_add, UInt64.ofNat_toNat] at frame'
    exact changed (recordFrame_apart size size' frame frame'.symm).symm
  · intro unfinished
    have short := unfinished.short valid
    rw [late, ← List.cons_append, ← List.append_assoc, List.length_append, whole] at short
    omega

/-- A damaged header area is no header area. -/
theorem damaged_head {file : DiskFile} (valid : Valid config)
    (image : fileImage config payloads = left ++ byte :: right)
    (damaged : file.bytes = left ++ byte' :: right) (changed : byte' ≠ byte)
    (inside : left.length < (recordsOffset config).toNat) : ¬ fileHead config <+: file.bytes := by
  intro head
  have length := length_fileHead valid
  have front : fileHead config <+: left ++ byte :: right := image ▸ List.prefix_append _ _
  have same := (List.prefix_iff_eq_take.mp front).symm.trans (List.prefix_iff_eq_take.mp head)
  rw [damaged, length, take_middle inside, take_middle inside] at same
  exact changed (middle_inj same).symm

theorem recover_refused {answers : TruncationAnswers} {file : DiskFile}
    (corrupted : (scanWal (some file) config).status = .corrupted) :
    (recoverIncompleteTail answers (some file) config).1.status = .refused ∧
      (recoverIncompleteTail answers (some file) config).2 = some file := by
  simp only [recoverIncompleteTail, corrupted, resultFromScan, and_self]

/-- A single changed byte never passes: it is found where it stands, the records before it are
returned as they were written, and recovery does not touch the file. -/
theorem single_byte_damage (config : WalConfig) (payloads : List (List UInt8))
    (file damaged : DiskFile) (left right : List UInt8) (byte byte' : UInt8)
    (valid : validConfig config) (written : Written config payloads file.bytes)
    (before : file.bytes = left ++ byte :: right)
    (after : damaged.bytes = left ++ byte' :: right) (changed : byte' ≠ byte) :
    (scanWal (some damaged) config).status ≠ .clean ∧
    (scanWal (some damaged) config).status ≠ .incompleteTail ∧
    (left.length < (recordsOffset config).toNat → ∀ reader : WalReader, reader.isOpen = false →
      (reader.open_ (some damaged) config).1.status = .failed ∧
        (reader.open_ (some damaged) config).2.isOpen = false) ∧
    ((recordsOffset config).toNat ≤ left.length →
      (left.length - (recordsOffset config).toNat) / (alignedRecordSize config).toNat <
        payloads.length ∧
      ∀ reader : WalReader, reader.isOpen = false → ∃ opened,
        reader.open_ (some damaged) config = ({ status := .ok }, opened) ∧
        ∀ buffers : List (List UInt8),
          (∀ buffer ∈ buffers, buffer.length = config.payloadSize.toNat) → ∃ failures,
          readCalls opened buffers = (recordAnswers config 0 (payloads.take
            ((left.length - (recordsOffset config).toNat) /
              (alignedRecordSize config).toNat))).take buffers.length ++ failures ∧
          ∀ failure ∈ failures, failure.1.status = .failed) ∧
    ∀ answers, (recoverIncompleteTail answers (some damaged) config).1.status = .refused ∧
      (recoverIncompleteTail answers (some damaged) config).2 = some damaged := by
  have valid := validConfig_iff.mp valid
  obtain ⟨loggable, image, -⟩ := written_iff.mp written
  rw [before] at image
  have refused (corrupted : (scanWal (some damaged) config).status = .corrupted) :
      (scanWal (some damaged) config).status ≠ .clean ∧
        (scanWal (some damaged) config).status ≠ .incompleteTail ∧
        ∀ answers, (recoverIncompleteTail answers (some damaged) config).1.status = .refused ∧
          (recoverIncompleteTail answers (some damaged) config).2 = some damaged :=
    ⟨by simp [corrupted], by simp [corrupted], fun _ => recover_refused corrupted⟩
  by_cases place : left.length < (recordsOffset config).toNat
  · have other := damaged_head valid image.symm after changed place
    obtain ⟨error, scan⟩ := scanWal_refused valid other
    obtain ⟨unclean, uncut, recovery⟩ := refused (by rw [scan])
    refine ⟨unclean, uncut, fun _ reader closed => ?_, fun behind => ?_, recovery⟩
    · obtain ⟨error, -, -, failed⟩ := open_refused valid.single closed other
      rw [failed]
      exact ⟨rfl, rfl⟩
    · exact absurd place (Nat.not_lt.mpr behind)
  · have behind := Nat.not_lt.mp place
    obtain ⟨n, tail, inside, number, content, some_bytes, stop, untorn⟩ :=
      damaged_tail valid loggable image.symm changed behind
    rw [← after] at content
    have early : Loggable config (payloads.take n) := by
      refine ⟨fun payload member => loggable.sizes payload (List.mem_of_mem_take member), ?_⟩
      have sequences := loggable.sequences
      rw [List.length_take_of_le (Nat.le_of_lt inside)]
      omega
    have short : (payloads.take n).length = n := List.length_take_of_le (Nat.le_of_lt inside)
    obtain ⟨status, error, kind, -, scan⟩ := scanWal_image valid early content (by rwa [short])
    rw [short] at kind
    have corrupted := kind.corrupted_iff.mpr ⟨some_bytes, untorn⟩
    obtain ⟨unclean, uncut, recovery⟩ := refused (by rw [scan]; exact corrupted)
    refine ⟨unclean, uncut, fun front => absurd front place, fun _ => ⟨number ▸ inside, ?_⟩,
      recovery⟩
    intro reader closed
    rw [fileImage, List.append_assoc] at content
    refine ⟨_, open_fileHead valid.single closed content, fun buffers fits => ?_⟩
    rw [← readingAt_zero, readCalls_image valid early fits, short, ← number]
    refine ⟨_, rfl, readCalls_stops fun buffer member => ?_⟩
    have sequences : config.firstSequence.toNat + n ≤ 2 ^ 64 := by
      have := loggable.sequences
      omega
    have fit := fits buffer (List.mem_of_mem_drop member)
    rcases readNext_cases valid.single sequences fit with empty | ahead | torn | stops
    · exact absurd empty some_bytes
    · exact absurd ahead stop
    · exact absurd torn untorn
    · exact ⟨_, stops⟩

/-- The payload of a record is changed. -/
theorem single_byte_damage_payload : ∃ damaged : DiskFile,
    damaged.bytes = (fileHead byteConfig ++ serializeRecordHeader (recordHeader 1 [7])) ++
      9 :: List.replicate (paddingSize byteConfig).toNat 0 ∧
    (scanWal (some damaged) byteConfig).status ≠ .clean := by
  have valid := validConfig_iff.mp byteConfig_valid
  have loggable : Loggable byteConfig [[7]] := ⟨by simp [byteConfig], by decide⟩
  have image : fileImage byteConfig [[7]] =
      (fileHead byteConfig ++ serializeRecordHeader (recordHeader 1 [7])) ++
        7 :: List.replicate (paddingSize byteConfig).toNat 0 := by
    rw [fileImage, recordFrames, recordFrames, List.flatten_cons, List.flatten_nil,
      List.append_nil, recordFrame, List.append_assoc]
    rfl
  have room : (fileImage byteConfig [[7]]).length ≤ maxFileSize := by
    rw [length_fileImage valid loggable.sizes]
    decide
  have room' : ((fileHead byteConfig ++ serializeRecordHeader (recordHeader 1 [7])) ++
      9 :: List.replicate (paddingSize byteConfig).toNat 0).length ≤ maxFileSize := by
    rw [image, List.length_append, List.length_cons] at room
    rwa [List.length_append, List.length_cons]
  let file : DiskFile := ⟨_, room⟩
  let damaged : DiskFile := ⟨_, room'⟩
  refine ⟨damaged, rfl, ?_⟩
  exact (single_byte_damage byteConfig [[7]] file damaged _ _ 7 9 byteConfig_valid
    (written_iff.mpr ⟨loggable, rfl, room⟩) image rfl (by decide)).1

end Fexma.Wal
