import Fexma.Wal.Damage

/-! What recovery does to a file: nothing, or it cuts off a tail that the scanner has found
unfinished. A log cut anywhere behind its header area is such a file. -/
namespace Fexma.Wal

open TornLog WalReader PhysicalWalAdapter

variable {config : WalConfig} {payloads : List (List UInt8)} {part tail payload : List UInt8}
variable {next n : ℕ} {file : DiskFile}

/-! ### Logs cut short -/

/-- A record cut short is an unfinished record: each of its checks passes up to the cut. -/
theorem tornTail_of_prefix (inside : next < 2 ^ 64)
    (size : payload.length = config.payloadSize.toNat)
    (early : part <+: recordFrame config (.ofNat next) payload)
    (short : part.length < (recordFrame config (.ofNat next) payload).length)
    (some_bytes : part ≠ []) : TornTail config next part := by
  have header := length_serializeRecordHeader (recordHeader (.ofNat next) payload)
  rw [recordFrame] at early short
  by_cases cut : part.length < 24
  · exact .header some_bytes cut
  have front := List.prefix_of_prefix_length_le (List.prefix_append _ _) early
    (header ▸ Nat.not_lt.mp cut)
  obtain ⟨behind, rfl⟩ := front
  rw [List.prefix_append_right_inj] at early
  rw [List.length_append, List.length_append] at short
  by_cases cut : behind.length < config.payloadSize.toNat
  · rw [recordHeader_eq]
    exact .payload _ inside cut
  have body := List.prefix_of_prefix_length_le (List.prefix_append _ _) early
    (size ▸ Nat.not_lt.mp cut)
  obtain ⟨padding, rfl⟩ := body
  rw [List.prefix_append_right_inj] at early
  rw [List.length_append, List.length_append, List.length_replicate] at short
  refine .padding inside size (by omega) fun byte member => ?_
  exact List.eq_of_mem_replicate (early.subset (List.mem_of_mem_take member))

/-- A log cut short behind its header area: some of its records, and an unfinished one. -/
theorem image_prefix (valid : Valid config) (loggable : Loggable config payloads)
    (early : part <+: fileImage config payloads)
    (head : (recordsOffset config).toNat ≤ part.length) : ∃ n tail, n ≤ payloads.length ∧
      n = (part.length - (recordsOffset config).toNat) / (alignedRecordSize config).toNat ∧
      part = fileImage config (payloads.take n) ++ tail ∧
      (tail ≠ [] → TornTail config (config.firstSequence.toNat + n) tail) := by
  have length := length_fileHead valid
  have front := List.prefix_of_prefix_length_le (List.prefix_append _ _) early (length ▸ head)
  obtain ⟨records, rfl⟩ := front
  rw [fileImage, List.prefix_append_right_inj] at early
  obtain ⟨n, inside, torn, rfl, piece⟩ := exists_kept early
  rw [length_recordFrames] at inside
  have sizes : ∀ payload ∈ payloads.take n, payload.length = config.payloadSize.toNat :=
    fun payload member => loggable.sizes payload (List.mem_of_mem_take member)
  have kept_length : (kept (recordFrames config config.firstSequence payloads) n).length =
      n * (alignedRecordSize config).toNat := by
    rw [kept, take_recordFrames, length_flatten_recordFrames valid sizes,
      List.length_take_of_le inside]
  have frame_facts : torn ≠ [] → ∃ payload ∈ payloads, n < payloads.length ∧
      torn <+: recordFrame config (.ofNat (config.firstSequence.toNat + n)) payload ∧
      torn.length < (recordFrame config (.ofNat (config.firstSequence.toNat + n)) payload).length := by
    intro some_bytes
    obtain ⟨frame, here, early, short⟩ := piece.resolve_left some_bytes
    rw [getElem?_recordFrames, Option.map_eq_some_iff] at here
    obtain ⟨payload, found, rfl⟩ := here
    rw [UInt64.ofNat_add, UInt64.ofNat_toNat]
    exact ⟨payload, List.mem_of_getElem? found, (List.getElem?_eq_some_iff.mp found).1, early, short⟩
  refine ⟨n, torn, inside, ?_, by rw [fileImage_take, List.append_assoc], ?_⟩
  · have below : torn.length < (alignedRecordSize config).toNat := by
      by_cases none : torn = []
      · have stride := alignedRecordSize_ne_zero valid.aligned
        rw [none, List.length_nil]
        exact Nat.pos_of_ne_zero fun zero => stride (UInt64.toNat_inj.mp zero)
      · obtain ⟨payload, member, -, -, short⟩ := frame_facts none
        rwa [length_recordFrame valid (loggable.sizes payload member)] at short
    rw [List.length_append, List.length_append, length, kept_length, Nat.add_sub_cancel_left,
      Nat.add_comm, Nat.add_mul_div_right _ _ (by omega), Nat.div_eq_of_lt below, Nat.zero_add]
  · intro some_bytes
    obtain ⟨payload, member, more, early, short⟩ := frame_facts some_bytes
    have sequences := loggable.sequences
    exact tornTail_of_prefix (by omega) (loggable.sizes payload member) early short some_bytes

/-- Nothing unfinished is a whole record. -/
theorem TornTail.not_ahead (valid : Valid config) (torn : TornTail config next tail) :
    ¬ RecordAhead config next tail := by
  rintro ⟨payload, more, -, size, rfl⟩
  have short := torn.short valid
  rw [List.length_append, length_recordFrame valid size] at short
  omega

/-! ### Recovery -/

theorem DiskFile.size_toNat (file : DiskFile) : file.size.toNat = file.bytes.length := by
  have bounded := file.bounded
  have limit : maxFileSize = 2 ^ 63 - 1 := rfl
  have wide : UInt64.size = 2 ^ 64 := rfl
  exact UInt64.toNat_ofNat_of_lt' (by omega)

theorem recover_clean {answers : TruncationAnswers}
    (clean : (scanWal (some file) config).status = .clean) :
    (recoverIncompleteTail answers (some file) config).1.status = .clean ∧
      (recoverIncompleteTail answers (some file) config).1.records =
        (scanWal (some file) config).records ∧
      (recoverIncompleteTail answers (some file) config).2 = some file := by
  simp only [recoverIncompleteTail, clean, resultFromScan, and_self]

theorem recover_untorn {answers : TruncationAnswers}
    (untorn : (scanWal (some file) config).status ≠ .incompleteTail) :
    (recoverIncompleteTail answers (some file) config).2 = some file := by
  unfold recoverIncompleteTail
  cases status : (scanWal (some file) config).status with
  | incompleteTail => exact absurd status untorn
  | _ => simp only [status]

/-- A truncation that is served leaves the beginning of the file. -/
theorem truncateAndSync_served {size : UInt64} (inside : size.toNat ≤ file.bytes.length) :
    truncateAndSync {} file size = (true, file.truncate size.toNat) := by
  have bounded : ¬ size.toNat > maxFileSize := Nat.not_lt.mpr (inside.trans file.bounded)
  simp [truncateAndSync, bounded]

/-- An unfinished record is cut off, and the second scan agrees with the first. -/
theorem recover_image (valid : Valid config) (loggable : Loggable config payloads)
    (content : file.bytes = fileImage config payloads ++ tail)
    (torn : TornTail config (config.firstSequence.toNat + payloads.length) tail) :
    ∃ (kept : DiskFile) (error : WalReadError), kept.bytes = fileImage config payloads ∧
      scanWal (some kept) config = scanned config payloads.length ∧
      scanWal (some file) config =
        { scanned config payloads.length with status := .incompleteTail, error } ∧
      recoverIncompleteTail {} (some file) config =
        ({ resultFromScan .recovered (scanned config payloads.length) file.size kept.size with error },
          some kept) := by
  obtain ⟨status, error, kind, -, scan⟩ :=
    scanWal_image valid loggable content (torn.not_ahead valid)
  obtain rfl : status = .incompleteTail := kind.incompleteTail_iff.mpr torn
  have room : (fileImage config payloads).length ≤ file.bytes.length := by
    rw [content, List.length_append]
    omega
  obtain ⟨-, offset⟩ := scanned_toNat valid loggable (room.trans file.bounded)
  have bytes : (file.truncate (fileImage config payloads).length).bytes =
      fileImage config payloads := by
    have cut : (file.truncate (fileImage config payloads).length).bytes =
        file.bytes.take (fileImage config payloads).length := rfl
    rw [cut, content, List.take_left' rfl]
  have again := scanWal_clean valid loggable bytes
  have served := @truncateAndSync_served file (scanned config payloads.length).lastValidOffset
    (offset ▸ room)
  rw [offset] at served
  have within : ¬ (scanned config payloads.length).lastValidOffset > file.size := by
    rw [gt_iff_lt, UInt64.lt_iff_toNat_lt, offset, file.size_toNat]
    exact Nat.not_lt.mpr room
  have same_size : (file.truncate (fileImage config payloads).length).size =
      (scanned config payloads.length).lastValidOffset := by
    rw [← UInt64.toNat_inj, DiskFile.size_toNat, bytes, offset]
  have clean : (scanned config payloads.length).status = .clean := rfl
  refine ⟨file.truncate (fileImage config payloads).length, error, bytes, again, scan, ?_⟩
  rw [recoverIncompleteTail, scan]
  simp only [removeTail, if_neg within, served, again, same_size, clean, Bool.not_true,
    Bool.false_eq_true, if_false, ne_eq, not_true_eq_false, decide_false, Bool.or_self]

/-- A log that was cut short: refused inside its header area, else repaired to whole records. -/
theorem recover_cut (valid : Valid config) (loggable : Loggable config payloads)
    (cut : file.bytes <+: fileImage config payloads) :
    (file.bytes.length < (recordsOffset config).toNat → ∀ answers,
      (recoverIncompleteTail answers (some file) config).1.status = .refused ∧
        (recoverIncompleteTail answers (some file) config).2 = some file) ∧
    ((recordsOffset config).toNat ≤ file.bytes.length → ∃ (n : ℕ) (kept : DiskFile),
      n ≤ payloads.length ∧
      n = (file.bytes.length - (recordsOffset config).toNat) / (alignedRecordSize config).toNat ∧
      kept.bytes = fileImage config (payloads.take n) ∧
      ((recoverIncompleteTail {} (some file) config).1.status = .clean ∨
        (recoverIncompleteTail {} (some file) config).1.status = .recovered) ∧
      (recoverIncompleteTail {} (some file) config).1.records = .ofNat n ∧
      (recoverIncompleteTail {} (some file) config).2 = some kept) := by
  constructor
  · intro short answers
    have other : ¬ fileHead config <+: file.bytes := by
      intro head
      have long := head.length_le
      rw [length_fileHead valid] at long
      omega
    obtain ⟨error, scan⟩ := scanWal_refused valid other
    exact recover_refused (by rw [scan])
  · intro head
    obtain ⟨n, tail, inside, number, content, unfinished⟩ := image_prefix valid loggable cut head
    have short : (payloads.take n).length = n := List.length_take_of_le inside
    have early : Loggable config (payloads.take n) := loggable.take
    by_cases none : tail = []
    · rw [none, List.append_nil] at content
      have scan := scanWal_clean valid early content
      obtain ⟨status, records, left⟩ := @recover_clean config file {} (by rw [scan]; rfl)
      refine ⟨n, file, inside, number, content, .inl status, ?_, left⟩
      rw [records, scan, short]
      rfl
    · have torn := unfinished none
      rw [← short] at torn
      obtain ⟨kept, error, bytes, -, -, recovered⟩ := recover_image valid early content torn
      refine ⟨n, kept, inside, number, bytes, .inr ?_, ?_, ?_⟩
      · rw [recovered]
        rfl
      · rw [recovered, short]
        rfl
      · rw [recovered]

/-- Recovery changes a file only by cutting off an unfinished tail. -/
theorem recovery_only_truncates (config : WalConfig) (file : DiskFile)
    (valid : validConfig config) :
    ((scanWal (some file) config).status ≠ .incompleteTail →
      ∀ answers, (recoverIncompleteTail answers (some file) config).2 = some file) ∧
    ((scanWal (some file) config).status = .incompleteTail → ∃ (kept : DiskFile)
        (result : RecoveryResult),
      recoverIncompleteTail {} (some file) config = (result, some kept) ∧
      result.status = .recovered ∧
      kept.bytes = file.bytes.take (scanWal (some file) config).lastValidOffset.toNat ∧
      (scanWal (some kept) config).status = .clean ∧
      (scanWal (some kept) config).records = (scanWal (some file) config).records ∧
      (scanWal (some kept) config).lastSequence = (scanWal (some file) config).lastSequence ∧
      result.originalSize.toNat = file.bytes.length ∧
      result.recoveredSize.toNat = kept.bytes.length ∧
      result.removedBytes = result.originalSize - result.recoveredSize ∧
      0 < result.removedBytes.toNat ∧
      ∀ answers, (recoverIncompleteTail answers (some kept) config).1.status = .clean ∧
        (recoverIncompleteTail answers (some kept) config).2 = some kept) ∧
    (∀ payloads whole n, Written config payloads whole → n ≤ whole.length →
      file.bytes = whole.take n →
      (n < (recordsOffset config).toNat → ∀ answers,
        (recoverIncompleteTail answers (some file) config).1.status = .refused ∧
          (recoverIncompleteTail answers (some file) config).2 = some file) ∧
      ((recordsOffset config).toNat ≤ n → ∃ kept : DiskFile,
        (recoverIncompleteTail {} (some file) config).2 = some kept ∧
        ((recoverIncompleteTail {} (some file) config).1.status = .clean ∨
          (recoverIncompleteTail {} (some file) config).1.status = .recovered) ∧
        (n - (recordsOffset config).toNat) / (alignedRecordSize config).toNat ≤ payloads.length ∧
        (recoverIncompleteTail {} (some file) config).1.records =
          .ofNat ((n - (recordsOffset config).toNat) / (alignedRecordSize config).toNat) ∧
        Written config (payloads.take
          ((n - (recordsOffset config).toNat) / (alignedRecordSize config).toNat)) kept.bytes)) := by
  have valid := validConfig_iff.mp valid
  refine ⟨fun untorn answers => recover_untorn untorn, ?_, ?_⟩
  · intro torn
    by_cases head : fileHead config <+: file.bytes
    swap
    · obtain ⟨error, scan⟩ := scanWal_refused valid head
      rw [scan] at torn
      cases torn
    obtain ⟨payloads, tail, content, loggable, stop⟩ := exists_image head
    obtain ⟨status, error, kind, -, scan⟩ := scanWal_image valid loggable content stop
    rw [scan] at torn
    have unfinished := kind.incompleteTail_iff.mp torn
    obtain ⟨kept, error, bytes, again, before, recovered⟩ :=
      recover_image valid loggable content unfinished
    have some_bytes := List.length_pos_of_ne_nil unfinished.ne_nil
    have longer : kept.bytes.length < file.bytes.length := by
      rw [bytes, content, List.length_append]
      omega
    have ordered : file.size ≥ kept.size := by
      rw [ge_iff_le, UInt64.le_iff_toNat_le, DiskFile.size_toNat, DiskFile.size_toNat]
      omega
    obtain ⟨-, offset⟩ := scanned_toNat valid loggable (bytes ▸ kept.bounded)
    refine ⟨kept, _, recovered, rfl, ?_, ?_, ?_, ?_, file.size_toNat, kept.size_toNat,
      if_pos ordered, ?_, ?_⟩
    · rw [before]
      change kept.bytes = file.bytes.take (scanned config payloads.length).lastValidOffset.toNat
      rw [offset, content, List.take_left' rfl, bytes]
    · rw [again]
      rfl
    · rw [again, before]
    · rw [again, before]
    · change 0 < (if file.size ≥ kept.size then file.size - kept.size else 0).toNat
      rw [if_pos ordered, UInt64.toNat_sub_of_le _ _ ordered, DiskFile.size_toNat,
        DiskFile.size_toNat]
      omega
    · intro answers
      obtain ⟨status, -, left⟩ := @recover_clean config kept answers (by rw [again]; rfl)
      exact ⟨status, left⟩
  · intro payloads whole n written inside content
    obtain ⟨loggable, image, -⟩ := written_iff.mp written
    have length : file.bytes.length = n := by rw [content, List.length_take_of_le inside]
    obtain ⟨refused, repaired⟩ := recover_cut valid loggable
      (by rw [content, image]; exact List.take_prefix _ _)
    rw [length] at refused repaired
    refine ⟨refused, fun head => ?_⟩
    obtain ⟨k, kept, fewer, number, bytes, status, records, left⟩ := repaired head
    rw [← number]
    exact ⟨kept, left, status, fewer, records, written_iff.mpr ⟨loggable.take, bytes, kept.bounded⟩⟩

/-- A file that ends behind a byte of the second record is cut to the first one. -/
theorem recovery_only_truncates_second_record : ∃ file kept : DiskFile,
    file.bytes = (fileImage byteConfig [[7], [9]]).take 97 ∧
      (recoverIncompleteTail {} (some file) byteConfig).2 = some kept ∧
      kept.bytes = fileImage byteConfig [[7]] := by
  have valid := validConfig_iff.mp byteConfig_valid
  have loggable : Loggable byteConfig [[7], [9]] := ⟨by simp [byteConfig], by decide⟩
  have size : (fileImage byteConfig [[7], [9]]).length = 128 := by
    rw [length_fileImage valid loggable.sizes]
    decide
  have room : (fileImage byteConfig [[7], [9]]).length ≤ maxFileSize := by
    rw [size]
    decide
  let file : DiskFile := ⟨(fileImage byteConfig [[7], [9]]).take 97,
    (List.length_take_le' _ _).trans room⟩
  obtain ⟨-, -, cut⟩ := recovery_only_truncates byteConfig file byteConfig_valid
  obtain ⟨-, repaired⟩ := cut [[7], [9]] _ 97 (written_iff.mpr ⟨loggable, rfl, room⟩)
    (by rw [size]; decide) rfl
  obtain ⟨kept, left, -, -, -, written⟩ := repaired (by decide)
  exact ⟨file, kept, rfl, left, (written_iff.mp written).2.1⟩

end Fexma.Wal
