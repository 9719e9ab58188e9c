import Fexma.Wal.Image
import Fexma.Wal.PhysicalFile
import Mathlib.Tactic.SplitIfs

/-! What the calls of the writing adapter leave in the file. Whatever the device answers, the
bytes of a call that fails are a beginning of the bytes it was to write. -/
namespace Fexma.Wal.PhysicalWalAdapter

variable {δ : Type} {adapter adapter' adapter'' : PhysicalWalAdapter δ}
variable {bytes more : List UInt8} {ok : Bool} {config : WalConfig}

/-- The file only grows, syncs only cover more, and every moment on the way lies between. -/
structure Grows (adapter adapter' : PhysicalWalAdapter δ) : Prop where
  ahead : adapter.file.bytes <+: adapter'.file.bytes
  synced : adapter.synced ≤ adapter'.synced
  moments : ∃ passed, adapter'.moments = adapter.moments ++ passed ∧ ∀ moment ∈ passed,
    adapter.file.bytes <+: moment.bytes ∧ moment.bytes <+: adapter'.file.bytes ∧
      adapter.synced ≤ moment.synced

theorem Grows.refl (adapter : PhysicalWalAdapter δ) : Grows adapter adapter :=
  ⟨List.prefix_refl _, Nat.le_refl _, [], by simp, fun _ member => by cases member⟩

theorem Grows.trans (first : Grows adapter adapter') (second : Grows adapter' adapter'') :
    Grows adapter adapter'' := by
  obtain ⟨early, kept, passed⟩ := first.moments
  obtain ⟨late, kept', passed'⟩ := second.moments
  refine ⟨first.ahead.trans second.ahead, first.synced.trans second.synced, early ++ late, ?_, ?_⟩
  · rw [kept', kept, List.append_assoc]
  · intro moment member
    rcases List.mem_append.mp member with member | member
    · obtain ⟨behind, ahead, covered⟩ := passed moment member
      exact ⟨behind, ahead.trans second.ahead, covered⟩
    · obtain ⟨behind, ahead, covered⟩ := passed' moment member
      exact ⟨first.ahead.trans behind, ahead, first.synced.trans covered⟩

/-- A call wrote a beginning of these bytes, and all of them if it succeeded. -/
structure Wrote (bytes : List UInt8) (ok : Bool) (adapter adapter' : PhysicalWalAdapter δ) : Prop
    extends Grows adapter adapter' where
  content : ∃ written, written <+: bytes ∧ adapter'.file.bytes = adapter.file.bytes ++ written ∧
    (ok = true → written = bytes)
  covered : adapter'.synced = adapter.synced
  config : adapter'.config = adapter.config
  isOpen : adapter'.isOpen = adapter.isOpen

theorem Wrote.file (wrote : Wrote bytes true adapter adapter') :
    adapter'.file.bytes = adapter.file.bytes ++ bytes := by
  obtain ⟨written, -, file, whole⟩ := wrote.content
  rw [file, whole rfl]

theorem Wrote.nothing (adapter : PhysicalWalAdapter δ) (device : δ) :
    Wrote bytes false adapter { adapter with device } where
  toGrows := ⟨List.prefix_refl _, Nat.le_refl _, [], by simp, fun _ member => by cases member⟩
  content := ⟨[], List.nil_prefix, by simp, fun done => by cases done⟩
  covered := rfl
  config := rfl
  isOpen := rfl

theorem Wrote.done (adapter : PhysicalWalAdapter δ) : Wrote [] true adapter adapter where
  toGrows := .refl adapter
  content := ⟨[], List.prefix_refl _, by simp, fun _ => rfl⟩
  covered := rfl
  config := rfl
  isOpen := rfl

/-- Bytes written one after the other. -/
theorem Wrote.append (first : Wrote bytes true adapter adapter')
    (second : Wrote more ok adapter' adapter'') : Wrote (bytes ++ more) ok adapter adapter'' where
  toGrows := first.toGrows.trans second.toGrows
  content := by
    obtain ⟨written, early, file, whole⟩ := second.content
    refine ⟨bytes ++ written, List.prefix_append_right_inj _ |>.mpr early, ?_, fun done => ?_⟩
    · rw [file, first.file, List.append_assoc]
    · rw [whole done]
  covered := second.covered.trans first.covered
  config := second.config.trans first.config
  isOpen := second.isOpen.trans first.isOpen

theorem Wrote.fails (first : Wrote bytes false adapter adapter') :
    Wrote (bytes ++ more) false adapter adapter' where
  toGrows := first.toGrows
  content := by
    obtain ⟨written, early, file, -⟩ := first.content
    exact ⟨written, early.trans (List.prefix_append _ _), file, fun done => by cases done⟩
  covered := first.covered
  config := first.config
  isOpen := first.isOpen

/-- What a step writes, from every adapter. -/
def Writes (bytes : List UInt8) (step : PhysicalWalAdapter δ → Bool × PhysicalWalAdapter δ) : Prop :=
  ∀ adapter, Wrote bytes (step adapter).1 adapter (step adapter).2

theorem Writes.andThen {step next : PhysicalWalAdapter δ → Bool × PhysicalWalAdapter δ}
    (first : Writes bytes step) (second : Writes more next) :
    Writes (bytes ++ more) (andThen step next) := by
  intro adapter
  have early := first adapter
  cases done : (step adapter).1 with
  | true =>
    rw [done] at early
    rw [PhysicalWalAdapter.andThen, if_pos done]
    exact early.append (second _)
  | false =>
    rw [done] at early
    rw [PhysicalWalAdapter.andThen, if_neg (by simp [done])]
    exact early.fails

variable [Device δ]

theorem writeLoop_wrote {rounds : ℕ} (enough : bytes.length ≤ rounds) :
    Writes (δ := δ) bytes (writeLoop rounds bytes) := by
  induction rounds generalizing bytes with
  | zero =>
    intro adapter
    obtain rfl : bytes = [] := List.length_eq_zero_iff.mp (Nat.le_zero.mp enough)
    exact .done adapter
  | succ rounds ih =>
    intro adapter
    rw [writeLoop]
    split_ifs with empty
    · rw [empty]
      exact .done adapter
    cases Device.write adapter.device bytes.length with
    | mk answer device =>
      cases answer with
      | none => exact .nothing adapter device
      | some written =>
        simp only
        split_ifs with none
        · exact .nothing adapter device
        cases appended : adapter.file.append (bytes.take written) with
        | none => exact .nothing adapter device
        | some file =>
          have content : file.bytes = adapter.file.bytes ++ bytes.take written := by
            unfold DiskFile.append at appended
            split_ifs at appended
            cases appended
            rfl
          have some_bytes : 0 < bytes.length := List.length_pos_of_ne_nil empty
          have shorter : (bytes.drop written).length ≤ rounds := by
            rw [List.length_drop]
            omega
          have rest := ih shorter { adapter with
            device, file, moments := adapter.moments ++ [⟨file.bytes, adapter.synced⟩] }
          have first : Wrote (bytes.take written) true adapter { adapter with
              device, file, moments := adapter.moments ++ [⟨file.bytes, adapter.synced⟩] } := by
            have ahead : adapter.file.bytes <+: file.bytes := by
              rw [content]
              exact List.prefix_append _ _
            refine { ahead := ahead, synced := Nat.le_refl _, moments := ⟨_, rfl, ?_⟩
                     content := ⟨_, List.prefix_refl _, content, fun _ => rfl⟩
                     covered := rfl, config := rfl, isOpen := rfl }
            intro moment member
            rw [List.mem_singleton.mp member]
            exact ⟨ahead, List.prefix_refl _, Nat.le_refl _⟩
          have whole := first.append rest
          rwa [List.take_append_drop] at whole

theorem writeBytes_wrote (bytes : List UInt8) : Writes (δ := δ) bytes (writeBytes bytes) :=
  writeLoop_wrote (Nat.le_refl _)

theorem writeZeros_wrote {rounds remaining : ℕ} (enough : remaining ≤ rounds) :
    Writes (δ := δ) (List.replicate remaining 0) (writeZeros rounds remaining) := by
  induction rounds generalizing remaining with
  | zero =>
    obtain rfl : remaining = 0 := Nat.le_zero.mp enough
    exact fun adapter => .done adapter
  | succ rounds ih =>
    intro adapter
    rw [writeZeros]
    split_ifs with none
    · rw [none]
      exact .done adapter
    have size : defaultAlignment.toNat = 64 := by decide
    have chunk := (writeBytes_wrote (δ := δ) (List.replicate (min remaining 64) 0)).andThen
      (@ih (remaining - min remaining 64) (by omega)) adapter
    rw [List.replicate_append_replicate, Nat.add_sub_of_le (Nat.min_le_left _ _)] at chunk
    rw [size]
    exact chunk

/-! ### Records and syncs -/

/-- A sync leaves the bytes alone, and covers them if it succeeds. -/
structure Synced (ok : Bool) (adapter adapter' : PhysicalWalAdapter δ) : Prop
    extends Grows adapter adapter' where
  file : adapter'.file = adapter.file
  covered : adapter'.synced = if ok then adapter.file.bytes.length else adapter.synced
  config : adapter'.config = adapter.config
  isOpen : adapter'.isOpen = adapter.isOpen

theorem sync_synced (inside : adapter.synced ≤ adapter.file.bytes.length) :
    Synced (sync adapter).1 adapter (sync adapter).2 := by
  unfold sync
  split_ifs with closed
  · exact { toGrows := .refl adapter, file := rfl, covered := rfl, config := rfl, isOpen := rfl }
  cases Device.sync adapter.device with
  | mk done device =>
    cases done with
    | false =>
      exact { ahead := List.prefix_refl _, synced := Nat.le_refl _
              moments := ⟨[], by simp, fun _ member => by cases member⟩
              file := rfl, covered := rfl, config := rfl, isOpen := rfl }
    | true =>
      refine { ahead := List.prefix_refl _, synced := inside, moments := ⟨_, rfl, ?_⟩
               file := rfl, covered := rfl, config := rfl, isOpen := rfl }
      intro moment member
      rw [List.mem_singleton.mp member]
      exact ⟨List.prefix_refl _, List.prefix_refl _, inside⟩

/-- An appended record is its frame; a failed append left a beginning of it. -/
theorem appendRecord_wrote (sequence : UInt64) (payload : List UInt8)
    (adapter : PhysicalWalAdapter δ) :
    Wrote (recordFrame adapter.config sequence payload) (appendRecord sequence payload adapter).1
      adapter (appendRecord sequence payload adapter).2 := by
  rw [appendRecord]
  split_ifs with refused
  · exact .nothing adapter adapter.device
  · exact ((writeBytes_wrote _).andThen ((writeBytes_wrote _).andThen
      (writeZeros_wrote (Nat.le_refl _)))) adapter

theorem appendRecord_size {sequence : UInt64} {payload : List UInt8}
    (done : (appendRecord sequence payload adapter).1 = true) :
    adapter.isOpen = true ∧ payload.length = adapter.config.payloadSize.toNat := by
  rw [appendRecord] at done
  split_ifs at done with refused
  simpa using refused

/-! ### A whole log -/

/-- `append_record` for each payload, with consecutive sequences. -/
def appendRecords : UInt64 → List (List UInt8) → PhysicalWalAdapter δ → Bool × PhysicalWalAdapter δ
  | _, [], adapter => (true, adapter)
  | sequence, payload :: payloads, adapter =>
    andThen (appendRecord sequence payload) (appendRecords (sequence + 1) payloads) adapter

/-- `create` and the appends behind it. -/
def writeLog (config : WalConfig) (payloads : List (List UInt8)) (adapter : PhysicalWalAdapter δ) :
    Bool × PhysicalWalAdapter δ :=
  match create config adapter with
  | (.ok, adapter) => appendRecords config.firstSequence payloads adapter
  | (_, adapter) => (false, adapter)

/-- A file that has been created is its header area, synced. -/
structure Created (config : WalConfig) (adapter : PhysicalWalAdapter δ) : Prop where
  file : adapter.file.bytes = fileHead config
  synced : adapter.synced = adapter.file.bytes.length
  config : adapter.config = config
  isOpen : adapter.isOpen = true

omit [Device δ] in
theorem andThen_assoc (first second third : PhysicalWalAdapter δ → Bool × PhysicalWalAdapter δ) :
    andThen first (andThen second third) = andThen (andThen first second) third := by
  funext adapter
  by_cases done : (first adapter).1 <;> simp [andThen, done]

theorem writeHead_eq (config : WalConfig) : writeHead (δ := δ) config =
    andThen (andThen (writeBytes (serializeFileHeader (fileHeader config)))
      (writeZeros (fileHeaderPaddingSize config).toNat (fileHeaderPaddingSize config).toNat))
      (andThen sync syncParentDirectory) :=
  andThen_assoc _ _ _

/-- Both syncs behind a written header area. -/
theorem sync_created (file : adapter.file.bytes = fileHead config) (unsynced : adapter.synced = 0)
    (configured : adapter.config = config) (opened : adapter.isOpen = true)
    (done : (andThen sync syncParentDirectory adapter).1 = true) :
    Created config (andThen sync syncParentDirectory adapter).2 := by
  have synced := @sync_synced _ adapter _ (unsynced ▸ Nat.zero_le _)
  rw [andThen] at done ⊢
  split_ifs at done ⊢ with covered
  rw [covered] at synced
  refine ⟨?_, ?_, ?_, ?_⟩
  · change (sync adapter).2.file.bytes = _
    rw [synced.file, file]
  · change (sync adapter).2.synced = (sync adapter).2.file.bytes.length
    rw [synced.covered, synced.file]
    rfl
  · exact synced.config.trans configured
  · exact synced.isOpen.trans opened

theorem writeHead_created (device : δ) (config : WalConfig)
    (done : (writeHead config (fresh device config)).1 = true) :
    Created config (writeHead config (fresh device config)).2 := by
  have head := ((writeBytes_wrote (serializeFileHeader (fileHeader config))).andThen
    (writeZeros_wrote (Nat.le_refl (fileHeaderPaddingSize config).toNat))) (fresh device config)
  rw [writeHead_eq, andThen] at done ⊢
  split_ifs at done ⊢ with written
  rw [written] at head
  revert head done
  generalize (andThen (writeBytes (serializeFileHeader (fileHeader config)))
    (writeZeros (fileHeaderPaddingSize config).toNat (fileHeaderPaddingSize config).toNat)
    (fresh device config)).2 = next
  intro head done
  have empty : (fresh device config).file.bytes = [] := rfl
  have file : next.file.bytes = fileHead config := by
    rw [head.file, empty, List.nil_append, fileHead]
  exact sync_created file head.covered head.config head.isOpen done

theorem create_created (done : (create config adapter).1 = .ok) :
    Created config (create config adapter).2 := by
  unfold create at done ⊢
  split_ifs at done ⊢ with opened
  revert done
  cases Device.create adapter.device with
  | mk answer device =>
    intro done
    cases answer with
    | created =>
      have head := writeHead_created device config
      revert done head
      simp only
      cases writeHead config (fresh device config) with
      | mk ok next =>
        intro done head
        cases ok with
        | true => exact head rfl
        | false => cases done
    | _ => cases done

theorem create_ok {device : δ} {next : PhysicalWalAdapter δ} (closed : adapter.isOpen = false)
    (answer : Device.create adapter.device = (.created, device))
    (written : writeHead config (fresh device config) = (true, next)) :
    create config adapter = (.ok, next) := by
  rw [create, if_neg (by simp [closed]), answer]
  simp only [written]

theorem appendRecords_file {sequence : UInt64} {payloads : List (List UInt8)}
    (done : (appendRecords sequence payloads adapter).1 = true) :
    (appendRecords sequence payloads adapter).2.file.bytes =
        adapter.file.bytes ++ (recordFrames adapter.config sequence payloads).flatten ∧
      ∀ payload ∈ payloads, payload.length = adapter.config.payloadSize.toNat := by
  induction payloads generalizing adapter sequence with
  | nil => exact ⟨by simp [appendRecords, recordFrames], fun _ member => by cases member⟩
  | cons payload payloads ih =>
    rw [appendRecords, andThen] at done ⊢
    split_ifs at done ⊢ with first
    have wrote := appendRecord_wrote sequence payload adapter
    rw [first] at wrote
    obtain ⟨content, sizes⟩ := ih done
    rw [wrote.config] at content sizes
    refine ⟨?_, ?_⟩
    · rw [content, wrote.file, recordFrames, List.flatten_cons, List.append_assoc]
    · intro other member
      rcases List.mem_cons.mp member with rfl | member
      · exact (appendRecord_size first).2
      · exact sizes other member

/-- A log written without a failure is its image. -/
theorem writeLog_file {payloads : List (List UInt8)}
    (done : (writeLog config payloads adapter).1 = true) :
    (writeLog config payloads adapter).2.file.bytes = fileImage config payloads ∧
      ∀ payload ∈ payloads, payload.length = config.payloadSize.toNat := by
  unfold writeLog at done ⊢
  cases opened : create config adapter with
  | mk status next =>
    rw [opened] at done
    have created := @create_created _ adapter config _
    rw [opened] at created
    cases status with
    | ok =>
      have head := created rfl
      obtain ⟨content, sizes⟩ := appendRecords_file done
      rw [head.config] at content sizes
      refine ⟨?_, sizes⟩
      change (appendRecords config.firstSequence payloads next).2.file.bytes = _
      rw [content, head.file, fileImage]
    | _ => cases done

/-! ### A device that serves every call -/

/-- An operating system without errors, that accepts every write whole. -/
inductive ReliableDevice where
  | ready

instance : Device ReliableDevice where
  create device := (.created, device)
  write device count := (some count, device)
  sync device := (true, device)
  syncParentDirectory device := (true, device)
  close device := (true, device)

/-- A step that writes its bytes wherever the file has room for them. -/
structure Serves (bytes : List UInt8)
    (step : PhysicalWalAdapter ReliableDevice → Bool × PhysicalWalAdapter ReliableDevice) : Prop where
  writes : Writes bytes step
  served : ∀ adapter, adapter.file.bytes.length + bytes.length ≤ maxFileSize →
    (step adapter).1 = true

theorem Serves.andThen
    {step next : PhysicalWalAdapter ReliableDevice → Bool × PhysicalWalAdapter ReliableDevice}
    (first : Serves bytes step) (second : Serves more next) :
    Serves (bytes ++ more) (PhysicalWalAdapter.andThen step next) where
  writes := first.writes.andThen second.writes
  served adapter room := by
    rw [List.length_append] at room
    have done := first.served adapter (by omega)
    have wrote := first.writes adapter
    rw [done] at wrote
    rw [PhysicalWalAdapter.andThen, if_pos done]
    refine second.served _ ?_
    rw [wrote.file, List.length_append]
    omega

theorem writeBytes_serves (bytes : List UInt8) : Serves bytes (writeBytes bytes) where
  writes := writeBytes_wrote bytes
  served adapter room := by
    cases bytes with
    | nil => rfl
    | cons byte rest =>
      have fits : (adapter.file.bytes ++ (byte :: rest).take (byte :: rest).length).length ≤
          maxFileSize := by
        rw [List.take_length, List.length_append]
        exact room
      have done (file : DiskFile) (rounds : ℕ) (moments : List Moment) :
          (writeLoop rounds ((byte :: rest).drop (byte :: rest).length)
            { adapter with file, moments }).1 = true := by
        rw [List.drop_length]
        cases rounds <;> rfl
      have some_bytes : (byte :: rest).length ≠ 0 := by simp
      have accepted : Device.write adapter.device (byte :: rest).length =
          (some (byte :: rest).length, adapter.device) := rfl
      rw [writeBytes, List.length_cons, writeLoop, if_neg (List.cons_ne_nil _ _), accepted]
      simp only [if_neg some_bytes, DiskFile.append, dif_pos fits]
      exact done _ _ _

theorem writeZeros_serves {rounds remaining : ℕ} (enough : remaining ≤ rounds) :
    Serves (List.replicate remaining 0) (writeZeros rounds remaining) where
  writes := writeZeros_wrote enough
  served := by
    induction rounds generalizing remaining with
    | zero => exact fun adapter _ => rfl
    | succ rounds ih =>
      intro adapter room
      rw [writeZeros]
      split_ifs with none
      · rfl
      have size : defaultAlignment.toNat = 64 := by decide
      have shorter : remaining - min remaining 64 ≤ rounds := by omega
      have chunk := (writeBytes_serves (List.replicate (min remaining 64) 0)).andThen
        ⟨writeZeros_wrote shorter, ih shorter⟩
      rw [List.replicate_append_replicate, Nat.add_sub_of_le (Nat.min_le_left _ _)] at chunk
      rw [size]
      exact chunk.served adapter room

theorem appendRecords_served {sequence : UInt64} {payloads : List (List UInt8)}
    {adapter : PhysicalWalAdapter ReliableDevice} (opened : adapter.isOpen = true)
    (sizes : ∀ payload ∈ payloads, payload.length = adapter.config.payloadSize.toNat)
    (room : adapter.file.bytes.length +
      (recordFrames adapter.config sequence payloads).flatten.length ≤ maxFileSize) :
    (appendRecords sequence payloads adapter).1 = true := by
  induction payloads generalizing adapter sequence with
  | nil => rfl
  | cons payload payloads ih =>
    rw [recordFrames, List.flatten_cons, List.length_append] at room
    have frame := (writeBytes_serves (serializeRecordHeader (recordHeader sequence payload))).andThen
      ((writeBytes_serves payload).andThen
        (writeZeros_serves (Nat.le_refl (paddingSize adapter.config).toNat)))
    have accepted : ¬ (!adapter.isOpen ||
        decide (payload.length ≠ adapter.config.payloadSize.toNat)) = true := by
      simp [opened, sizes payload (by simp)]
    have done : (appendRecord sequence payload adapter).1 = true := by
      rw [appendRecord, if_neg accepted]
      exact frame.served adapter (by rw [recordFrame] at room; omega)
    have wrote := appendRecord_wrote sequence payload adapter
    rw [done] at wrote
    rw [appendRecords, andThen, if_pos done]
    refine ih (wrote.isOpen.trans opened) ?_ ?_
    · rw [wrote.config]
      exact fun other member => sizes other (by simp [member])
    · rw [wrote.file, wrote.config, List.length_append]
      omega

/-- A log that fits a file is written without a failure, if the device has none. -/
theorem writeLog_served {payloads : List (List UInt8)}
    (sizes : ∀ payload ∈ payloads, payload.length = config.payloadSize.toNat)
    (room : (fileImage config payloads).length ≤ maxFileSize) :
    (writeLog config payloads { device := ReliableDevice.ready }).1 = true := by
  rw [fileImage, List.length_append] at room
  have head := (writeBytes_serves (serializeFileHeader (fileHeader config))).andThen
    (writeZeros_serves (Nat.le_refl (fileHeaderPaddingSize config).toNat))
  have empty : (fresh ReliableDevice.ready config).file.bytes = [] := rfl
  have written := head.served (fresh .ready config) (by
    rw [empty, List.length_nil, Nat.zero_add, ← fileHead]
    omega)
  have opened := (head.writes (fresh .ready config)).isOpen
  have done : (writeHead config (fresh ReliableDevice.ready config)).1 = true := by
    rw [writeHead_eq, andThen, if_pos written, andThen, if_pos]
    · rfl
    · rw [sync, opened]
      rfl
  have start := writeHead_created ReliableDevice.ready config done
  revert done start
  cases whole : writeHead config (fresh ReliableDevice.ready config) with
  | mk ok next =>
    intro done start
    obtain rfl : ok = true := done
    have answer : Device.create ReliableDevice.ready = (.created, ReliableDevice.ready) := rfl
    rw [writeLog, create_ok rfl answer whole]
    refine appendRecords_served start.isOpen (by rwa [start.config]) ?_
    rw [start.file, start.config]
    exact room

/-- The create in front of a log that was written. -/
theorem create_of_writeLog {δ : Type} [Device δ] {adapter : PhysicalWalAdapter δ}
    {payloads : List (List UInt8)} (done : (writeLog config payloads adapter).1 = true) :
    (create config adapter).1 = .ok := by
  unfold writeLog at done
  cases answer : create config adapter with
  | mk status next =>
    rw [answer] at done
    cases status with
    | ok => rfl
    | _ => cases done

/-! ### What the writer writes -/

/-- A file that an adapter leaves behind a successful create and a successful append of each
payload, with consecutive sequences of 64 bits. -/
structure Written (config : WalConfig) (payloads : List (List UInt8)) (bytes : List UInt8) :
    Prop where
  sequences : config.firstSequence.toNat + payloads.length ≤ 2 ^ 64
  output : ∃ (δ : Type) (_ : Device δ) (adapter : PhysicalWalAdapter δ),
    (writeLog config payloads adapter).1 = true ∧
      (writeLog config payloads adapter).2.file.bytes = bytes

theorem written_iff {payloads : List (List UInt8)} : Written config payloads bytes ↔
    Loggable config payloads ∧ bytes = fileImage config payloads ∧ bytes.length ≤ maxFileSize := by
  constructor
  · rintro ⟨sequences, δ, device, adapter, done, content⟩
    obtain ⟨image, sizes⟩ := writeLog_file done
    have room := (writeLog config payloads adapter).2.file.bounded
    rw [content] at image room
    exact ⟨⟨sizes, sequences⟩, image, room⟩
  · rintro ⟨loggable, image, room⟩
    rw [image] at room ⊢
    have done := writeLog_served loggable.sizes room
    obtain ⟨content, -⟩ := writeLog_file done
    exact ⟨loggable.sequences, ReliableDevice, _, { device := .ready }, done, content⟩

end Fexma.Wal.PhysicalWalAdapter
