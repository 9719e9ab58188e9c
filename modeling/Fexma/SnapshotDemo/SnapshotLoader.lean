import Fexma.SnapshotDemo.SnapshotDescription

/-! The loader of a snapshot (`snapshot_loader.cpp`) over the content of its three files. It
accepts the files that the sink writes for a valid generation, and no others. -/
namespace Fexma.SnapshotDemo

open ByteLayout Wal

/-- What is found at the path of a file. -/
inductive FileEntry where
  | missing
  | irregular
  | regular (bytes : List UInt8)
  deriving DecidableEq, Repr

structure SnapshotFiles where
  description : FileEntry
  hashChain : FileEntry
  bitAccumulator : FileEntry
  deriving DecidableEq, Repr

inductive FileRead where
  | ok (bytes : List UInt8)
  | missing
  | sizeMismatch
  | readError
  deriving DecidableEq, Repr

def readFixedFile (size : ℕ) : FileEntry → FileRead
  | .missing => .missing
  | .irregular => .readError
  | .regular bytes => if bytes.length ≠ size then .sizeMismatch else .ok bytes

theorem readFixedFile_regular {size : ℕ} {bytes : List UInt8} (sized : bytes.length = size) :
    readFixedFile size (.regular bytes) = .ok bytes := if_neg (not_not.mpr sized)

theorem regular_of_readFixedFile {size : ℕ} {entry : FileEntry} {bytes : List UInt8}
    (read : readFixedFile size entry = .ok bytes) : entry = .regular bytes := by
  cases entry with
  | missing => cases read
  | irregular => cases read
  | regular found =>
    by_cases sized : found.length = size
    · rw [readFixedFile_regular sized] at read
      cases read
      rfl
    · rw [readFixedFile, if_pos sized] at read
      cases read

structure PreparedSnapshot where
  description : SnapshotDescription
  hashChain : HashChainState
  bitAccumulator : BitAccumulatorState
  deriving DecidableEq, Repr

inductive SnapshotLoadStatus where
  | ok
  | invalidConfig
  | descriptionMissing
  | descriptionReadError
  | descriptionInvalid
  | identityMismatch
  | generationMismatch
  | moduleDescriptionInvalid
  | moduleMissing
  | moduleReadError
  | moduleSizeMismatch
  | moduleChecksumMismatch
  | moduleDecodeError
  | captureBoundaryMismatch
  | capturedStateInvalid
  deriving DecidableEq, Repr

structure SnapshotLoadResult where
  status : SnapshotLoadStatus := .invalidConfig
  prepared : Option PreparedSnapshot := none
  deriving DecidableEq, Repr

def SnapshotLoadResult.ok (result : SnapshotLoadResult) : Bool :=
  result.status = .ok && result.prepared.isSome

def validIdentity (identity : SnapshotIdentity) : Bool :=
  identity.streamKind.valid &&
    (identity.streamKind = .generic ||
      identity.streamId ≠ 0 && identity.epochId ≠ 0 && identity.manifestId ≠ 0) &&
    identity.compositionId ≠ 0

def validModuleDescriptions (description : SnapshotDescription) : Bool :=
  description.hashChain.moduleId = hashChainModuleId &&
    description.hashChain.schemaVersion = hashChainSchemaVersion.toUInt32 &&
    description.hashChain.fileKind = .hashChain &&
    description.bitAccumulator.moduleId = bitAccumulatorModuleId &&
    description.bitAccumulator.schemaVersion = bitAccumulatorSchemaVersion.toUInt32 &&
    description.bitAccumulator.fileKind = .bitAccumulator

def validDescriptionBoundary (description : SnapshotDescription) (requested : UInt64) : Bool :=
  description.recordPosition ≠ maxUInt64 && description.generationId = requested &&
    description.recordPosition = requested &&
    description.processedEnd = description.recordPosition + 1

def capturesMatchDescription (description : SnapshotDescription) (hash : HashChainCapture)
    (bits : BitAccumulatorCapture) : Bool :=
  hash.generationId = description.generationId && bits.generationId = description.generationId &&
    hash.recordPosition = description.recordPosition &&
    bits.recordPosition = description.recordPosition &&
    hash.processedEnd = description.processedEnd && bits.processedEnd = description.processedEnd &&
    hash.sequence = description.snapshotSequence && bits.sequence = description.snapshotSequence &&
    hash.state.processedEnd = description.processedEnd &&
    bits.state.processedEnd = description.processedEnd

structure SnapshotLoader where
  root : String
  expectedIdentity : SnapshotIdentity
  deriving DecidableEq, Repr

namespace SnapshotLoader

/-- The description file, once it is read. -/
def acceptDescription (loader : SnapshotLoader) (generationId : UInt64) (bytes : List UInt8) :
    Except SnapshotLoadStatus SnapshotDescription :=
  match deserializeSnapshotDescription bytes with
  | none => .error .descriptionInvalid
  | some description =>
    if description.identity ≠ loader.expectedIdentity then .error .identityMismatch
    else if !validDescriptionBoundary description generationId then .error .generationMismatch
    else if !validModuleDescriptions description then .error .moduleDescriptionInvalid
    else if description.hashChain.fileSize ≠ .ofNat hashChainSnapshotSize ||
        description.bitAccumulator.fileSize ≠ .ofNat bitAccumulatorSnapshotSize then
      .error .moduleSizeMismatch
    else .ok description

/-- The module files, once they are read. -/
def acceptModules (description : SnapshotDescription) (hashBytes bitBytes : List UInt8) :
    Except SnapshotLoadStatus PreparedSnapshot :=
  if crc32Bytes hashBytes ≠ description.hashChain.checksum ||
      crc32Bytes bitBytes ≠ description.bitAccumulator.checksum then
    .error .moduleChecksumMismatch
  else
    match deserializeHashChainSnapshot hashBytes, deserializeBitAccumulatorSnapshot bitBytes with
    | some hash, some bits =>
      if !capturesMatchDescription description hash bits then .error .captureBoundaryMismatch
      else if hash.state.failed || bits.state.failed then .error .capturedStateInvalid
      else .ok { description, hashChain := hash.state, bitAccumulator := bits.state }
    | _, _ => .error .moduleDecodeError

def prepare (loader : SnapshotLoader) (files : SnapshotFiles) (generationId : UInt64) :
    Except SnapshotLoadStatus PreparedSnapshot :=
  if loader.root = "" || !validIdentity loader.expectedIdentity then .error .invalidConfig
  else
    match readFixedFile snapshotDescriptionSize files.description with
    | .missing => .error .descriptionMissing
    | .sizeMismatch => .error .descriptionInvalid
    | .readError => .error .descriptionReadError
    | .ok descriptionBytes =>
      match loader.acceptDescription generationId descriptionBytes with
      | .error status => .error status
      | .ok description =>
        match readFixedFile hashChainSnapshotSize files.hashChain,
          readFixedFile bitAccumulatorSnapshotSize files.bitAccumulator with
        | .missing, _ | _, .missing => .error .moduleMissing
        | .sizeMismatch, _ | _, .sizeMismatch => .error .moduleSizeMismatch
        | .ok hashBytes, .ok bitBytes => acceptModules description hashBytes bitBytes
        | _, _ => .error .moduleReadError

def load (loader : SnapshotLoader) (files : SnapshotFiles) (generationId : UInt64) :
    SnapshotLoadResult :=
  match loader.prepare files generationId with
  | .ok prepared => { status := .ok, prepared := some prepared }
  | .error status => { status }

end SnapshotLoader

/-! ### What the sink writes -/

/-- A generation that the sink accepts. -/
def validGeneration (generation : CaptureGeneration) : Bool :=
  generation.recordPosition ≠ maxUInt64 && generation.generationId = generation.recordPosition &&
    generation.processedEnd = generation.recordPosition + 1 &&
    generation.hashChain.generationId = generation.generationId &&
    generation.bitAccumulator.generationId = generation.generationId &&
    generation.hashChain.recordPosition = generation.recordPosition &&
    generation.bitAccumulator.recordPosition = generation.recordPosition &&
    generation.hashChain.processedEnd = generation.processedEnd &&
    generation.bitAccumulator.processedEnd = generation.processedEnd &&
    generation.hashChain.sequence = generation.sequence &&
    generation.bitAccumulator.sequence = generation.sequence &&
    generation.hashChain.state.processedEnd = generation.processedEnd &&
    generation.bitAccumulator.state.processedEnd = generation.processedEnd &&
    !generation.hashChain.state.failed && !generation.bitAccumulator.state.failed

/-- The description that the sink writes. -/
def describe (identity : SnapshotIdentity) (generation : CaptureGeneration) : SnapshotDescription where
  identity := identity
  generationId := generation.generationId
  recordPosition := generation.recordPosition
  processedEnd := generation.processedEnd
  snapshotSequence := generation.sequence
  hashChain :=
    { moduleId := hashChainModuleId
      schemaVersion := hashChainSchemaVersion.toUInt32
      fileKind := .hashChain
      fileSize := .ofNat hashChainSnapshotSize
      checksum := crc32Bytes (serializeHashChainSnapshot generation.hashChain) }
  bitAccumulator :=
    { moduleId := bitAccumulatorModuleId
      schemaVersion := bitAccumulatorSchemaVersion.toUInt32
      fileKind := .bitAccumulator
      fileSize := .ofNat bitAccumulatorSnapshotSize
      checksum := crc32Bytes (serializeBitAccumulatorSnapshot generation.bitAccumulator) }

/-- The three files of a published generation. -/
def savedFiles (identity : SnapshotIdentity) (generation : CaptureGeneration) : SnapshotFiles where
  description := .regular (serializeSnapshotDescription (describe identity generation))
  hashChain := .regular (serializeHashChainSnapshot generation.hashChain)
  bitAccumulator := .regular (serializeBitAccumulatorSnapshot generation.bitAccumulator)

/-- What the loader makes of them. -/
def preparedOf (identity : SnapshotIdentity) (generation : CaptureGeneration) : PreparedSnapshot where
  description := describe identity generation
  hashChain := generation.hashChain.state
  bitAccumulator := generation.bitAccumulator.state

/-! ### Saved files are loaded -/

section Load
variable {loader : SnapshotLoader} {identity : SnapshotIdentity} {generation : CaptureGeneration}
variable {files : SnapshotFiles} {generationId : UInt64}

theorem validIdentity_kind (valid : validIdentity identity) : identity.streamKind.valid := by
  simp only [validIdentity, Bool.and_eq_true] at valid
  exact valid.1.1

/-- What a valid generation is, field by field. -/
theorem validGeneration_iff : validGeneration generation ↔
    generation.recordPosition ≠ maxUInt64 ∧ generation.generationId = generation.recordPosition ∧
    generation.processedEnd = generation.recordPosition + 1 ∧
    generation.hashChain.generationId = generation.generationId ∧
    generation.bitAccumulator.generationId = generation.generationId ∧
    generation.hashChain.recordPosition = generation.recordPosition ∧
    generation.bitAccumulator.recordPosition = generation.recordPosition ∧
    generation.hashChain.processedEnd = generation.processedEnd ∧
    generation.bitAccumulator.processedEnd = generation.processedEnd ∧
    generation.hashChain.sequence = generation.sequence ∧
    generation.bitAccumulator.sequence = generation.sequence ∧
    generation.hashChain.state.processedEnd = generation.processedEnd ∧
    generation.bitAccumulator.state.processedEnd = generation.processedEnd ∧
    generation.hashChain.state.failed = false ∧ generation.bitAccumulator.state.failed = false := by
  simp only [validGeneration, Bool.and_eq_true, decide_eq_true_eq, Bool.not_eq_eq_eq_not,
    Bool.not_true, and_assoc]

private theorem acceptDescription_describe (identified : validIdentity loader.expectedIdentity)
    (valid : validGeneration generation) :
    loader.acceptDescription generation.generationId
      (serializeSnapshotDescription (describe loader.expectedIdentity generation)) =
        .ok (describe loader.expectedIdentity generation) := by
  obtain ⟨bounded, own, ends, -⟩ := validGeneration_iff.mp valid
  have boundary : validDescriptionBoundary (describe loader.expectedIdentity generation)
      generation.generationId = true := by
    simp [validDescriptionBoundary, describe, bounded, own, ends]
  have identity : (describe loader.expectedIdentity generation).identity =
      loader.expectedIdentity := rfl
  have modules : validModuleDescriptions (describe loader.expectedIdentity generation) = true := rfl
  unfold SnapshotLoader.acceptDescription
  rw [deserialize_serializeSnapshotDescription (validIdentity_kind identified) rfl rfl]
  dsimp only
  rw [if_neg (not_not.mpr identity), boundary, modules]
  rfl

private theorem acceptModules_saved (valid : validGeneration generation) :
    SnapshotLoader.acceptModules (describe identity generation)
      (serializeHashChainSnapshot generation.hashChain)
      (serializeBitAccumulatorSnapshot generation.bitAccumulator) =
        .ok (preparedOf identity generation) := by
  obtain ⟨-, -, -, hashId, bitsId, hashPosition, bitsPosition, hashEnd, bitsEnd, hashSequence,
    bitsSequence, hashState, bitsState, hashRuns, bitsRuns⟩ := validGeneration_iff.mp valid
  have hash : deserializeHashChainSnapshot (serializeHashChainSnapshot generation.hashChain) =
      some generation.hashChain := deserialize_serializeSnapshot (hashState.trans hashEnd.symm)
  have bits : deserializeBitAccumulatorSnapshot
      (serializeBitAccumulatorSnapshot generation.bitAccumulator) = some generation.bitAccumulator :=
    deserialize_serializeSnapshot (bitsState.trans bitsEnd.symm)
  have captures : capturesMatchDescription (describe identity generation) generation.hashChain
      generation.bitAccumulator = true := by
    simp [capturesMatchDescription, describe, hashId, bitsId, hashPosition, bitsPosition, hashEnd,
      bitsEnd, hashSequence, bitsSequence, hashState, bitsState]
  unfold SnapshotLoader.acceptModules
  rw [hash, bits, if_neg (by simp [describe])]
  dsimp only
  rw [captures, hashRuns, bitsRuns]
  rfl

variable (loader) in
/-- Saved files are loaded with exactly what was saved. -/
theorem load_savedFiles (rooted : loader.root ≠ "")
    (identified : validIdentity loader.expectedIdentity) (valid : validGeneration generation) :
    loader.load (savedFiles loader.expectedIdentity generation) generation.generationId =
      { status := .ok, prepared := some (preparedOf loader.expectedIdentity generation) } := by
  have description : readFixedFile snapshotDescriptionSize
      (savedFiles loader.expectedIdentity generation).description =
        .ok (serializeSnapshotDescription (describe loader.expectedIdentity generation)) :=
    readFixedFile_regular length_serializeSnapshotDescription
  have hash : readFixedFile hashChainSnapshotSize
      (savedFiles loader.expectedIdentity generation).hashChain =
        .ok (serializeHashChainSnapshot generation.hashChain) :=
    readFixedFile_regular length_serializeHashChainSnapshot
  have bits : readFixedFile bitAccumulatorSnapshotSize
      (savedFiles loader.expectedIdentity generation).bitAccumulator =
        .ok (serializeBitAccumulatorSnapshot generation.bitAccumulator) :=
    readFixedFile_regular length_serializeBitAccumulatorSnapshot
  unfold SnapshotLoader.load SnapshotLoader.prepare
  rw [if_neg (by simp [rooted, identified]), description]
  dsimp only
  rw [acceptDescription_describe identified valid]
  dsimp only
  rw [hash, bits]
  dsimp only
  rw [acceptModules_saved valid]

/-! ### Nothing else is loaded -/

private theorem describe_of_accepted {description : SnapshotDescription} {bytes : List UInt8}
    (accepted : loader.acceptDescription generationId bytes = .ok description) :
    serializeSnapshotDescription description = bytes ∧
      description.identity = loader.expectedIdentity ∧
      validDescriptionBoundary description generationId ∧ validModuleDescriptions description ∧
      description.hashChain.fileSize = .ofNat hashChainSnapshotSize ∧
      description.bitAccumulator.fileSize = .ofNat bitAccumulatorSnapshotSize := by
  unfold SnapshotLoader.acceptDescription at accepted
  split at accepted
  · cases accepted
  · next decoded read =>
    split_ifs at accepted with identity boundary modules sizes
    cases accepted
    simp only [Bool.or_eq_true, decide_eq_true_eq, not_or, ne_eq, not_not,
      Bool.not_eq_eq_eq_not, Bool.not_true, Bool.not_eq_false] at identity boundary modules sizes
    exact ⟨(serialize_deserializeSnapshotDescription read).1, identity, boundary, modules, sizes⟩

private theorem captures_of_accepted {description : SnapshotDescription} {hashBytes bitBytes : List UInt8}
    {prepared : PreparedSnapshot}
    (accepted : SnapshotLoader.acceptModules description hashBytes bitBytes = .ok prepared) :
    ∃ hash bits, serializeHashChainSnapshot hash = hashBytes ∧
      serializeBitAccumulatorSnapshot bits = bitBytes ∧
      crc32Bytes hashBytes = description.hashChain.checksum ∧
      crc32Bytes bitBytes = description.bitAccumulator.checksum ∧
      capturesMatchDescription description hash bits ∧ hash.state.failed = false ∧
      bits.state.failed = false ∧
      prepared = { description, hashChain := hash.state, bitAccumulator := bits.state } := by
  unfold SnapshotLoader.acceptModules at accepted
  split_ifs at accepted with checksums
  split at accepted
  · next hash bits hash_read bits_read =>
    split_ifs at accepted with captures failed
    cases accepted
    simp only [Bool.or_eq_true, decide_eq_true_eq, not_or, ne_eq, not_not,
      Bool.not_eq_eq_eq_not, Bool.not_true, Bool.not_eq_false, Bool.not_eq_true] at checksums captures failed
    exact ⟨hash, bits, (serialize_deserializeSnapshot hash_read).1,
      (serialize_deserializeSnapshot bits_read).1, checksums.1, checksums.2, captures, failed.1,
      failed.2, rfl⟩
  · cases accepted

/-- The generation that a description and the captures of its modules make up. -/
def generationOf (description : SnapshotDescription) (hash : HashChainCapture)
    (bits : BitAccumulatorCapture) : CaptureGeneration where
  generationId := description.generationId
  recordPosition := description.recordPosition
  processedEnd := description.processedEnd
  sequence := description.snapshotSequence
  hashChain := hash
  bitAccumulator := bits

private theorem validGeneration_generationOf {description : SnapshotDescription}
    {hash : HashChainCapture} {bits : BitAccumulatorCapture}
    (boundary : validDescriptionBoundary description generationId)
    (captures : capturesMatchDescription description hash bits)
    (hash_runs : hash.state.failed = false) (bits_runs : bits.state.failed = false) :
    validGeneration (generationOf description hash bits) ∧ description.generationId = generationId := by
  simp only [validDescriptionBoundary, Bool.and_eq_true, decide_eq_true_eq] at boundary
  simp only [capturesMatchDescription, Bool.and_eq_true, decide_eq_true_eq] at captures
  obtain ⟨⟨⟨bounded, own⟩, position⟩, ends⟩ := boundary
  obtain ⟨⟨⟨⟨⟨⟨⟨⟨⟨hashId, bitsId⟩, hashPosition⟩, bitsPosition⟩, hashEnd⟩, bitsEnd⟩, hashSequence⟩,
    bitsSequence⟩, hashState⟩, bitsState⟩ := captures
  refine ⟨validGeneration_iff.mpr ?_, own⟩
  exact ⟨bounded, own.trans position.symm, ends, hashId, bitsId, hashPosition, bitsPosition, hashEnd,
    bitsEnd, hashSequence, bitsSequence, hashState, bitsState, hash_runs, bits_runs⟩

/-- A description whose entries name the module files is the one that the sink writes. -/
private theorem describe_generationOf {description : SnapshotDescription} {hash : HashChainCapture}
    {bits : BitAccumulatorCapture} (modules : validModuleDescriptions description)
    (hash_size : description.hashChain.fileSize = .ofNat hashChainSnapshotSize)
    (bits_size : description.bitAccumulator.fileSize = .ofNat bitAccumulatorSnapshotSize)
    (hash_checksum : crc32Bytes (serializeHashChainSnapshot hash) = description.hashChain.checksum)
    (bits_checksum :
      crc32Bytes (serializeBitAccumulatorSnapshot bits) = description.bitAccumulator.checksum) :
    describe description.identity (generationOf description hash bits) = description := by
  simp only [validModuleDescriptions, Bool.and_eq_true, decide_eq_true_eq] at modules
  obtain ⟨identity, generationId, recordPosition, processedEnd, sequence, ⟨_, _, _, _, _⟩,
    ⟨_, _, _, _, _⟩⟩ := description
  obtain ⟨⟨⟨⟨⟨rfl, rfl⟩, rfl⟩, rfl⟩, rfl⟩, rfl⟩ := modules
  cases hash_size
  cases bits_size
  cases hash_checksum
  cases bits_checksum
  rfl

/-- Files that are loaded are those of one valid generation. -/
theorem exists_generation_of_prepare {prepared : PreparedSnapshot}
    (loaded : loader.prepare files generationId = .ok prepared) :
    loader.root ≠ "" ∧ validIdentity loader.expectedIdentity ∧
      ∃ generation, validGeneration generation ∧ generation.generationId = generationId ∧
        files = savedFiles loader.expectedIdentity generation ∧
        prepared = preparedOf loader.expectedIdentity generation := by
  unfold SnapshotLoader.prepare at loaded
  split_ifs at loaded with config
  simp only [Bool.or_eq_true, decide_eq_true_eq, not_or, Bool.not_eq_eq_eq_not, Bool.not_true,
    Bool.not_eq_false] at config
  refine ⟨config.1, config.2, ?_⟩
  split at loaded
  case h_1 => cases loaded
  case h_2 => cases loaded
  case h_3 => cases loaded
  case h_4 descriptionBytes description_read =>
    split at loaded
    case h_1 => cases loaded
    case h_2 description accepted =>
      obtain ⟨described, identity, boundary, modules, hash_size, bits_size⟩ :=
        describe_of_accepted accepted
      split at loaded
      case h_5 hashBytes bitBytes hash_read bits_read =>
        obtain ⟨hash, bits, rfl, rfl, hash_checksum, bits_checksum, captures, hash_runs, bits_runs, rfl⟩ :=
          captures_of_accepted loaded
        obtain ⟨valid, own⟩ := validGeneration_generationOf boundary captures hash_runs bits_runs
        have same := describe_generationOf modules hash_size bits_size hash_checksum bits_checksum
        rw [identity] at same
        refine ⟨generationOf description hash bits, valid, own, ?_, ?_⟩
        · rw [savedFiles, same, described, ← regular_of_readFixedFile description_read]
          change files = ⟨_, .regular (serializeHashChainSnapshot hash),
            .regular (serializeBitAccumulatorSnapshot bits)⟩
          rw [← regular_of_readFixedFile hash_read, ← regular_of_readFixedFile bits_read]
        · rw [preparedOf, same]
          rfl
      all_goals cases loaded

private theorem acceptDescription_error {bytes : List UInt8} :
    loader.acceptDescription generationId bytes ≠ .error .ok := by
  intro refused
  unfold SnapshotLoader.acceptDescription at refused
  split at refused
  · cases refused
  · split_ifs at refused <;> cases refused

private theorem acceptModules_error {description : SnapshotDescription} {hashBytes bitBytes : List UInt8} :
    SnapshotLoader.acceptModules description hashBytes bitBytes ≠ .error .ok := by
  intro refused
  unfold SnapshotLoader.acceptModules at refused
  split_ifs at refused
  · cases refused
  · split at refused
    · split_ifs at refused <;> cases refused
    · cases refused

private theorem prepare_error : loader.prepare files generationId ≠ .error .ok := by
  intro refused
  unfold SnapshotLoader.prepare at refused
  split_ifs at refused
  · cases refused
  · split at refused
    case h_4 descriptionBytes _ =>
      split at refused
      case h_1 status refusal =>
        cases refused
        exact acceptDescription_error refusal
      case h_2 description accepted =>
        split at refused
        case h_5 => exact acceptModules_error refused
        all_goals cases refused
    all_goals cases refused

/-- Whatever the files hold, the loader accepts a valid generation or returns no state. -/
theorem load_cases (loader : SnapshotLoader) (files : SnapshotFiles) (generationId : UInt64) :
    (∃ generation, validGeneration generation ∧ generation.generationId = generationId ∧
      files = savedFiles loader.expectedIdentity generation ∧
      loader.load files generationId =
        { status := .ok, prepared := some (preparedOf loader.expectedIdentity generation) }) ∨
    (loader.load files generationId).status ≠ .ok ∧
      (loader.load files generationId).prepared = none := by
  unfold SnapshotLoader.load
  cases loaded : loader.prepare files generationId with
  | error status =>
    refine .inr ⟨fun same => ?_, rfl⟩
    obtain rfl : status = .ok := same
    exact prepare_error loaded
  | ok prepared =>
    obtain ⟨-, -, generation, valid, own, saved, rfl⟩ := exists_generation_of_prepare loaded
    exact .inl ⟨generation, valid, own, saved, rfl⟩

end Load

end Fexma.SnapshotDemo
