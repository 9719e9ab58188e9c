import Fexma.Matcher.Codec
import Fexma.Matcher.PipelineSafety
import Fexma.Matcher.ReplayPersistence
import Fexma.Wal.ReadAhead

/-! The replay source (`WalFileReplaySource` in `replay.cpp`): a range of the command log,
decoded and published through `try_replay`. -/
namespace Fexma

open Wal Transducer

def currentCommandSchemaVersion : UInt32 := 2

/-! ### Decoded commands -/

def Side.byte : Side → UInt8
  | bid => 0
  | ask => 1

/-- The enumerator of a byte that `validSide` accepts. -/
def Side.ofByte (value : UInt8) : Side := if value = 0 then .bid else .ask

/-- A command as it lies in memory. -/
def Command.raw : Command → RawCommand
  | none => .none
  | newLimit order => .newLimit
    { id := order.id
      ownerId := order.ownerId
      side := order.side.byte
      price := order.price
      quantity := order.quantity }
  | saveSnapshot => .saveSnapshot
  | loadSnapshot command => .loadSnapshot command
  | shutdown => .shutdown
  | startReplay => .startReplay
  | stopReplay => .stopReplay
  | unknown tag => if outside : 6 < tag then .unknown tag outside else .none

/-- A command as the matcher takes it. -/
def RawCommand.typed : RawCommand → Command
  | none => .none
  | newLimit order => .newLimit
    { id := order.id
      ownerId := order.ownerId
      side := .ofByte order.side
      price := order.price
      quantity := order.quantity }
  | saveSnapshot => .saveSnapshot
  | loadSnapshot command => .loadSnapshot command
  | shutdown => .shutdown
  | startReplay => .startReplay
  | stopReplay => .stopReplay
  | unknown tag _ => .unknown tag

def RawCommandWalPayload.typed (payload : RawCommandWalPayload) : CommandWalPayload :=
  ⟨payload.clientId, payload.message.typed⟩

theorem Side.byte_ofByte {value : UInt8} (valid : validSide value) : (ofByte value).byte = value := by
  have zero_or_one : value = 0 ∨ value = 1 := by
    have zero : (0 : UInt8).toNat = 0 := rfl
    have one : (1 : UInt8).toNat = 1 := rfl
    rw [validSide, decide_eq_true_eq, UInt8.le_iff_toNat_le] at valid
    rw [← UInt8.toNat_inj, ← UInt8.toNat_inj]
    omega
  rcases zero_or_one with rfl | rfl
  · rfl
  · rfl

/-- Nothing of a command that can be in a log is lost on the way to the matcher. -/
theorem RawCommand.raw_typed {command : RawCommand} (persisted : command.persistedV2) :
    command.typed.raw = command := by
  cases command with
  | newLimit order =>
    have valid : validSide order.side := by simpa [persistedV2, RawCommand.persisted, type] using persisted
    simp only [typed, Command.raw, Side.byte_ofByte valid]
  | unknown tag outside => simp only [typed, Command.raw, dif_pos outside]
  | _ => rfl

/-! ### The source -/

/-- The loop that reads up to the first record of the range. A record read brings the reader
on by one sequence, so the first one of the range bounds the rounds. -/
def skipRecords : ℕ → UInt64 → WalReader → List UInt8 → ReplayStatus × WalReader × List UInt8
  | 0, _, reader, bytes => (.ok, reader, bytes)
  | rounds + 1, firstSequence, reader, bytes =>
    if reader.nextSequence < firstSequence then
      let (read, bytes, reader) := reader.readNext bytes
      if read.status ≠ .record then (.walReadFailed, reader, bytes)
      else skipRecords rounds firstSequence reader bytes
    else (.ok, reader, bytes)

structure WalFileReplaySource where
  reader : WalReader := {}
  bytes : List UInt8 := List.replicate commandWalPayloadSize 0
  pending : CommandEnvelope := {}
  firstSequence : CommandSequence := 0
  lastSequence : CommandSequence := 0
  hasPending : Bool := false
  complete : Bool := false

namespace WalFileReplaySource

def «open» (source : WalFileReplaySource) (file : Option DiskFile) (expected : WalConfig)
    (firstSequence lastSequence : CommandSequence) : ReplayStatus × WalFileReplaySource :=
  if firstSequence = 0 || lastSequence < firstSequence ||
      firstSequence < expected.firstSequence ||
      expected.payloadSchemaVersion ≠ currentCommandSchemaVersion ||
      expected.payloadSize.toNat ≠ commandWalPayloadSize || expected.streamKind ≠ .command then
    (.invalidConfig, source)
  else
    let (opened, reader) := source.reader.open_ file expected
    if opened.status ≠ .ok then (.walOpenFailed, { source with reader })
    else
      let (status, reader, bytes) := skipRecords firstSequence.toNat firstSequence reader source.bytes
      (status, { source with reader, bytes, firstSequence, lastSequence })

/-- The part of `publish_next` that gets the next command; no result goes on to the pipeline. -/
def fetch (source : WalFileReplaySource) : Option ReplayResult × WalFileReplaySource :=
  let (read, bytes, reader) := source.reader.readNext source.bytes
  let source := { source with reader, bytes }
  if read.status ≠ .record then (some ⟨.walReadFailed, reader.nextSequence⟩, source)
  else if read.sequence > source.lastSequence then
    (some ⟨.complete, source.lastSequence⟩, { source with complete := true })
  else
    let (status, payload) := decodeCommandWalPayloadV2 bytes {}
    if status ≠ .ok then (some ⟨.decodeFailed, read.sequence⟩, source)
    else (none, { source with pending := ⟨read.sequence, payload.typed⟩, hasPending := true })

/-- The part of `publish_next` behind a command that is there. -/
def publishPending (source : WalFileReplaySource) (pipeline : CommandPipeline) :
    ReplayResult × WalFileReplaySource × CommandPipeline :=
  let (published, pipeline) := pipeline.tryReplay source.pending
  let sequence := source.pending.commandSequence
  if published.status = .full then (⟨.backpressure, sequence⟩, source, pipeline)
  else if published.status ≠ .ok then (⟨.pipelineFailed, sequence⟩, source, pipeline)
  else
    (⟨.ok, sequence⟩,
      { source with
        hasPending := false
        complete := source.complete || sequence = source.lastSequence }, pipeline)

def publishNext (source : WalFileReplaySource) (pipeline : CommandPipeline) :
    ReplayResult × WalFileReplaySource × CommandPipeline :=
  if source.complete then (⟨.complete, source.lastSequence⟩, source, pipeline)
  else if source.hasPending then source.publishPending pipeline
  else match source.fetch with
    | (some result, source) => (result, source, pipeline)
    | (none, source) => source.publishPending pipeline

end WalFileReplaySource

/-! ### Runs -/

/-- A call of `publish_next` with the pipeline it was given and what became of that. -/
structure PublishCall where
  result : ReplayResult
  before : CommandPipeline
  after : CommandPipeline

def PublishCall.ok (call : PublishCall) : Bool := call.result.status = .ok

namespace WalFileReplaySource

def call (source : WalFileReplaySource) (pipeline : CommandPipeline) :
    PublishCall × WalFileReplaySource :=
  let (result, source, after) := source.publishNext pipeline
  (⟨result, pipeline, after⟩, source)

/-- Calls one after the other, each with any pipeline. -/
def calls (source : WalFileReplaySource) (pipelines : List CommandPipeline) : List PublishCall :=
  outputs call source pipelines

end WalFileReplaySource

/-- The command in the record of a sequence, if it decodes. -/
def commandAt (config : WalConfig) (payloads : List (List UInt8)) (sequence : ℕ) :
    Option CommandEnvelope :=
  payloads[sequence - config.firstSequence.toNat]?.bind fun bytes =>
    if (decodeCommandWalPayloadV2 bytes {}).1 = .ok then
      some ⟨.ofNat sequence, (decodeCommandWalPayloadV2 bytes {}).2.typed⟩
    else none

/-- The calls that succeeded put the commands of the range into their pipelines, from the first
one on and without a gap, the others left them alone, and the source is complete behind the last. -/
structure InStep (config : WalConfig) (payloads : List (List UInt8))
    (firstSequence lastSequence : CommandSequence) (calls : List PublishCall) : Prop where
  published : ∀ i call, (calls.filter PublishCall.ok)[i]? = some call →
    firstSequence.toNat + i ≤ lastSequence.toNat ∧
    call.result.sequence.toNat = firstSequence.toNat + i ∧
    ∃ command, commandAt config payloads (firstSequence.toNat + i) = some command ∧
      call.after = { call.before.setSlotAt call.before.head { command } with
        head := call.before.head + 1 }
  unpublished : ∀ call ∈ calls, call.ok = false → call.after = call.before
  complete : ∀ early call late, calls = early ++ call :: late → call.result.status = .complete →
    ∃ last ∈ early, last.ok ∧ last.result.sequence = lastSequence

/-- No record of the range that does not decode has a record behind it that does, or the one
behind the range. -/
def DecodesThroughout (config : WalConfig) (payloads : List (List UInt8))
    (firstSequence lastSequence : CommandSequence) : Prop :=
  ∀ sequence later : ℕ, firstSequence.toNat ≤ sequence → sequence < later →
    (later ≤ lastSequence.toNat ∧ (commandAt config payloads later).isSome ∨
      later = lastSequence.toNat + 1 ∧ later - config.firstSequence.toNat < payloads.length) →
    (commandAt config payloads sequence).isSome

/-! ### Reading up to the range -/

/-- Nothing stands in front of sequence one. -/
theorem skipRecords_first {reader : WalReader} {bytes : List UInt8} (next : reader.nextSequence = 1) :
    skipRecords (UInt64.toNat 1) 1 reader bytes = (.ok, reader, bytes) := by
  have one : (1 : UInt64).toNat = 1 := rfl
  rw [one, skipRecords, next, if_neg (by decide)]

/-- The loop ends in front of the first record of the range, or fails. -/
theorem skipRecords_spec {config : WalConfig} {firstSequence : UInt64} {rounds next : ℕ}
    {payloads : List (List UInt8)} {reader : WalReader} {bytes : List UInt8}
    (readable : Readable config) (ahead : WalReader.Ahead config next payloads reader)
    (sequence : reader.nextSequence = .ofNat (min next (2 ^ 64 - 1)))
    (early : next ≤ firstSequence.toNat) (enough : firstSequence.toNat ≤ next + rounds)
    (fits : bytes.length = config.payloadSize.toNat)
    (accepted : (skipRecords rounds firstSequence reader bytes).1 = .ok) :
    WalReader.Ahead config firstSequence.toNat (payloads.drop (firstSequence.toNat - next))
        (skipRecords rounds firstSequence reader bytes).2.1 ∧
      (skipRecords rounds firstSequence reader bytes).2.2.length = config.payloadSize.toNat := by
  induction rounds generalizing next payloads reader bytes with
  | zero =>
    obtain rfl : next = firstSequence.toNat := by omega
    rw [Nat.sub_self]
    exact ⟨ahead, fits⟩
  | succ rounds ih =>
    have small := firstSequence.toNat_lt
    have place : reader.nextSequence.toNat = min next (2 ^ 64 - 1) := by
      have wide : UInt64.size = 2 ^ 64 := rfl
      rw [sequence]
      exact UInt64.toNat_ofNat_of_lt' (by omega)
    rw [skipRecords] at accepted ⊢
    by_cases before : reader.nextSequence < firstSequence
    · rw [if_pos before] at accepted ⊢
      rw [UInt64.lt_iff_toNat_lt, place] at before
      cases payloads with
      | nil =>
        obtain ⟨failed, -⟩ := ahead.none readable fits
        dsimp only at accepted
        rw [if_pos failed] at accepted
        cases accepted
      | cons payload payloads =>
        obtain ⟨behind, read, moved, later⟩ := ahead.record readable fits
        rw [read] at accepted ⊢
        have drop : (payload :: payloads).drop (firstSequence.toNat - next) =
            payloads.drop (firstSequence.toNat - (next + 1)) := by
          rw [show firstSequence.toNat - next = firstSequence.toNat - (next + 1) + 1 by omega,
            List.drop_succ_cons]
        rw [drop]
        exact ih later moved (by omega) (by omega) ahead.within.1 accepted
    · rw [if_neg before]
      rw [UInt64.lt_iff_toNat_lt, place] at before
      obtain rfl : next = firstSequence.toNat := by omega
      rw [Nat.sub_self]
      exact ⟨ahead, fits⟩

section Range
variable {config : WalConfig} {payloads : List (List UInt8)} {file : Option DiskFile}
variable {firstSequence lastSequence : CommandSequence} {sequence : ℕ} {command : CommandEnvelope}
variable {source : WalFileReplaySource} {pipeline : CommandPipeline} {reader : WalReader}
variable {buffer : List UInt8}

/-- A reader in front of a sequence: it gives that record, or none. -/
theorem read_at (readable : Readable config) (start : config.firstSequence.toNat ≤ sequence)
    (ahead : WalReader.Ahead config sequence
      (payloads.drop (sequence - config.firstSequence.toNat)) reader)
    (fits : buffer.length = config.payloadSize.toNat) :
    (payloads[sequence - config.firstSequence.toNat]? = none ∧
      (reader.readNext buffer).1.status ≠ .record ∧
      WalReader.Ahead config sequence (payloads.drop (sequence - config.firstSequence.toNat))
        (reader.readNext buffer).2.2) ∨
    ∃ bytes behind, payloads[sequence - config.firstSequence.toNat]? = some bytes ∧
      bytes.length = config.payloadSize.toNat ∧ sequence < 2 ^ 64 ∧
      reader.readNext buffer = ({ status := .record, sequence := .ofNat sequence }, bytes, behind) ∧
      WalReader.Ahead config (sequence + 1)
        (payloads.drop (sequence + 1 - config.firstSequence.toNat)) behind := by
  have behind : payloads.drop (sequence + 1 - config.firstSequence.toNat) =
      (payloads.drop (sequence - config.firstSequence.toNat)).drop 1 := by
    rw [List.drop_drop]
    congr 1
    omega
  have here : payloads[sequence - config.firstSequence.toNat]? =
      (payloads.drop (sequence - config.firstSequence.toNat))[0]? := by
    rw [List.getElem?_drop, Nat.add_zero]
  rw [here, behind]
  cases rest : payloads.drop (sequence - config.firstSequence.toNat) with
  | nil =>
    rw [rest] at ahead
    exact .inl ⟨rfl, ahead.none readable fits⟩
  | cons bytes more =>
    rw [rest] at ahead
    obtain ⟨behind, read, -, later⟩ := ahead.record readable fits
    have within := ahead.within
    rw [List.length_cons] at within
    exact .inr ⟨bytes, behind, rfl, within.1, by omega, read, later⟩

namespace WalFileReplaySource

/-- The source has read the records in front of a sequence and holds no command. -/
structure Standing (config : WalConfig) (payloads : List (List UInt8))
    (lastSequence : CommandSequence) (sequence : ℕ) (source : WalFileReplaySource) : Prop where
  last : source.lastSequence = lastSequence
  idle : source.hasPending = false
  incomplete : source.complete = false
  fits : source.bytes.length = config.payloadSize.toNat
  start : config.firstSequence.toNat ≤ sequence
  ahead : WalReader.Ahead config sequence
    (payloads.drop (sequence - config.firstSequence.toNat)) source.reader

/-- The source holds the command of a sequence and has read its record. -/
structure Holding (config : WalConfig) (payloads : List (List UInt8))
    (lastSequence : CommandSequence) (sequence : ℕ) (source : WalFileReplaySource) : Prop where
  last : source.lastSequence = lastSequence
  command : commandAt config payloads sequence = some source.pending
  held : source.hasPending = true
  incomplete : source.complete = false
  fits : source.bytes.length = config.payloadSize.toNat
  start : config.firstSequence.toNat ≤ sequence
  ahead : WalReader.Ahead config (sequence + 1)
    (payloads.drop (sequence + 1 - config.firstSequence.toNat)) source.reader

/-- What an accepted range is, and where the source stands in front of it. -/
structure Opened (config : WalConfig) (file : Option DiskFile)
    (firstSequence lastSequence : CommandSequence) (payloads : List (List UInt8))
    (source : WalFileReplaySource) : Prop where
  readable : Readable config
  records : Records config file payloads
  positive : 0 < firstSequence.toNat
  ordered : firstSequence.toNat ≤ lastSequence.toNat
  standing : Standing config payloads lastSequence firstSequence.toNat source

theorem exists_opened
    (accepted : ({} : WalFileReplaySource).open file config firstSequence lastSequence =
      (.ok, source)) :
    ∃ payloads, Opened config file firstSequence lastSequence payloads source := by
  unfold WalFileReplaySource.open at accepted
  split_ifs at accepted with refused
  · cases congrArg Prod.fst accepted
  simp only [Bool.or_eq_true, decide_eq_true_eq, not_or, not_not, UInt64.lt_iff_toNat_lt,
    Nat.not_lt] at refused
  obtain ⟨⟨⟨⟨⟨positive, ordered⟩, start⟩, -⟩, size⟩, -⟩ := refused
  dsimp only at accepted
  split_ifs at accepted with failed
  · cases congrArg Prod.fst accepted
  obtain ⟨readable, payloads, records⟩ := exists_records_of_open (not_not.mp failed)
  obtain ⟨reader, opened, sequence, ahead⟩ := records.opened readable
  rw [opened] at accepted
  have small := config.firstSequence.toNat_lt
  have within : min config.firstSequence.toNat (2 ^ 64 - 1) = config.firstSequence.toNat := by omega
  obtain ⟨ok, same⟩ := Prod.mk.inj accepted
  obtain ⟨ahead, fits⟩ := skipRecords_spec readable ahead
    (by rw [sequence, within, UInt64.ofNat_toNat]) start (Nat.le_add_left _ _)
    (List.length_replicate.trans size.symm) ok
  refine ⟨payloads, readable, records, ?_, ordered, ?_⟩
  · exact Nat.pos_of_ne_zero fun zero => positive (UInt64.toNat_inj.mp zero)
  · rw [← same]
    exact ⟨rfl, rfl, rfl, fits, start, ahead⟩

/-- A log of commands that starts with sequence one is opened there. -/
theorem exists_open_first {payloads : List (List UInt8)} (readable : Readable config)
    (records : Records config file payloads) (kind : config.streamKind = .command)
    (version : config.payloadSchemaVersion = currentCommandSchemaVersion)
    (size : config.payloadSize.toNat = commandWalPayloadSize) (first : config.firstSequence = 1)
    (ordered : 1 ≤ lastSequence.toNat) :
    ∃ source, ({} : WalFileReplaySource).open file config 1 lastSequence = (.ok, source) ∧
      Opened config file 1 lastSequence payloads source := by
  obtain ⟨reader, opened, sequence, -⟩ := records.opened readable
  have within : ¬ lastSequence < 1 := by
    rw [UInt64.lt_iff_toNat_lt]
    exact Nat.not_lt.mpr ordered
  have accepted : ({} : WalFileReplaySource).open file config 1 lastSequence =
      (.ok, { reader, firstSequence := 1, lastSequence }) := by
    rw [WalFileReplaySource.open, if_neg (by simp [within, first, version, size, kind]), opened]
    dsimp only
    rw [if_neg (not_not.mpr rfl), skipRecords_first (sequence.trans first)]
  obtain ⟨others, fresh⟩ := exists_opened accepted
  obtain rfl := fresh.records.unique readable records
  exact ⟨_, accepted, fresh⟩

/-- What `fetch` can meet. -/
inductive Fetched (config : WalConfig) (payloads : List (List UInt8))
    (lastSequence : CommandSequence) (sequence : ℕ) :
    Option ReplayResult × WalFileReplaySource → Prop
  | unread {answer : Option ReplayResult × WalFileReplaySource} {at_ : UInt64}
      (missing : payloads[sequence - config.firstSequence.toNat]? = none)
      (result : answer.1 = some ⟨.walReadFailed, at_⟩)
      (standing : Standing config payloads lastSequence sequence answer.2) :
    Fetched config payloads lastSequence sequence answer
  | complete {answer : Option ReplayResult × WalFileReplaySource}
      (record : sequence - config.firstSequence.toNat < payloads.length)
      (behind : lastSequence.toNat < sequence)
      (result : answer.1 = some ⟨.complete, lastSequence⟩) (done : answer.2.complete = true) :
    Fetched config payloads lastSequence sequence answer
  | undecoded {answer : Option ReplayResult × WalFileReplaySource} {at_ : UInt64}
      (inside : sequence ≤ lastSequence.toNat)
      (command : commandAt config payloads sequence = none)
      (result : answer.1 = some ⟨.decodeFailed, at_⟩)
      (standing : Standing config payloads lastSequence (sequence + 1) answer.2) :
    Fetched config payloads lastSequence sequence answer
  | command {answer : Option ReplayResult × WalFileReplaySource}
      (inside : sequence ≤ lastSequence.toNat) (result : answer.1 = none)
      (holding : Holding config payloads lastSequence sequence answer.2) :
    Fetched config payloads lastSequence sequence answer

theorem Standing.fetch (readable : Readable config)
    (standing : Standing config payloads lastSequence sequence source) :
    Fetched config payloads lastSequence sequence source.fetch := by
  obtain ⟨last, idle, incomplete, fits, start, ahead⟩ := standing
  have kept : (source.reader.readNext source.bytes).2.1.length = config.payloadSize.toNat :=
    WalReader.length_readNext.trans fits
  rcases read_at readable start ahead fits with ⟨missing, failed, ahead⟩ |
    ⟨bytes, behind, record, size, small, read, ahead⟩
  · unfold WalFileReplaySource.fetch
    dsimp only
    rw [if_pos failed]
    exact .unread missing rfl ⟨last, idle, incomplete, kept, start, ahead⟩
  have place : (UInt64.ofNat sequence).toNat = sequence := UInt64.toNat_ofNat_of_lt' small
  have command : commandAt config payloads sequence =
      if (decodeCommandWalPayloadV2 bytes {}).1 = .ok then
        some ⟨.ofNat sequence, (decodeCommandWalPayloadV2 bytes {}).2.typed⟩
      else none := by rw [commandAt, record, Option.bind_some]
  unfold WalFileReplaySource.fetch
  rw [read, last]
  dsimp only
  rw [if_neg (not_not.mpr rfl)]
  by_cases past : UInt64.ofNat sequence > lastSequence
  · rw [if_pos past]
    rw [gt_iff_lt, UInt64.lt_iff_toNat_lt, place] at past
    exact .complete (List.getElem?_eq_some_iff.mp record).1 past rfl rfl
  rw [if_neg past]
  rw [gt_iff_lt, UInt64.lt_iff_toNat_lt, place, Nat.not_lt] at past
  by_cases decoded : (decodeCommandWalPayloadV2 bytes {}).1 = .ok
  · rw [if_neg (not_not.mpr decoded)]
    rw [if_pos decoded] at command
    exact .command past rfl ⟨rfl, command, rfl, incomplete, size, start, ahead⟩
  · rw [if_pos decoded]
    rw [if_neg decoded] at command
    exact .undecoded past command rfl ⟨rfl, idle, incomplete, size, start.trans (Nat.le_succ _), ahead⟩

/-- The pipeline takes the command that is held, or everything stays as it is. -/
theorem Holding.publish (holding : Holding config payloads lastSequence sequence source)
    (pipeline : CommandPipeline) :
    ((source.publishPending pipeline).1.status ≠ .ok ∧
      (source.publishPending pipeline).1.status ≠ .complete ∧
      (source.publishPending pipeline).2 = (source, pipeline)) ∨
    ((source.publishPending pipeline).1 = ⟨.ok, source.pending.commandSequence⟩ ∧
      (source.publishPending pipeline).2.2 =
        { pipeline.setSlotAt pipeline.head { command := source.pending } with
          head := pipeline.head + 1 } ∧
      (source.pending.commandSequence = lastSequence ∧
          (source.publishPending pipeline).2.1.complete = true ∨
        source.pending.commandSequence ≠ lastSequence ∧
          Standing config payloads lastSequence (sequence + 1)
            (source.publishPending pipeline).2.1)) := by
  obtain ⟨last, -, held, incomplete, fits, start, ahead⟩ := holding
  unfold publishPending
  rcases pipeline.tryReplay_cases source.pending with ⟨refused, same⟩ | ⟨-, taken⟩
  · refine .inl ?_
    dsimp only
    rw [same]
    split_ifs with full
    · exact ⟨nofun, nofun, rfl⟩
    · exact ⟨nofun, nofun, rfl⟩
  · refine .inr ?_
    rw [taken]
    refine ⟨rfl, rfl, ?_⟩
    by_cases done : source.pending.commandSequence = source.lastSequence
    · exact .inl ⟨done.trans last, by simp [done]⟩
    · refine .inr ⟨fun same => done (same.trans last.symm), last, rfl, ?_, fits,
        start.trans (Nat.le_succ _), ahead⟩
      simp [done, incomplete]

end WalFileReplaySource

end Range

end Fexma
