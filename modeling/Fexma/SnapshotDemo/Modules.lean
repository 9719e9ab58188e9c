import Fexma.SnapshotDemo.Record
import Fexma.Wal.Slider

/-! The two stateful modules of the demo (`hash_chain.hpp`, `bit_accumulator.hpp`). They
differ in what a record does to their own numbers and in nothing else: a state, a capture and
a module are one definition each, with the numbers as a parameter. The durations that a
capture takes are left out. -/
namespace Fexma.SnapshotDemo

open Wal

/-- The numbers of a module and what a record does to them. -/
class Participant (β : Type) where
  initial : β
  absorb : β → RecordView → β

structure ModuleState (β : Type) where
  processedEnd : Position
  body : β
  failed : Bool
  deriving DecidableEq, Repr

structure Capture (β : Type) where
  generationId : UInt64
  recordPosition : Position
  processedEnd : Position
  sequence : UInt64
  state : ModuleState β
  deriving DecidableEq, Repr

structure StatefulModule (β : Type) where
  state : ModuleState β
  capture : Option (Capture β)
  deriving DecidableEq, Repr

namespace StatefulModule

variable {β : Type}

def initial [Participant β] : StatefulModule β :=
  { state := { processedEnd := 0, body := Participant.initial, failed := false }, capture := none }

/-- Fail closed: the numbers stay. -/
def fail (module : StatefulModule β) : StatefulModule β :=
  { module with state := { module.state with failed := true } }

def process [Participant β] (module : StatefulModule β) (record : RecordView) :
    Bool × StatefulModule β :=
  if module.state.failed || record.position ≠ module.state.processedEnd then (false, module.fail)
  else
    let decoded := decodeRecord record.payload
    if decoded.status ≠ .ok then (false, module.fail)
    else if decoded.record.kind = .saveSnapshot &&
        decoded.record.generationId ≠ record.position then (false, module.fail)
    else if decoded.record.kind = .saveSnapshot && module.capture.isSome then (false, module)
    else
      let state :=
        { module.state with
          processedEnd := module.state.processedEnd + 1
          body := Participant.absorb module.state.body record }
      (true,
        { state
          capture :=
            if decoded.record.kind = .saveSnapshot then
              some
                { generationId := decoded.record.generationId, recordPosition := record.position
                  processedEnd := state.processedEnd, sequence := record.sequence, state }
            else module.capture })

def releaseCapture (module : StatefulModule β) (generationId : UInt64) (processedEnd : Position) :
    Bool × StatefulModule β :=
  match module.capture with
  | none => (false, module)
  | some capture =>
    if capture.generationId ≠ generationId || capture.processedEnd ≠ processedEnd then
      (false, module)
    else (true, { module with capture := none })

def restoreQuiescent (_ : StatefulModule β) (state : ModuleState β) : StatefulModule β :=
  { state, capture := none }

instance [Participant β] : SliderModule (StatefulModule β) where
  process := process

/-! ### What a record does -/

/-- A record that does not fail the module: it is the next one, it decodes, and a snapshot
record carries its own position. -/
structure Admits (module : StatefulModule β) (record : RecordView) : Prop where
  running : module.state.failed = false
  next : record.position = module.state.processedEnd
  decoded : (decodeRecord record.payload).status = .ok
  generation : (decodeRecord record.payload).record.kind = .saveSnapshot →
    (decodeRecord record.payload).record.generationId = record.position

variable [Participant β] {module : StatefulModule β} {record : RecordView}

/-- The state behind a record. -/
def advance (module : StatefulModule β) (record : RecordView) : ModuleState β :=
  { processedEnd := module.state.processedEnd + 1
    body := Participant.absorb module.state.body record
    failed := false }

/-- The capture of the state behind a snapshot record. -/
def captured (module : StatefulModule β) (record : RecordView) : Capture β :=
  { generationId := record.position, recordPosition := record.position
    processedEnd := module.state.processedEnd + 1, sequence := record.sequence
    state := module.advance record }

/-- A snapshot record that meets an occupied slot is refused, and nothing changes. -/
theorem Admits.refuse (admits : module.Admits record)
    (snapshot : (decodeRecord record.payload).record.kind = .saveSnapshot)
    (occupied : module.capture.isSome) : module.process record = (false, module) := by
  simp only [process, admits.running, admits.next, admits.decoded, snapshot,
    admits.generation snapshot, occupied, ne_eq, not_true_eq_false, decide_false, decide_true,
    Bool.or_self, Bool.false_eq_true, if_false, Bool.and_true, Bool.and_false, if_true]

/-- A snapshot record that meets a free slot fills it. -/
theorem Admits.capture (admits : module.Admits record)
    (snapshot : (decodeRecord record.payload).record.kind = .saveSnapshot)
    (free : module.capture = none) : module.process record =
      (true, { state := module.advance record, capture := some (module.captured record) }) := by
  simp only [process, admits.running, admits.next, admits.decoded, snapshot,
    admits.generation snapshot, free, ne_eq, not_true_eq_false, decide_false, decide_true,
    Bool.or_self, Bool.false_eq_true, if_false, Bool.and_false, if_true, Option.isSome_none,
    advance, captured]

/-- Any other record leaves the slot as it is. -/
theorem Admits.pass (admits : module.Admits record)
    (data : (decodeRecord record.payload).record.kind ≠ .saveSnapshot) : module.process record =
      (true, { state := module.advance record, capture := module.capture }) := by
  simp only [process, admits.running, admits.next, admits.decoded, data, ne_eq,
    not_true_eq_false, decide_false, Bool.or_self, Bool.false_eq_true, if_false, Bool.false_and,
    advance]

omit [Participant β] in
theorem releaseCapture_self {capture : Capture β} (full : module.capture = some capture) :
    module.releaseCapture capture.generationId capture.processedEnd =
      (true, { module with capture := none }) := by
  simp only [releaseCapture, full, ne_eq, not_true_eq_false, decide_false, Bool.or_self,
    Bool.false_eq_true, if_false]

/-- A record out of order fails the module; its position and its capture stay. -/
theorem process_displaced (displaced : record.position ≠ module.state.processedEnd) :
    module.process record = (false, module.fail) := by
  unfold process
  rw [if_pos]
  simp only [displaced, ne_eq, not_false_eq_true, decide_true, Bool.or_true]

end StatefulModule

/-! ### The hash chain -/

/-- The bytes of a number that are mixed in, lowest first. -/
def littleEndian (value : UInt64) : List UInt8 :=
  (List.range 8).map fun byte => ((value >>> (UInt64.ofNat byte * 8)) &&& 0xff).toUInt8

structure HashChain where
  digest : UInt64 := 14695981039346656037
  deriving DecidableEq, Repr

namespace HashChain

def mixByte (chain : HashChain) (value : UInt8) : HashChain :=
  { digest := (chain.digest ^^^ value.toUInt64) * 1099511628211 }

def mixU64 (chain : HashChain) (value : UInt64) : HashChain :=
  (littleEndian value).foldl mixByte chain

instance : Participant HashChain where
  initial := {}
  absorb chain record :=
    let chain := chain.mixByte 0xff
    let chain := chain.mixU64 record.position
    let chain := chain.mixU64 record.sequence
    let chain := chain.mixU64 (.ofNat record.payload.length)
    record.payload.foldl mixByte chain

end HashChain

abbrev HashChainState := ModuleState HashChain
abbrev HashChainCapture := Capture HashChain
abbrev HashChainModule := StatefulModule HashChain

/-! ### The bit accumulator -/

structure BitAccumulator where
  totalOneBits : UInt64 := 0
  rollingBits : UInt64 := 0x9e3779b97f4a7c15
  deriving DecidableEq, Repr

namespace BitAccumulator

/-- `std::rotl` by seven. -/
def rotateSeven (bits : UInt64) : UInt64 := (bits <<< 7) ||| (bits >>> 57)

/-- `std::popcount` of a byte. -/
def popcount (value : UInt8) : UInt64 :=
  .ofNat ((List.range 8).filter value.toNat.testBit).length

def foldByte (bits : BitAccumulator) (value : UInt8) : BitAccumulator :=
  { bits with
    rollingBits := rotateSeven bits.rollingBits ^^^ (value.toUInt64 + 0xa0761d6478bd642f) }

def foldU64 (bits : BitAccumulator) (value : UInt64) : BitAccumulator :=
  (littleEndian value).foldl foldByte bits

instance : Participant BitAccumulator where
  initial := {}
  absorb bits record :=
    let bits := bits.foldU64 record.position
    let bits := bits.foldU64 record.sequence
    let bits := bits.foldU64 (.ofNat record.payload.length)
    record.payload.foldl
      (fun bits byte =>
        { bits with totalOneBits := bits.totalOneBits + popcount byte }.foldByte byte) bits

end BitAccumulator

abbrev BitAccumulatorState := ModuleState BitAccumulator
abbrev BitAccumulatorCapture := Capture BitAccumulator
abbrev BitAccumulatorModule := StatefulModule BitAccumulator

end Fexma.SnapshotDemo
