import Fexma.SnapshotDemo.Modules

/-! The assembly of a complete generation out of the captures of the two modules
(`capture_generation.hpp`). -/
namespace Fexma.SnapshotDemo

open Wal

structure CaptureGeneration where
  generationId : UInt64
  recordPosition : Position
  processedEnd : Position
  sequence : UInt64
  hashChain : HashChainCapture
  bitAccumulator : BitAccumulatorCapture
  deriving DecidableEq, Repr

inductive CollectStatus where
  | complete
  | missingParticipant
  | mismatch
  | generationInFlight
  deriving DecidableEq, Repr

/-- What saving a generation comes to (`snapshot_sink.hpp`). -/
inductive SnapshotSaveStatus where
  | ok
  | invalidConfig
  | invalidGeneration
  | generationUnavailable
  | alreadyPublished
  | directoryError
  | openError
  | writeError
  | flushError
  | syncError
  | closeError
  | publicationError
  | releaseError
  deriving DecidableEq, Repr

structure CaptureGenerationCoordinator where
  generation : Option CaptureGeneration := none
  deriving DecidableEq, Repr

namespace CaptureGenerationCoordinator

def collect (coordinator : CaptureGenerationCoordinator) (hashChain : HashChainModule)
    (bitAccumulator : BitAccumulatorModule) : CollectStatus × CaptureGenerationCoordinator :=
  if coordinator.generation.isSome then (.generationInFlight, coordinator)
  else
    match hashChain.capture, bitAccumulator.capture with
    | some hash, some bits =>
      if hash.generationId ≠ bits.generationId || hash.recordPosition ≠ bits.recordPosition ||
          hash.processedEnd ≠ bits.processedEnd || hash.sequence ≠ bits.sequence ||
          hash.state.processedEnd ≠ hash.processedEnd ||
          bits.state.processedEnd ≠ bits.processedEnd then (.mismatch, coordinator)
      else
        (.complete,
          { generation := some
              { generationId := hash.generationId, recordPosition := hash.recordPosition
                processedEnd := hash.processedEnd, sequence := hash.sequence
                hashChain := hash, bitAccumulator := bits } })
    | _, _ => (.missingParticipant, coordinator)

/-- A slot that holds a capture of this generation. -/
def holds {β : Type} (module : StatefulModule β) (generationId : UInt64)
    (processedEnd : Position) : Bool :=
  match module.capture with
  | none => false
  | some capture =>
    capture.generationId = generationId && capture.processedEnd = processedEnd

/-- The slots are checked before either is cleared. -/
def releaseGeneration (coordinator : CaptureGenerationCoordinator) (hashChain : HashChainModule)
    (bitAccumulator : BitAccumulatorModule) (generationId : UInt64) :
    Bool × CaptureGenerationCoordinator × HashChainModule × BitAccumulatorModule :=
  match coordinator.generation with
  | none => (false, coordinator, hashChain, bitAccumulator)
  | some generation =>
    if generation.generationId ≠ generationId then (false, coordinator, hashChain, bitAccumulator)
    else if !holds hashChain generationId generation.processedEnd ||
        !holds bitAccumulator generationId generation.processedEnd then
      (false, coordinator, hashChain, bitAccumulator)
    else
      let hash := hashChain.releaseCapture generationId generation.processedEnd
      if !hash.1 then (false, coordinator, hash.2, bitAccumulator)
      else
        let bits := bitAccumulator.releaseCapture generationId generation.processedEnd
        if !bits.1 then (false, coordinator, hash.2, bits.2)
        else (true, { generation := none }, hash.2, bits.2)

variable {coordinator : CaptureGenerationCoordinator} {hashChain : HashChainModule}
variable {bitAccumulator : BitAccumulatorModule} {generationId : UInt64}

theorem releaseCapture_of_holds {β : Type} {module : StatefulModule β} {processedEnd : Position}
    (held : holds module generationId processedEnd) :
    module.releaseCapture generationId processedEnd = (true, { module with capture := none }) := by
  unfold holds at held
  split at held
  · cases held
  · next capture full =>
    simp only [Bool.and_eq_true, decide_eq_true_eq] at held
    obtain ⟨rfl, rfl⟩ := held
    exact StatefulModule.releaseCapture_self full

/-- A generation that both slots hold is released. -/
theorem releaseGeneration_held {generation : CaptureGeneration}
    (pending : coordinator.generation = some generation)
    (hash : holds hashChain generation.generationId generation.processedEnd)
    (bits : holds bitAccumulator generation.generationId generation.processedEnd) :
    coordinator.releaseGeneration hashChain bitAccumulator generation.generationId =
      (true, { generation := none }, { hashChain with capture := none },
        { bitAccumulator with capture := none }) := by
  unfold releaseGeneration
  rw [pending]
  dsimp only
  rw [if_neg (not_not.mpr rfl), hash, bits, releaseCapture_of_holds hash, releaseCapture_of_holds bits]
  rfl

/-- A release clears the generation and both slots, or it changes nothing. -/
theorem releaseGeneration_cases :
    coordinator.releaseGeneration hashChain bitAccumulator generationId =
        (false, coordinator, hashChain, bitAccumulator) ∨
      (∃ generation, coordinator.generation = some generation ∧
        generation.generationId = generationId) ∧
      coordinator.releaseGeneration hashChain bitAccumulator generationId =
        (true, { generation := none }, { hashChain with capture := none },
          { bitAccumulator with capture := none }) := by
  unfold releaseGeneration
  split
  · exact .inl rfl
  · next generation pending =>
    by_cases same : generation.generationId = generationId
    · obtain rfl := same
      cases held : holds hashChain generation.generationId generation.processedEnd &&
        holds bitAccumulator generation.generationId generation.processedEnd with
      | false =>
        rw [if_neg (not_not.mpr rfl), ← Bool.not_and, held]
        exact .inl rfl
      | true =>
        obtain ⟨hash, bits⟩ := Bool.and_eq_true_iff.mp held
        have released := releaseGeneration_held pending hash bits
        rw [releaseGeneration, pending] at released
        exact .inr ⟨⟨generation, pending, rfl⟩, released⟩
    · rw [if_pos same]
      exact .inl rfl

end CaptureGenerationCoordinator

end Fexma.SnapshotDemo
