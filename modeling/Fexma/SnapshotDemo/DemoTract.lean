import Fexma.SnapshotDemo.RecordPrefix
import Fexma.Wal.CrashSafety
import Fexma.Wal.PersistenceStage

/-! The complete tract of the demo: a ring, the persistence stage with its file, both stateful
stages behind it, and the composition that collects, releases and reclaims. Every stage reads
the progress of the stage in front of it, and only the last one lets a slot go. -/
namespace Fexma.SnapshotDemo

open Wal RecordString WalFacade

structure DemoTract (δ α α' : Type) where
  source : WalCore
  persistenceSlider : PersistenceSlider δ
  composition : Composition α α'
  /-- The payloads that the ring has accepted. The code keeps no such list. -/
  published : List (List UInt8) := []

/-- One call of the composition. The policies of the stages are set anew for each call. -/
inductive DemoAction (α α' : Type) where
  | tryPublish (payload : List UInt8)
  | persistenceStep (maximumCount : UInt64)
  | hashStep (policy : α)
  | bitStep (policy : α')
  | collect
  | release (generationId : UInt64)
  | saveAndRelease (saved : SnapshotSaveStatus)
  | reclaim

/-- A payload that may be published at a position: it decodes, and a snapshot record carries
the position. -/
def Admissible (position : ℕ) (payload : List UInt8) : Prop :=
  (decodeRecord payload).status = .ok ∧
    ((decodeRecord payload).record.kind = .saveSnapshot →
      (decodeRecord payload).record.generationId.toNat = position)

namespace DemoTract

variable {δ α α' : Type}

/-- The progress of the persistence stage. -/
def durable (tract : DemoTract δ α α') : Position := tract.persistenceSlider.own

def persistence (tract : DemoTract δ α α') : PersistenceModule δ := tract.persistenceSlider.module

/-- A ring and a file that have just been opened, and stages at position zero. -/
def create [Device δ] (config : WalConfig) (answers : OpenAnswers δ) (rule : α) (rule' : α') :
    Option (DemoTract δ α α') :=
  let source := ({} : WalCore).open_ (runtimeConfig config) answers.blocks
  let persistence :=
    ({} : PersistenceModule δ).open_ (physicalConfig config) answers.adapter answers.device
  if source.1 ≠ .ok || persistence.1 ≠ .ok then none
  else some
    { source := source.2
      persistenceSlider :=
        { module := persistence.2, acquirePolicy := { maximumCount := 1 }, publishPolicy := .policy }
      composition := .initial rule rule' }

def tryPublish (tract : DemoTract δ α α') (payload : List UInt8) :
    PublishResult × DemoTract δ α α' :=
  let answer := tract.source.tryPublish payload
  (answer.1,
    { tract with
      source := answer.2
      published :=
        if answer.1.status = .ok then tract.published ++ [payload] else tract.published })

def persistenceStep [Device δ] (tract : DemoTract δ α α') (maximumCount : UInt64) :
    SliderResult × DemoTract δ α α' :=
  let answer := (tract.persistenceSlider.under ⟨maximumCount⟩).processAvailable
    tract.source.tryView tract.source.head
  (answer.1, { tract with persistenceSlider := answer.2 })

def hashStep [SliderAcquirePolicy α] (tract : DemoTract δ α α') (policy : α) :
    SliderResult × DemoTract δ α α' :=
  let answer := (tract.composition.hash.under policy).processAvailable tract.source.tryView
    tract.durable
  (answer.1, { tract with composition := { tract.composition with hash := answer.2 } })

def bitStep [SliderAcquirePolicy α'] (tract : DemoTract δ α α') (policy : α') :
    SliderResult × DemoTract δ α α' :=
  let answer := (tract.composition.bits.under policy).processAvailable tract.source.tryView
    tract.composition.hash.own
  (answer.1, { tract with composition := { tract.composition with bits := answer.2 } })

/-- The tail follows the last stage. -/
def reclaim (tract : DemoTract δ α α') : ReclaimStatus × DemoTract δ α α' :=
  let answer := tract.source.reclaim tract.composition.bits.own
  (answer.1, { tract with source := answer.2 })

variable [Device δ] [SliderAcquirePolicy α] [SliderAcquirePolicy α']

def perform (tract : DemoTract δ α α') : DemoAction α α' → DemoTract δ α α'
  | .tryPublish payload => (tract.tryPublish payload).2
  | .persistenceStep maximumCount => (tract.persistenceStep maximumCount).2
  | .hashStep policy => (tract.hashStep policy).2
  | .bitStep policy => (tract.bitStep policy).2
  | .collect => { tract with composition := tract.composition.collect.2 }
  | .release generationId =>
    { tract with composition := (tract.composition.releaseGeneration generationId).2 }
  | .saveAndRelease saved =>
    { tract with composition := (tract.composition.saveAndRelease fun _ => saved).2 }
  | .reclaim => tract.reclaim.2

omit [Device δ] [SliderAcquirePolicy α] [SliderAcquirePolicy α'] in
/-- The producer publishes what may stand at the next position. -/
def Permits (tract : DemoTract δ α α') : DemoAction α α' → Prop
  | .tryPublish payload => Admissible tract.published.length payload
  | _ => True

/-- What a schedule makes of a tract. -/
inductive Reaches (start : DemoTract δ α α') : DemoTract δ α α' → Prop
  | start : Reaches start start
  | step {tract : DemoTract δ α α'} (reached : Reaches start tract) (action : DemoAction α α')
    (permitted : tract.Permits action) : Reaches start (tract.perform action)

end DemoTract

end Fexma.SnapshotDemo
