import Fexma.SnapshotDemo.CaptureGeneration

/-! The record string of the demo and what its prefixes stand for: the state of a module
behind a position, its capture at a snapshot record, and the generation made of both
captures. Nothing here runs a module. -/
namespace Fexma.SnapshotDemo

open Wal

structure StoredRecord where
  sequence : UInt64
  payload : List UInt8
  deriving DecidableEq, Repr

/-- Every payload decodes, every snapshot record carries its own position, and positions are
64-bit numbers. -/
structure RecordString where
  records : List StoredRecord
  fits : records.length < 2 ^ 64
  decoded : ∀ record ∈ records, (decodeRecord record.payload).status = .ok
  generations : ∀ (position : ℕ) (record : StoredRecord), records[position]? = some record →
    (decodeRecord record.payload).record.kind = .saveSnapshot →
    (decodeRecord record.payload).record.generationId.toNat = position

namespace RecordString

variable (text : RecordString)

def length : ℕ := text.records.length

/-- The view of a position. -/
def view (position : Position) : AccessResult :=
  match text.records[position.toNat]? with
  | some record =>
    { status := .ok, record := { position, sequence := record.sequence, payload := record.payload } }
  | none => { status := .unpublished }

/-- The record at an index, as a module sees it. -/
def recordAt (index : ℕ) : RecordView := (text.view (.ofNat index)).record

/-- The index holds a snapshot record. -/
def IsSnapshot (index : ℕ) : Prop :=
  index < text.length ∧
    (decodeRecord (text.recordAt index).payload).record.kind = .saveSnapshot

instance : DecidablePred text.IsSnapshot := fun _ => inferInstanceAs (Decidable (_ ∧ _))

/-- The snapshot positions from a start to an end, in order. -/
def snapshots (start stop : ℕ) : List ℕ :=
  (List.range' start (stop - start)).filter fun index => decide (text.IsSnapshot index)

section States
variable (β : Type) [Participant β]

/-- The numbers behind the first records. -/
def bodyAfter : ℕ → β
  | 0 => Participant.initial
  | count + 1 => Participant.absorb (bodyAfter count) (text.recordAt count)

def stateAfter (count : ℕ) : ModuleState β :=
  { processedEnd := .ofNat count, body := text.bodyAfter β count, failed := false }

/-- The capture that the snapshot record at an index leaves. -/
def captureAt (index : ℕ) : Capture β :=
  { generationId := .ofNat index, recordPosition := .ofNat index
    processedEnd := .ofNat (index + 1), sequence := (text.recordAt index).sequence
    state := text.stateAfter β (index + 1) }

end States

def generationAt (index : ℕ) : CaptureGeneration :=
  { generationId := .ofNat index, recordPosition := .ofNat index
    processedEnd := .ofNat (index + 1), sequence := (text.recordAt index).sequence
    hashChain := text.captureAt HashChain index
    bitAccumulator := text.captureAt BitAccumulator index }

/-! ### Positions -/

variable {text} {index start floor : ℕ} {position : Position}

theorem view_eq (inside : position.toNat < text.length) :
    text.view position = { status := .ok, record := text.recordAt position.toNat } := by
  rw [recordAt, UInt64.ofNat_toNat]
  unfold view
  rw [List.getElem?_eq_getElem inside]

theorem ofNat_inj {other : ℕ} (inside : index < text.length) (inside' : other < text.length)
    (same : UInt64.ofNat index = .ofNat other) : index = other := by
  have numbers := congrArg UInt64.toNat same
  rwa [UInt64.toNat_ofNat_of_lt' (Nat.lt_trans inside text.fits),
    UInt64.toNat_ofNat_of_lt' (Nat.lt_trans inside' text.fits)] at numbers

theorem recordAt_position (inside : index < text.length) :
    (text.recordAt index).position = .ofNat index := by
  have small : index < 2 ^ 64 := Nat.lt_trans inside text.fits
  have same : (UInt64.ofNat index).toNat = index := UInt64.toNat_ofNat_of_lt' small
  unfold recordAt view
  rw [same, List.getElem?_eq_getElem inside]

theorem recordAt_payload (inside : index < text.length) :
    (text.recordAt index).payload = (text.records.get ⟨index, inside⟩).payload := by
  have small : index < 2 ^ 64 := Nat.lt_trans inside text.fits
  have same : (UInt64.ofNat index).toNat = index := UInt64.toNat_ofNat_of_lt' small
  unfold recordAt view
  rw [same, List.getElem?_eq_getElem inside]
  rfl

/-- A module that stands behind the first records admits the next. -/
theorem admits {β : Type} [Participant β] {module : StatefulModule β} (inside : index < text.length)
    (state : module.state = text.stateAfter β index) :
    module.Admits (text.recordAt index) where
  running := by rw [state]; rfl
  next := by rw [state, recordAt_position inside]; rfl
  decoded := by
    rw [recordAt_payload inside]
    exact text.decoded _ (List.getElem_mem inside)
  generation snapshot := by
    have small : index < 2 ^ 64 := Nat.lt_trans inside text.fits
    rw [recordAt_payload inside] at snapshot ⊢
    rw [recordAt_position inside]
    have own := text.generations index _ (List.getElem?_eq_getElem inside) snapshot
    exact UInt64.toNat_inj.mp (own.trans (UInt64.toNat_ofNat_of_lt' small).symm)

/-- The next snapshot position from a floor on. -/
structure Next (text : RecordString) (floor index : ℕ) : Prop where
  above : floor ≤ index
  snapshot : text.IsSnapshot index
  first : ∀ earlier, floor ≤ earlier → earlier < index → ¬ text.IsSnapshot earlier

theorem Next.unique {other : ℕ} (next : Next text floor index) (next' : Next text floor other) :
    index = other := by
  rcases Nat.lt_trichotomy index other with before | same | behind
  · exact absurd next.snapshot (next'.first index next.above before)
  · exact same
  · exact absurd next'.snapshot (next.first other next'.above behind)

theorem mem_snapshots {stop : ℕ} :
    index ∈ text.snapshots start stop ↔ (start ≤ index ∧ index < stop) ∧ text.IsSnapshot index := by
  rw [snapshots, List.mem_filter, List.mem_range'_1, decide_eq_true_eq]
  refine and_congr_left fun _ => and_congr_right fun above => ?_
  omega

theorem snapshots_append {middle stop : ℕ} (before : start ≤ middle) (behind : middle ≤ stop) :
    text.snapshots start stop = text.snapshots start middle ++ text.snapshots middle stop := by
  have joined := @List.range'_append_1 start (middle - start) (stop - middle)
  rw [show start + (middle - start) = middle by omega,
    show middle - start + (stop - middle) = stop - start by omega] at joined
  rw [snapshots, ← joined, List.filter_append]
  rfl

theorem snapshots_eq_nil {stop : ℕ}
    (clear : ∀ position, start ≤ position → position < stop → ¬ text.IsSnapshot position) :
    text.snapshots start stop = [] := by
  rw [List.eq_nil_iff_forall_not_mem]
  intro position member
  obtain ⟨inside, snapshot⟩ := mem_snapshots.mp member
  exact clear position inside.1 inside.2 snapshot

/-- Up to the next snapshot position there is one more. -/
theorem Next.snapshots (next : Next text floor index) (from_start : start ≤ floor) :
    text.snapshots start (index + 1) = text.snapshots start floor ++ [index] := by
  obtain ⟨above, snapshot, first⟩ := next
  have last : text.snapshots index (index + 1) = [index] := by
    rw [RecordString.snapshots, Nat.add_sub_cancel_left, List.range'_one, List.filter_singleton,
      decide_eq_true snapshot]
    rfl
  rw [snapshots_append from_start (Nat.le_succ_of_le above),
    snapshots_append above (Nat.le_succ index), snapshots_eq_nil first, last, List.nil_append]

end RecordString

end Fexma.SnapshotDemo
