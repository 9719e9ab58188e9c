import Fexma.SnapshotDemo.Schedule

/-! What the first records of a string decide: a composition that has not gone beyond them
stands over any string that begins with them. -/
namespace Fexma.SnapshotDemo

open Wal RecordString

/-- Two record strings with the same first records. -/
structure RecordString.Alike (text text' : RecordString) (count : ℕ) : Prop where
  inside : count ≤ text.length
  inside' : count ≤ text'.length
  records : ∀ index < count, text'.records[index]? = text.records[index]?

section Alike
variable {text text' : RecordString} {count start stop floor index : ℕ}
variable {β α α' : Type} [Participant β]
variable (alike : text.Alike text' count)
include alike

omit [Participant β] in
theorem RecordString.Alike.symm : text'.Alike text count where
  inside := alike.inside'
  inside' := alike.inside
  records index below := (alike.records index below).symm

omit [Participant β] in
theorem RecordString.Alike.recordAt (below : index < count) :
    text'.recordAt index = text.recordAt index := by
  have fits : count < 2 ^ 64 := Nat.lt_of_le_of_lt alike.inside text.fits
  have number : (UInt64.ofNat index).toNat = index :=
    UInt64.toNat_ofNat_of_lt' (Nat.lt_trans below fits)
  have same := alike.records index below
  unfold RecordString.recordAt view
  rw [number, same]

omit [Participant β] in
theorem RecordString.Alike.isSnapshot (below : index < count) :
    text'.IsSnapshot index ↔ text.IsSnapshot index := by
  have inside := Nat.lt_of_lt_of_le below alike.inside
  have inside' := Nat.lt_of_lt_of_le below alike.inside'
  unfold IsSnapshot
  rw [alike.recordAt below]
  exact and_congr_left fun _ => ⟨fun _ => inside, fun _ => inside'⟩

variable (β) in
theorem RecordString.Alike.bodyAfter (within : stop ≤ count) :
    text'.bodyAfter β stop = text.bodyAfter β stop := by
  induction stop with
  | zero => rfl
  | succ stop ih =>
    rw [RecordString.bodyAfter, RecordString.bodyAfter, ih (Nat.le_of_succ_le within),
      alike.recordAt within]

variable (β) in
theorem RecordString.Alike.stateAfter (within : stop ≤ count) :
    text'.stateAfter β stop = text.stateAfter β stop := by
  rw [RecordString.stateAfter, alike.bodyAfter β within, RecordString.stateAfter]

variable (β) in
theorem RecordString.Alike.captureAt (below : index < count) :
    text'.captureAt β index = text.captureAt β index := by
  rw [RecordString.captureAt, alike.recordAt below, alike.stateAfter β below,
    RecordString.captureAt]

omit [Participant β] in
theorem RecordString.Alike.generationAt (below : index < count) :
    text'.generationAt index = text.generationAt index := by
  rw [RecordString.generationAt, alike.recordAt below, alike.captureAt HashChain below,
    alike.captureAt BitAccumulator below, RecordString.generationAt]

omit [Participant β] in
theorem RecordString.Alike.snapshots (within : stop ≤ count) :
    text'.snapshots start stop = text.snapshots start stop := by
  refine List.filter_congr fun index member => ?_
  have inside := List.mem_range'_1.mp member
  have below : index < count := by omega
  exact decide_eq_decide.mpr (alike.isSnapshot below)

omit [Participant β] in
theorem RecordString.Alike.generations (within : stop ≤ count) :
    (text'.snapshots start stop).map text'.generationAt =
      (text.snapshots start stop).map text.generationAt := by
  rw [alike.snapshots within]
  refine List.map_congr_left fun index member => ?_
  have inside := (mem_snapshots.mp member).1
  exact alike.generationAt (Nat.lt_of_lt_of_le inside.2 within)

omit [Participant β] in
theorem RecordString.Alike.next (below : index < count) (next : Next text floor index) :
    Next text' floor index where
  above := next.above
  snapshot := (alike.isSnapshot below).mpr next.snapshot
  first earlier above before := by
    rw [alike.isSnapshot (Nat.lt_trans before below)]
    exact next.first earlier above before

theorem Slot.over {current : ℕ} {slot : Option (Capture β)} (within : current ≤ count)
    (holds : Slot text floor current slot) : Slot text' floor current slot := by
  have clear {first : ℕ}
      (before : ∀ index, first ≤ index → index < current → ¬ text.IsSnapshot index)
      (index : ℕ) (above : first ≤ index) (below : index < current) : ¬ text'.IsSnapshot index := by
    rw [alike.isSnapshot (Nat.lt_of_lt_of_le below within)]
    exact before index above below
  cases holds with
  | free nothing => exact .free (clear nothing)
  | @full index next behind nothing =>
    have below := Nat.lt_of_lt_of_le behind within
    rw [← alike.captureAt β below]
    exact .full (alike.next below next) behind (clear nothing)

theorem Standing.over {stage : Stage β α} (within : stage.current.toNat ≤ count)
    (standing : Standing text floor stage) : Standing text' floor stage where
  state := by
    rw [alike.stateAfter β within]
    exact standing.state
  published := standing.published
  inside := Nat.le_trans within alike.inside'
  reached := standing.reached
  slot := standing.slot.over alike within

omit [Participant β] in
/-- A composition within the first records is consistent over both strings. -/
theorem Consistent.over {composition : Composition α α'}
    (hash_within : composition.hash.current.toNat ≤ count)
    (bits_within : composition.bits.current.toNat ≤ count)
    (consistent : Consistent text start floor composition) :
    Consistent text' start floor composition where
  hash := consistent.hash.over alike hash_within
  bits := consistent.bits.over alike bits_within
  from_start := consistent.from_start
  pending generation pending := by
    obtain ⟨index, next, same, hash_full, bits_full, collected⟩ :=
      consistent.pending generation pending
    have behind := (consistent.hash.slot.released hash_full next).2
    have below := Nat.lt_of_lt_of_le behind hash_within
    refine ⟨index, alike.next below next, ?_, ?_, ?_, ?_⟩
    · rw [alike.generationAt below]
      exact same
    · rw [alike.captureAt HashChain below]
      exact hash_full
    · rw [alike.captureAt BitAccumulator below]
      exact bits_full
    · rw [alike.generations below]
      exact collected
  idle free := by
    rw [alike.generations (Nat.le_trans consistent.hash.reached hash_within)]
    exact consistent.idle free

end Alike

end Fexma.SnapshotDemo
