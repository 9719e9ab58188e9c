import Fexma.Wal.SliderFrame
import Fexma.Wal.WalSafety

/-! The persistence stage under any schedule of its own: a composition may call it again behind
a failure, and then nothing moves any more. -/
namespace Fexma.Wal

open PhysicalWalAdapter (ReliableDevice)

section Persistence
variable {δ : Type} [Device δ] {config : WalConfig} {published : List (List UInt8)}
variable {view : Position → AccessResult} {upstream : Position} {adapter : PhysicalWalAdapter δ}
variable {slider : PersistenceSlider δ}

theorem PersistenceModule.append_failed {module : PersistenceModule δ} (failed : module.failed = true)
    (record : RecordView) : module.append record = (false, module) := by
  obtain ⟨physicalWal, running⟩ := module
  obtain rfl : running = true := failed
  unfold PersistenceModule.append
  cases physicalWal with
  | none => rfl
  | some adapter => simp only [Bool.or_true, if_true]

/-- A stage that has failed stays where it is. -/
theorem processAvailable_failed (failed : slider.module.failed = true)
    (shows_records : Shows view (stringRecords config.firstSequence published) slider.current.toNat)
    (inside : upstream.toNat ≤ published.length) :
    (slider.processAvailable view upstream).2 = slider := by
  by_cases backward : upstream < slider.current
  · unfold Slider.processAvailable
    by_cases apart : slider.own ≠ slider.current
    · rw [if_pos apart]
    · rw [if_neg apart, if_pos backward]
  have refuses (record : RecordView) :
      SliderModule.process slider.module record = (false, slider.module) :=
    PersistenceModule.append_failed failed record
  have turns : Slider.Turns view upstream (· = slider) (· = slider) := by
    constructor
    case seen =>
      rintro next rfl below
      have here : next.current.toNat < (stringRecords config.firstSequence published).length := by
        rw [length_stringRecords]
        exact Nat.lt_of_lt_of_le (UInt64.lt_iff_toNat_lt.mp below) inside
      exact congrArg AccessResult.status
        (shows_records next.current (Nat.le_refl _) _ (List.getElem?_eq_getElem here))
    case refused =>
      rintro next rfl - -
      rw [refuses]
    case turned =>
      rintro next rfl - accepted
      rw [refuses] at accepted
      cases accepted
    case stopped =>
      rintro next rfl - accepted
      rw [refuses] at accepted
      cases accepted
  have passes : Slider.Passes slider (· = slider) (· = slider) (· = slider)
      (slider.processAvailable view upstream) := by
    apply turns.passes (fun _ => rfl) (UInt64.not_lt.mp backward)
    · rintro next rfl forward
      exact absurd forward (UInt64.lt_irrefl _)
    · rintro next rfl forward
      exact absurd forward (UInt64.lt_irrefl _)
  generalize slider.processAvailable view upstream = answer at passes
  cases passes with
  | mismatch apart => rfl
  | empty => rfl
  | processed reached advance some_records => exact reached
  | stopped failed stops current => exact failed

/-- What any call of the stage comes to: its file grows, and its progress moves up to the
upstream at most. -/
theorem Stands.step (stands : Stands config published adapter slider)
    (shows_records : Shows view (stringRecords config.firstSequence published) slider.own.toNat)
    (behind : slider.own ≤ upstream) (inside : upstream.toNat ≤ published.length)
    (ahead : slider.own ≤ slider.current) :
    ∃ adapter', PhysicalWalAdapter.Grows adapter adapter' ∧
      Stands config published adapter' (slider.processAvailable view upstream).2 ∧
      slider.own ≤ (slider.processAvailable view upstream).2.own ∧
      (slider.processAvailable view upstream).2.own ≤ upstream ∧
      (slider.processAvailable view upstream).2.own ≤
        (slider.processAvailable view upstream).2.current := by
  cases running : slider.module.failed with
  | true =>
    have shows_later : Shows view (stringRecords config.firstSequence published)
        slider.current.toNat := fun position above =>
      shows_records position (Nat.le_trans (UInt64.le_iff_toNat_le.mp ahead) above)
    rw [processAvailable_failed running shows_later inside]
    exact ⟨adapter, .refl adapter, stands, UInt64.le_refl _, behind, ahead⟩
  | false =>
    have own := stands.running running
    have moved := (@Slider.processAvailable_between _ _ _ _ _ _ slider view upstream
      (own ▸ behind)).1
    obtain ⟨adapter', grows, stands', ⟨-, running', within, -, count⟩ | ⟨-, -, kept⟩⟩ :=
      stands.processAvailable running shows_records behind inside
    · refine ⟨adapter', grows, stands', ?_, within, ?_⟩
      · rw [UInt64.le_iff_toNat_le, count]
        exact Nat.le_add_right _ _
      · rw [stands'.running running']
        exact UInt64.le_refl _
    · refine ⟨adapter', grows, stands', ?_, ?_, ?_⟩
      · rw [kept]
        exact UInt64.le_refl _
      · rw [kept]
        exact behind
      · rw [kept, own]
        exact moved

/-- A call that wants a record and does not fail makes records durable. -/
theorem Stands.processAvailable_moves (stands : Stands config published adapter slider)
    (shows_records : Shows view (stringRecords config.firstSequence published) slider.own.toNat)
    (moves : Moves slider.acquirePolicy) (below : slider.own < upstream)
    (inside : upstream.toNat ≤ published.length)
    (served : (slider.processAvailable view upstream).2.module.failed = false) :
    slider.own < (slider.processAvailable view upstream).2.own := by
  have behind := UInt64.le_of_lt below
  have running : slider.module.failed = false := by
    cases running : slider.module.failed with
    | false => rfl
    | true =>
      by_cases passed : slider.own = slider.current
      · rw [processAvailable_failed running (passed ▸ shows_records) inside] at served
        exact running.symm.trans served
      · unfold Slider.processAvailable at served
        rw [if_pos passed] at served
        exact running.symm.trans served
  have own := stands.running running
  obtain ⟨adapter', -, stands', ⟨fine, -⟩ | ⟨-, failed, -⟩⟩ :=
    stands.processAvailable running shows_records behind inside
  case inr =>
    rw [served] at failed
    cases failed
  rw [stands'.running served, own]
  rw [own] at below behind shows_records
  have here : slider.current.toNat < (stringRecords config.firstSequence published).length := by
    rw [length_stringRecords]
    exact Nat.lt_of_lt_of_le (UInt64.lt_iff_toNat_lt.mp below) inside
  have seen := congrArg AccessResult.status
    (shows_records slider.current (Nat.le_refl _) _ (List.getElem?_eq_getElem here))
  refine Slider.processAvailable_moves own behind (moves _ _ below) seen ?_
  -- a record that is refused would have shown in the answer
  by_contra refused
  have stops := (Slider.processAvailable_stuck own behind
    (.inr (Bool.eq_false_iff.mpr refused))).2 (moves _ _ below)
  rw [SliderResult.ok] at fine
  rcases stops with status | status
  · rw [status] at fine
    cases fine
  · rw [status] at fine
    cases fine

end Persistence

/-! ### A device that serves every call -/

section Reliable
variable {config : WalConfig} {published : List (List UInt8)} {durable current : ℕ}
variable {adapter : PhysicalWalAdapter ReliableDevice} {module : PersistenceModule ReliableDevice}
variable {record : RecordView} {view : Position → AccessResult} {upstream : Position}
variable {slider : PersistenceSlider ReliableDevice}

/-- An append that the file has room for goes well. -/
theorem PhysicalWalAdapter.appendRecord_served {sequence : UInt64} {payload : List UInt8}
    (opened : adapter.isOpen = true) (size : payload.length = adapter.config.payloadSize.toNat)
    (room : adapter.file.bytes.length + (recordFrame adapter.config sequence payload).length ≤
      maxFileSize) : (adapter.appendRecord sequence payload).1 = true := by
  have served := @appendRecords_served sequence [payload] adapter opened
    (fun other member => List.mem_singleton.mp member ▸ size)
    (by simpa [recordFrames] using room)
  rw [appendRecords, andThen] at served
  by_contra refused
  rw [if_neg refused] at served
  cases served

/-- A module that stores a string whose log fits a file appends its next record. -/
theorem PersistenceModule.Stores.append_served
    (stores : module.Stores config published durable current adapter)
    (running : module.failed = false) (here : published[current]? = some record.payload)
    (sequence : record.sequence = config.firstSequence + .ofNat current)
    (size : record.payload.length = config.payloadSize.toNat)
    (room : (fileImage config published).length ≤ maxFileSize) : (module.append record).1 = true := by
  have next := @fileImage_take_succ config published record.payload current here
  have within : (fileImage config (published.take (current + 1))).length ≤
      (fileImage config published).length := by
    have rest : fileImage config (published.take (current + 1)) <+:
        fileImage config (published.take (current + 1) ++ published.drop (current + 1)) :=
      fileImage_prefix
    rw [List.take_append_drop] at rest
    exact rest.length_le
  have done : (adapter.appendRecord record.sequence record.payload).1 = true := by
    refine PhysicalWalAdapter.appendRecord_served stores.isOpen (stores.configured ▸ size) ?_
    rw [stores.configured, stores.whole running, sequence, ← List.length_append, ← next]
    exact Nat.le_trans within room
  unfold PersistenceModule.append
  rw [stores.held]
  dsimp only
  rw [if_neg (by simp [stores.isOpen, running])]
  revert done
  cases adapter.appendRecord record.sequence record.payload with
  | mk ok adapter' =>
    rintro rfl
    rfl

theorem PersistenceModule.Stores.sync_served
    (stores : module.Stores config published durable current adapter)
    (running : module.failed = false) : module.sync.1 = true := by
  unfold PersistenceModule.sync PhysicalWalAdapter.sync
  rw [stores.held]
  dsimp only
  rw [if_neg (by simp [stores.isOpen, running]), if_neg (by simp [stores.isOpen])]
  rfl

/-- Over a string whose log fits a file the stage never fails. -/
theorem Stands.processAvailable_served (stands : Stands config published adapter slider)
    (running : slider.module.failed = false)
    (shows_records : Shows view (stringRecords config.firstSequence published) slider.own.toNat)
    (behind : slider.own ≤ upstream) (inside : upstream.toNat ≤ published.length)
    (sizes : ∀ payload ∈ published, payload.length = config.payloadSize.toNat)
    (room : (fileImage config published).length ≤ maxFileSize) :
    (slider.processAvailable view upstream).2.module.failed = false := by
  have own := stands.running running
  have stores := stands.stores
  rw [own] at stores
  have start : InBatch config published slider.own adapter slider :=
    ⟨rfl, running, own ▸ UInt64.le_refl _, adapter, .refl adapter, own ▸ stores⟩
  have batch := @batch_turns _ _ _ _ _ adapter _ _ shows_records inside
  have turns : Slider.Turns view upstream (InBatch config published slider.own adapter)
      fun _ => False := by
    refine ⟨batch.seen, ?_, batch.turned, ?_⟩
    · intro next stored below refused
      obtain ⟨middle, -, stores'⟩ := stored.stores
      have here := Nat.lt_of_lt_of_le (UInt64.lt_iff_toNat_lt.mp below) inside
      have record : (stringRecords config.firstSequence published)[next.current.toNat]? =
          some ⟨.ofNat next.current.toNat, config.firstSequence + .ofNat next.current.toNat,
            published[next.current.toNat]⟩ := by
        rw [stringRecords, List.getElem?_mapIdx, List.getElem?_eq_getElem here]
        rfl
      have seen := shows_records next.current (UInt64.le_iff_toNat_le.mp stored.ahead) _ record
      have payload : published[next.current.toNat]? =
          some (view next.current).record.payload := by
        rw [seen, List.getElem?_eq_getElem here]
      have sequence : (view next.current).record.sequence =
          config.firstSequence + .ofNat next.current.toNat := by rw [seen]
      have taken := stores'.append_served stored.running payload sequence
        (sizes _ (List.mem_of_getElem? payload)) room
      exact Bool.false_ne_true (refused.symm.trans taken)
    · intro next stored below accepted unsettled
      rw [settleProcess_batch] at unsettled
      cases unsettled
  have passes : Slider.Passes slider (InBatch config published slider.own adapter) (fun _ => False)
      (fun _ => True) (slider.processAvailable view upstream) := by
    refine turns.passes (fun _ => start) (own ▸ behind) (fun _ _ _ _ _ => trivial) ?_
    intro next stored forward below unsynced
    obtain ⟨middle, -, stores'⟩ := stored.stores
    have kept : next.own ≤ next.current := stored.kept ▸ stored.ahead
    rw [settleRange_synced (UInt64.ne_of_lt forward) kept (stores'.sync_served stored.running)]
      at unsynced
    cases unsynced
  obtain ⟨adapter', -, -, ⟨-, running', -⟩ | ⟨failed, -⟩⟩ :=
    stands.processAvailable running shows_records behind inside
  · exact running'
  · generalize slider.processAvailable view upstream = answer at passes failed
    cases passes with
    | mismatch apart => exact absurd own apart
    | empty => cases failed
    | processed => cases failed
    | stopped impossible => exact impossible.elim

end Reliable

end Fexma.Wal
