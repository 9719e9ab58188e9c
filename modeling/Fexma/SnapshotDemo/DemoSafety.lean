import Fexma.SnapshotDemo.DemoTract

/-! Safety of the complete tract under any schedule: the frontiers stay in order, every stage
has what a continuous run would have, and no stage is ever ahead of what is on disk. -/
namespace Fexma.SnapshotDemo

open Wal RecordString WalFacade
open Wal.PhysicalWalAdapter (ReliableDevice)

/-- The records that a module sees of the accepted payloads. -/
def storedRecords (config : WalConfig) (published : List (List UInt8)) : List StoredRecord :=
  (stringRecords config.firstSequence published).map fun record =>
    ⟨record.sequence, record.payload⟩

section Text
variable {config : WalConfig} {published more : List (List UInt8)} {payload : List UInt8}
variable {text : RecordString}

theorem length_storedRecords : (storedRecords config published).length = published.length := by
  rw [storedRecords, List.length_map, length_stringRecords]

theorem getElem?_storedRecords {index : ℕ} : (storedRecords config published)[index]? =
    published[index]?.map fun payload => ⟨config.firstSequence + .ofNat index, payload⟩ := by
  rw [storedRecords, stringRecords, List.getElem?_map, List.getElem?_mapIdx, Option.map_map]
  rfl

theorem storedRecords_append :
    ∀ index < published.length, (storedRecords config (published ++ more))[index]? =
      (storedRecords config published)[index]? := by
  intro index below
  rw [getElem?_storedRecords, getElem?_storedRecords, List.getElem?_append_left below]

/-- Admissible payloads are the records of a record string. -/
theorem exists_text (fits : published.length < 2 ^ 64)
    (admissible : ∀ index payload, published[index]? = some payload → Admissible index payload) :
    ∃ text : RecordString, text.records = storedRecords config published := by
  have decoded : ∀ index record, (storedRecords config published)[index]? = some record →
      Admissible index record.payload := by
    intro index record here
    rw [getElem?_storedRecords, Option.map_eq_some_iff] at here
    obtain ⟨payload, there, rfl⟩ := here
    exact admissible index payload there
  refine ⟨{ records := storedRecords config published, fits := ?_, decoded := ?_, generations := ?_ },
    rfl⟩
  · rwa [length_storedRecords]
  · intro record member
    obtain ⟨index, here⟩ := List.getElem?_of_mem member
    exact (decoded index record here).1
  · intro index record here
    exact (decoded index record here).2

/-- The payloads of a record string are admissible. -/
theorem admissible_of_text (records : text.records = storedRecords config published) {index : ℕ}
    (here : published[index]? = some payload) : Admissible index payload := by
  have found : text.records[index]? = some ⟨config.firstSequence + .ofNat index, payload⟩ := by
    rw [records, getElem?_storedRecords, here]
    rfl
  exact ⟨text.decoded _ (List.mem_of_getElem? found), text.generations index _ found⟩

/-- A string of fewer payloads is a beginning. -/
theorem alike_of_take {text' : RecordString} {count : ℕ}
    (records : text.records = storedRecords config published)
    (records' : text'.records = storedRecords config (published.take count))
    (inside : count ≤ published.length) : text.Alike text' count := by
  constructor
  case inside =>
    rw [RecordString.length, records, length_storedRecords]
    exact inside
  case inside' =>
    rw [RecordString.length, records', length_storedRecords, List.length_take_of_le inside]
  case records =>
    intro index below
    have same := @storedRecords_append config (published.take count) (published.drop count) index
      (by rwa [List.length_take_of_le inside])
    rw [List.take_append_drop] at same
    rw [records, records', same]

end Text

section Stage
variable {β α : Type} [Participant β] [SliderAcquirePolicy α] [LawfulAcquire α]
variable {text : RecordString} {floor : ℕ} {upstream : Position} {stage : Stage β α}
variable {view : Position → AccessResult}

/-- What a call of a standing stage comes to, whatever its policy: it stands further on, it is
still behind its upstream, it holds what it held, and it stops only at an occupied slot. -/
structure Stepped (text : RecordString) (floor : ℕ) (upstream : Position) (stage : Stage β α)
    (answer : SliderResult × Stage β α) : Prop where
  standing : Standing text floor answer.2
  forward : stage.own ≤ answer.2.own
  within : answer.2.own ≤ upstream
  kept : ∀ capture, stage.module.capture = some capture → answer.2.module.capture = some capture
  stops : answer.1.ok ∨ AtOccupied text answer.2

theorem Standing.step (standing : Standing text floor stage) (policy : α)
    (behind : stage.own ≤ upstream) (within : upstream.toNat ≤ text.length)
    (alike : Slider.ShowAlike view text.view stage.own upstream) :
    Stepped text floor upstream stage ((stage.under policy).processAvailable view upstream) := by
  have stands : Standing text floor (stage.under policy) :=
    ⟨standing.state, standing.published, standing.inside, standing.reached, standing.slot⟩
  rw [standing.published] at alike behind
  have same : (stage.under policy).processAvailable view upstream =
      (stage.under policy).processAvailable text.view upstream :=
    Slider.processAvailable_congr alike
  have between := @Slider.processAvailable_between _ _ _ _ _ _ (stage.under policy) text.view
    upstream behind
  obtain ⟨⟨stands', -⟩, -, stops⟩ := stands.processAvailable within
  rw [same]
  refine ⟨stands', ?_, ?_, fun capture full => stands.capture_kept within full, ?_⟩
  · rw [standing.published, stands'.published]
    exact between.1
  · rw [stands'.published]
    exact between.2.1
  · rcases stops with fine | ⟨backward, -⟩ | refused
    · exact .inl fine
    · exact absurd behind (UInt64.not_le.mpr backward)
    · exact .inr ⟨refused.snapshot, refused.occupied⟩

end Stage

namespace DemoTract

variable {δ α α' : Type} {config : WalConfig} {text : RecordString} {tract : DemoTract δ α α'}

/-- The ring and the file hold the published string, and the stages stand behind one another
over it. -/
structure Sound (config : WalConfig) (text : RecordString) (tract : DemoTract δ α α') : Prop where
  holds : tract.source.Holds tract.published
  isOpen : tract.source.isOpen = true
  runtime : tract.source.config = runtimeConfig config
  records : text.records = storedRecords config tract.published
  stands : ∃ adapter, Stands (stored config) tract.published adapter tract.persistenceSlider
  ahead : tract.durable ≤ tract.persistenceSlider.current
  durable_le : tract.durable ≤ tract.source.head
  hash_le : tract.composition.hash.own ≤ tract.durable
  bits_le : tract.composition.bits.own ≤ tract.composition.hash.own
  tail_le : tract.source.tail ≤ tract.composition.bits.own
  consistent : ∃ floor, Consistent text 0 floor tract.composition

theorem Sound.length (sound : Sound config text tract) : text.length = tract.published.length := by
  rw [RecordString.length, sound.records, length_storedRecords]

theorem Sound.head (sound : Sound config text tract) : tract.source.head.toNat = text.length := by
  rw [sound.length]
  exact sound.holds.head

theorem Sound.hash_current (sound : Sound config text tract) :
    tract.composition.hash.own = tract.composition.hash.current := by
  obtain ⟨floor, consistent⟩ := sound.consistent
  exact consistent.hash.published

theorem Sound.bits_current (sound : Sound config text tract) :
    tract.composition.bits.own = tract.composition.bits.current := by
  obtain ⟨floor, consistent⟩ := sound.consistent
  exact consistent.bits.published

/-- Between the tail and the head the ring shows the records of the string. -/
theorem Sound.alike (sound : Sound config text tract) {first last : Position}
    (above : tract.source.tail ≤ first) (below : last ≤ tract.source.head) :
    Slider.ShowAlike tract.source.tryView text.view first last := by
  intro position from_first to_last
  have live := UInt64.le_iff_toNat_le.mp (UInt64.le_trans above from_first)
  have behind := UInt64.lt_iff_toNat_lt.mp (UInt64.lt_of_lt_of_le to_last below)
  rw [sound.holds.head] at behind
  have here := List.getElem?_eq_getElem behind
  have first : tract.source.config.firstSequence = config.firstSequence := by
    rw [sound.runtime]
    rfl
  have found : text.records[position.toNat]? =
      some ⟨config.firstSequence + position, tract.published[position.toNat]⟩ := by
    rw [sound.records, getElem?_storedRecords, here, UInt64.ofNat_toNat]
    rfl
  rw [sound.holds.tryView_live sound.isOpen live here, first]
  unfold RecordString.view
  rw [found]

theorem Sound.shows (sound : Sound config text tract) : Shows tract.source.tryView
    (stringRecords (stored config).firstSequence tract.published) tract.durable.toNat := by
  have seen := sound.holds.shows sound.isOpen
  rw [sound.runtime] at seen
  have behind := UInt64.le_trans sound.tail_le (UInt64.le_trans sound.bits_le sound.hash_le)
  exact fun position above => seen position (Nat.le_trans (UInt64.le_iff_toNat_le.mp behind) above)

/-! ### One step -/

/-- An accepted payload goes behind everything. -/
theorem Sound.tryPublish (sound : Sound config text tract) {payload : List UInt8}
    (admissible : Admissible tract.published.length payload) :
    ∃ text', Sound config text' (tract.tryPublish payload).2 := by
  unfold DemoTract.tryPublish
  dsimp only
  rcases WalCore.tryPublish_cases tract.source payload with
    ⟨status, exhausted, refused, answer⟩ | ⟨opened, size, room, more, answer⟩
  · rw [answer]
    dsimp only
    rw [if_neg refused]
    exact ⟨text, { sound with holds := sound.holds.exhausted exhausted }⟩
  · rw [answer]
    dsimp only
    rw [if_pos rfl]
    have holds := sound.holds.push size room more
    have fits : (tract.published ++ [payload]).length < 2 ^ 64 := by
      rw [← holds.head]
      exact (tract.source.push payload).head.toNat_lt
    obtain ⟨text', records⟩ := @exists_text config (tract.published ++ [payload]) fits (by
      intro index other here
      rcases Nat.lt_or_ge index tract.published.length with below | above
      · rw [List.getElem?_append_left below] at here
        exact admissible_of_text sound.records here
      · rw [List.getElem?_append_right above, List.getElem?_singleton] at here
        split_ifs at here with last
        cases here
        obtain rfl : index = tract.published.length := by omega
        exact admissible)
    have grown : tract.source.head ≤ (tract.source.push payload).head := by
      rw [UInt64.le_iff_toNat_le, sound.holds.head, holds.head, List.length_append]
      exact Nat.le_add_right _ _
    have alike : text.Alike text' text.length := by
      refine ⟨Nat.le_refl _, ?_, fun index below => ?_⟩
      · rw [sound.length, RecordString.length, records, length_storedRecords, List.length_append]
        exact Nat.le_add_right _ _
      · rw [sound.length] at below
        rw [records, sound.records, storedRecords_append index below]
    obtain ⟨adapter, stands⟩ := sound.stands
    obtain ⟨floor, consistent⟩ := sound.consistent
    have durable : tract.durable.toNat ≤ tract.published.length := by
      rw [← sound.holds.head]
      exact UInt64.le_iff_toNat_le.mp sound.durable_le
    refine ⟨text', holds, sound.isOpen, sound.runtime, records,
      ⟨adapter, stands.stores.publish durable stands.inside, ?_, stands.running⟩, sound.ahead,
      UInt64.le_trans sound.durable_le grown, sound.hash_le, sound.bits_le, sound.tail_le,
      ⟨floor, consistent.over alike consistent.hash.inside consistent.bits.inside⟩⟩
    rw [List.length_append]
    exact Nat.le_trans stands.inside (Nat.le_add_right _ _)

section Steps
variable [Device δ]

/-- A call of the persistence stage, and what its file has passed on the way. -/
theorem Sound.persistenceStep (sound : Sound config text tract) (maximumCount : UInt64) :
    Sound config text (tract.persistenceStep maximumCount).2 ∧
      tract.durable ≤ (tract.persistenceStep maximumCount).2.durable ∧
      ∃ adapter adapter', tract.persistence.physicalWal = some adapter ∧
        (tract.persistenceStep maximumCount).2.persistence.physicalWal = some adapter' ∧
        PhysicalWalAdapter.Grows adapter adapter' ∧
        adapter'.file.bytes <+: fileImage config tract.published ∧
        (fileImage config (tract.published.take tract.durable.toNat)).length ≤ adapter.synced := by
  obtain ⟨adapter, stands⟩ := sound.stands
  have inside : tract.source.head.toNat ≤ tract.published.length := Nat.le_of_eq sound.holds.head
  have bounded : Stands (stored config) tract.published adapter
      (tract.persistenceSlider.under ⟨maximumCount⟩) :=
    ⟨stands.stores, stands.inside, stands.running⟩
  obtain ⟨adapter', grows, stands', above, within, ahead⟩ :=
    bounded.step sound.shows sound.durable_le inside sound.ahead
  refine ⟨{ sound with
    stands := ⟨adapter', stands'⟩
    ahead := ahead
    durable_le := within
    hash_le := UInt64.le_trans sound.hash_le above }, above, adapter, adapter', stands.stores.held,
    stands'.stores.held, grows, ?_, ?_⟩
  · rw [← fileImage_stored]
    exact stands'.stores.within
  · rw [← fileImage_stored]
    exact stands.stores.covered

end Steps

section Stages
variable [SliderAcquirePolicy α] [SliderAcquirePolicy α'] [LawfulAcquire α] [LawfulAcquire α']

omit [SliderAcquirePolicy α'] [LawfulAcquire α'] in
theorem Sound.hashStep (sound : Sound config text tract) (policy : α) :
    Sound config text (tract.hashStep policy).2 ∧
      tract.composition.hash.own ≤ (tract.hashStep policy).2.composition.hash.own ∧
      ((tract.hashStep policy).1.ok ∨
        AtOccupied text (tract.hashStep policy).2.composition.hash) := by
  obtain ⟨floor, consistent⟩ := sound.consistent
  have stepped := consistent.hash.step policy sound.hash_le
    (sound.head ▸ UInt64.le_iff_toNat_le.mp sound.durable_le)
    (sound.alike (UInt64.le_trans sound.tail_le sound.bits_le) sound.durable_le)
  refine ⟨{ sound with
    hash_le := stepped.within
    bits_le := UInt64.le_trans sound.bits_le stepped.forward
    consistent := ⟨floor, { consistent with hash := stepped.standing, pending := ?_ }⟩ },
    stepped.forward, stepped.stops⟩
  intro generation pending
  obtain ⟨index, next, same, hash_full, bits_full, collected⟩ := consistent.pending generation pending
  exact ⟨index, next, same, stepped.kept _ hash_full, bits_full, collected⟩

omit [SliderAcquirePolicy α] [LawfulAcquire α] in
theorem Sound.bitStep (sound : Sound config text tract) (policy : α') :
    Sound config text (tract.bitStep policy).2 ∧
      tract.composition.bits.own ≤ (tract.bitStep policy).2.composition.bits.own ∧
      ((tract.bitStep policy).1.ok ∨
        AtOccupied text (tract.bitStep policy).2.composition.bits) := by
  obtain ⟨floor, consistent⟩ := sound.consistent
  have below := UInt64.le_trans sound.hash_le sound.durable_le
  have stepped := consistent.bits.step policy sound.bits_le
    (sound.head ▸ UInt64.le_iff_toNat_le.mp below) (sound.alike sound.tail_le below)
  refine ⟨{ sound with
    bits_le := stepped.within
    tail_le := UInt64.le_trans sound.tail_le stepped.forward
    consistent := ⟨floor, { consistent with bits := stepped.standing, pending := ?_ }⟩ },
    stepped.forward, stepped.stops⟩
  intro generation pending
  obtain ⟨index, next, same, hash_full, bits_full, collected⟩ := consistent.pending generation pending
  exact ⟨index, next, same, hash_full, stepped.kept _ bits_full, collected⟩

/-- What the coordinator does moves no stage. -/
theorem Sound.recompose (sound : Sound config text tract) (action : Action)
    (within : action.Within text)
    (hash_own : (SnapshotDemo.perform text tract.composition action).hash.own =
      tract.composition.hash.own)
    (bits_own : (SnapshotDemo.perform text tract.composition action).bits.own =
      tract.composition.bits.own) :
    Sound config text
      { tract with composition := SnapshotDemo.perform text tract.composition action } := by
  obtain ⟨floor, consistent⟩ := sound.consistent
  obtain ⟨floor', -, consistent'⟩ := consistent.step within
  exact { sound with
    hash_le := hash_own ▸ sound.hash_le
    bits_le := by
      rw [hash_own, bits_own]
      exact sound.bits_le
    tail_le := by
      rw [bits_own]
      exact sound.tail_le
    consistent := ⟨floor', consistent'⟩ }

end Stages

/-- The tail moves up to the last stage. -/
theorem Sound.reclaim (sound : Sound config text tract) :
    tract.source.reclaim tract.composition.bits.own =
        (.ok, { tract.source with tail := tract.composition.bits.own }) ∧
      Sound config text tract.reclaim.2 := by
  have below := UInt64.le_trans sound.bits_le (UInt64.le_trans sound.hash_le sound.durable_le)
  rw [UInt64.le_iff_toNat_le, sound.holds.head] at below
  obtain ⟨answer, holds⟩ := sound.holds.reclaim sound.isOpen
    (UInt64.le_iff_toNat_le.mp sound.tail_le) below
  refine ⟨answer, ?_⟩
  unfold DemoTract.reclaim
  rw [answer]
  exact { sound with holds := holds, tail_le := UInt64.le_refl _ }

/-! ### Runs -/

variable [Device δ] [SliderAcquirePolicy α] [SliderAcquirePolicy α']
variable [LawfulAcquire α] [LawfulAcquire α']

theorem Sound.perform (sound : Sound config text tract) {action : DemoAction α α'}
    (permitted : tract.Permits action) : ∃ text', Sound config text' (tract.perform action) := by
  cases action with
  | tryPublish payload => exact sound.tryPublish permitted
  | persistenceStep maximumCount => exact ⟨text, (sound.persistenceStep maximumCount).1⟩
  | hashStep policy => exact ⟨text, (sound.hashStep policy).1⟩
  | bitStep policy => exact ⟨text, (sound.bitStep policy).1⟩
  | collect => exact ⟨text, sound.recompose .collect trivial rfl rfl⟩
  | release generationId =>
    exact ⟨text, sound.recompose (.release generationId) trivial rfl rfl⟩
  | saveAndRelease saved =>
    rcases tract.composition.saveAndRelease_cases (fun _ => saved) with kept | ⟨generationId, same⟩
    · refine ⟨text, ?_⟩
      change Sound config text
        { tract with composition := (tract.composition.saveAndRelease fun _ => saved).2 }
      rw [kept]
      exact sound
    · refine ⟨text, ?_⟩
      change Sound config text
        { tract with composition := (tract.composition.saveAndRelease fun _ => saved).2 }
      rw [same]
      exact sound.recompose (.release generationId) trivial rfl rfl
  | reclaim => exact ⟨text, sound.reclaim.2⟩

/-- The ring and the file check the two parts of a configuration. -/
theorem valid_of_parts (runtime : validRuntimeConfig (runtimeConfig config) = true)
    (physical : validConfig (PersistenceModule.adapterConfig (physicalConfig config)) = true) :
    Valid config := by
  have parts := validConfig_iff.mp physical
  unfold validRuntimeConfig at runtime
  split_ifs at runtime with basic
  simp only [Bool.or_eq_true, decide_eq_true_eq, not_or] at basic
  exact ⟨parts.payloadSize, basic.1.1.1.2, parts.alignment, parts.firstSequence, parts.streamKind,
    parts.named, parts.power, parts.offset, runtime⟩

omit [SliderAcquirePolicy α] [SliderAcquirePolicy α'] [LawfulAcquire α] [LawfulAcquire α'] in
/-- A tract that has just been created is sound over the empty string. -/
theorem Sound.start {answers : OpenAnswers δ} {rule : α} {rule' : α'}
    (created : create config answers rule rule' = some tract) :
    ∃ text, Sound config text tract ∧ Valid config := by
  unfold create at created
  dsimp only at created
  split_ifs at created with refused
  simp only [Bool.or_eq_true, decide_eq_true_eq, not_or, ne_eq, not_not] at refused
  obtain ⟨opened, file⟩ := refused
  cases created
  obtain ⟨holds, configured, isOpen, tail, -⟩ := WalCore.open_cases opened
  obtain ⟨running, adapter, stores⟩ := PersistenceModule.open_stores file
  obtain ⟨text, records⟩ := @exists_text config [] (Nat.zero_lt_of_lt (Nat.lt_two_pow_self))
    (fun _ _ here => by cases here)
  refine ⟨text, ⟨holds, isOpen, configured, records, ⟨adapter, stores, Nat.zero_le _, fun _ => rfl⟩,
    UInt64.le_refl _, ?_, UInt64.le_refl _, UInt64.le_refl _, ?_, ⟨0, .initial rule rule'⟩⟩, ?_⟩
  · exact UInt64.zero_le
  · rw [tail]
    exact UInt64.le_refl _
  · apply valid_of_parts
    · cases valid : validRuntimeConfig (runtimeConfig config) with
      | true => rfl
      | false => simp [WalCore.open_, valid] at opened
    · cases valid : validConfig (PersistenceModule.adapterConfig (physicalConfig config)) with
      | true => rfl
      | false => simp [PersistenceModule.open_, PersistenceModule.isOpen, valid] at file

omit [SliderAcquirePolicy α] [SliderAcquirePolicy α'] [LawfulAcquire α] [LawfulAcquire α'] in
/-- A tract that has just been created has published nothing, and nothing has failed. -/
theorem create_fresh {answers : OpenAnswers δ} {rule : α} {rule' : α'}
    (created : create config answers rule rule' = some tract) :
    tract.published = [] ∧ tract.source.sequenceExhausted = false ∧
      tract.persistence.failed = false := by
  unfold create at created
  dsimp only at created
  split_ifs at created with refused
  simp only [Bool.or_eq_true, decide_eq_true_eq, not_or, ne_eq, not_not] at refused
  cases created
  obtain ⟨-, -, -, -, numbered⟩ := WalCore.open_cases refused.1
  exact ⟨rfl, numbered, (PersistenceModule.open_stores refused.2).1⟩

theorem Reaches.sound {start : DemoTract δ α α'} (reached : Reaches start tract)
    (begins : Sound config text start) : ∃ text', Sound config text' tract := by
  induction reached with
  | start => exact ⟨text, begins⟩
  | step reached action permitted ih =>
    obtain ⟨text', sound⟩ := ih
    exact sound.perform permitted

/-! ### What is promised -/

/-- Nothing moves back and nothing that was published or collected is lost. -/
structure Forward (before after : DemoTract δ α α') : Prop where
  tail : before.source.tail ≤ after.source.tail
  bits : before.composition.bits.own ≤ after.composition.bits.own
  hash : before.composition.hash.own ≤ after.composition.hash.own
  durable : before.durable ≤ after.durable
  head : before.source.head ≤ after.source.head
  published : before.published <+: after.published
  collected : before.composition.collected <+: after.composition.collected

omit [Device δ] [SliderAcquirePolicy α] [SliderAcquirePolicy α'] [LawfulAcquire α]
  [LawfulAcquire α'] in
theorem Forward.refl (tract : DemoTract δ α α') : Forward tract tract :=
  ⟨UInt64.le_refl _, UInt64.le_refl _, UInt64.le_refl _, UInt64.le_refl _, UInt64.le_refl _,
    List.prefix_refl _, List.prefix_refl _⟩

omit [Device δ] [SliderAcquirePolicy α] [SliderAcquirePolicy α'] [LawfulAcquire α]
  [LawfulAcquire α'] in
/-- A new composition with the same stage frontiers. -/
theorem Forward.recompose {composition : Composition α α'}
    (hash : composition.hash.own = tract.composition.hash.own)
    (bits : composition.bits.own = tract.composition.bits.own)
    (collected : tract.composition.collected <+: composition.collected) :
    Forward tract { tract with composition } :=
  { Forward.refl tract with
    bits := UInt64.le_of_eq bits.symm
    hash := UInt64.le_of_eq hash.symm
    collected }

theorem Sound.forward (sound : Sound config text tract) (action : DemoAction α α') :
    Forward tract (tract.perform action) := by
  have same := Forward.refl tract
  cases action with
  | tryPublish payload =>
    change Forward tract (tract.tryPublish payload).2
    unfold DemoTract.tryPublish
    dsimp only
    rcases WalCore.tryPublish_cases tract.source payload with
      ⟨status, exhausted, refused, answer⟩ | ⟨opened, size, room, more, answer⟩
    · rw [answer]
      dsimp only
      rw [if_neg refused]
      exact { same with }
    · rw [answer]
      dsimp only
      rw [if_pos rfl]
      have holds := sound.holds.push size room more
      refine { same with head := ?_, published := List.prefix_append _ _ }
      rw [UInt64.le_iff_toNat_le, sound.holds.head, holds.head, List.length_append]
      exact Nat.le_add_right _ _
  | persistenceStep maximumCount =>
    exact { same with durable := (sound.persistenceStep maximumCount).2.1 }
  | hashStep policy => exact { same with hash := (sound.hashStep policy).2.1 }
  | bitStep policy => exact { same with bits := (sound.bitStep policy).2.1 }
  | collect =>
    refine Forward.recompose rfl rfl ?_
    change _ <+: (if _ then _ else _)
    split_ifs
    · exact List.prefix_append _ _
    · exact List.prefix_refl _
  | release generationId => exact Forward.recompose rfl rfl (List.prefix_refl _)
  | saveAndRelease saved =>
    change Forward tract
      { tract with composition := (tract.composition.saveAndRelease fun _ => saved).2 }
    rcases tract.composition.saveAndRelease_cases (fun _ => saved) with kept | ⟨generationId, released⟩
    · rw [kept]
      exact same
    · rw [released]
      exact Forward.recompose rfl rfl (List.prefix_refl _)
  | reclaim =>
    obtain ⟨answer, -⟩ := sound.reclaim
    change Forward tract tract.reclaim.2
    unfold DemoTract.reclaim
    rw [answer]
    exact { same with tail := sound.tail_le }

/-- What is promised of a tract. -/
structure Safe (config : WalConfig) (tract : DemoTract δ α α') : Prop where
  ordered : tract.source.tail ≤ tract.composition.bits.own ∧
    tract.composition.bits.own ≤ tract.composition.hash.own ∧
    tract.composition.hash.own ≤ tract.durable ∧ tract.durable ≤ tract.source.head
  window : tract.source.head.toNat ≤ tract.source.tail.toNat + config.capacity.toNat
  published : tract.source.head.toNat = tract.published.length
  string : ∃ text : RecordString, text.records = storedRecords config tract.published ∧
    tract.composition.hash.module.state =
      text.stateAfter HashChain tract.composition.hash.own.toNat ∧
    tract.composition.bits.module.state =
      text.stateAfter BitAccumulator tract.composition.bits.own.toNat ∧
    SoundGenerations text tract.composition ∧
    (∀ policy, (tract.hashStep policy).1.ok ∨
      AtOccupied text (tract.hashStep policy).2.composition.hash) ∧
    ∀ policy, (tract.bitStep policy).1.ok ∨
      AtOccupied text (tract.bitStep policy).2.composition.bits
  reclaims : tract.reclaim.1 = .ok
  forward : ∀ action, Forward tract (tract.perform action)

theorem Sound.safe (sound : Sound config text tract) : Safe config tract where
  ordered := ⟨sound.tail_le, sound.bits_le, sound.hash_le, sound.durable_le⟩
  window := by
    have window := sound.holds.window
    rw [sound.runtime, ← sound.holds.head] at window
    exact window
  published := sound.holds.head
  string := by
    obtain ⟨floor, consistent⟩ := sound.consistent
    refine ⟨text, sound.records, ?_, ?_, consistent.sound, fun policy => (sound.hashStep policy).2.2,
      fun policy => (sound.bitStep policy).2.2⟩
    · rw [sound.hash_current]
      exact consistent.hash.state
    · rw [sound.bits_current]
      exact consistent.bits.state
  reclaims := congrArg Prod.fst sound.reclaim.1
  forward := sound.forward

/-- Whatever the schedule and whatever the device answers: the frontiers of the stages stay in
order between the tail and the head, every module has the state of a continuous run behind its
frontier, a stage stops only at an occupied slot, the generations are those of the snapshot
records, and nothing moves back. -/
theorem demo_tract_safe {answers : OpenAnswers δ} {rule : α} {rule' : α'}
    {start : DemoTract δ α α'} (created : create config answers rule rule' = some start)
    (reached : Reaches start tract) : Safe config tract := by
  obtain ⟨text, begins, -⟩ := Sound.start created
  obtain ⟨text', sound⟩ := reached.sound begins
  exact sound.safe

/-- A ring of one slot for the records of the demo. -/
def demoConfig : WalConfig := { payloadSize := 64, capacity := 1, alignment := 8 }

/-- A tract opens on a device that serves every call. -/
theorem exists_create : ∃ start : DemoTract ReliableDevice AvailableRangeAcquire AvailableRangeAcquire,
    create demoConfig { device := .ready } .policy .policy = some start := by
  have valid : Valid (PersistenceModule.adapterConfig (physicalConfig demoConfig)) :=
    validConfig_iff.mp (by decide)
  have sizes : ∀ payload ∈ ([] : List (List UInt8)), payload.length =
      (PersistenceModule.adapterConfig (physicalConfig demoConfig)).payloadSize.toNat :=
    List.forall_mem_nil _
  have room : (fileImage (PersistenceModule.adapterConfig (physicalConfig demoConfig)) []).length ≤
      maxFileSize := by
    rw [length_fileImage valid sizes]
    decide
  have file := @PersistenceModule.open_created ReliableDevice {} _ (physicalConfig demoConfig)
    ReliableDevice.ready rfl (by decide)
    (PhysicalWalAdapter.create_of_writeLog (PhysicalWalAdapter.writeLog_served sizes room))
  have core : (WalCore.open_ {} (runtimeConfig demoConfig) true).1 = .ok := by decide
  unfold create
  dsimp only
  rw [if_neg]
  · exact ⟨_, rfl⟩
  · simp [core, file]

/-- A snapshot record goes through every stage, its generation is saved and its slot is let go. -/
def oneSnapshot : List (DemoAction AvailableRangeAcquire AvailableRangeAcquire) :=
  [.tryPublish (encodeSaveSnapshot 0).val, .persistenceStep 1, .hashStep .policy, .bitStep .policy,
    .collect, .saveAndRelease .ok, .reclaim]

/-- The run of one snapshot from a tract that has just been created. -/
theorem oneSnapshot_reaches {start : DemoTract ReliableDevice AvailableRangeAcquire
      AvailableRangeAcquire}
    (created : create demoConfig { device := .ready } .policy .policy = some start) :
    Reaches start (oneSnapshot.foldl perform start) := by
  have empty := (create_fresh created).1
  have admissible : Admissible start.published.length (encodeSaveSnapshot 0).val := by
    rw [empty]
    unfold Admissible
    rw [decodeRecord_encodeSaveSnapshot]
    exact ⟨rfl, fun _ => rfl⟩
  have here : Reaches start start := .start
  have published := here.step (.tryPublish (encodeSaveSnapshot 0).val)
    admissible
  have passed := ((published.step (.persistenceStep 1) trivial).step (.hashStep .policy) trivial).step
    (.bitStep .policy) trivial
  have saved := (passed.step .collect trivial).step (.saveAndRelease .ok) trivial
  exact saved.step .reclaim trivial

theorem demo_tract_safe_one_snapshot : ∃ start, create demoConfig { device := ReliableDevice.ready }
      AvailableRangeAcquire.policy AvailableRangeAcquire.policy = some start ∧
    Safe demoConfig (oneSnapshot.foldl perform start) := by
  obtain ⟨start, created⟩ := exists_create
  exact ⟨start, created, demo_tract_safe created (oneSnapshot_reaches created)⟩

end DemoTract

end Fexma.SnapshotDemo
