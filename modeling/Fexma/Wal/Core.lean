import Fexma.Library.SlotRing
import Fexma.Wal.Config

/-! The bounded in-memory log string (`core.hpp`, `core.cpp`): a ring of payload blocks
between a tail and a head. -/
namespace Fexma.Wal

structure WalRuntimeConfig where
  payloadSize : UInt32 := 0
  capacity : UInt32 := 0
  alignment : UInt32 := defaultAlignment
  firstSequence : UInt64 := 1
  deriving DecidableEq, Repr

inductive ReclaimStatus where
  | ok
  | closed
  | invalidPosition
  deriving DecidableEq, Repr

def validRuntimeConfig (config : WalRuntimeConfig) : Bool :=
  if config.payloadSize = 0 || config.capacity = 0 || config.alignment < pointerAlignment ||
      config.firstSequence = 0 || config.alignment &&& (config.alignment - 1) ≠ 0 then false
  else ((checkedAlignUp config.payloadSize.toUInt64 config.alignment.toUInt64).bind
    fun stride => checkedMul stride config.capacity.toUInt64).isSome

/-- `storage` holds the block of each slot. -/
structure WalCore where
  tail : Position := 0
  head : Position := 0
  headSlot : UInt32 := 0
  storage : ℕ → List UInt8 := fun _ => []
  config : WalRuntimeConfig := {}
  sequenceExhausted : Bool := false
  isOpen : Bool := false

namespace WalCore

/-- `allocated` says whether the blocks could be allocated. -/
def open_ (core : WalCore) (config : WalRuntimeConfig) (allocated : Bool) : OpenStatus × WalCore :=
  if core.isOpen then (.alreadyOpen, core)
  else if !validRuntimeConfig config then (.invalidConfig, core)
  else if !allocated then (.allocationFailed, core)
  else
    (.ok,
      { tail := 0
        head := 0
        headSlot := 0
        storage := fun _ => List.replicate config.payloadSize.toNat 0
        config
        sequenceExhausted := false
        isOpen := true })

def nextSlot (core : WalCore) (slot : UInt32) : UInt32 :=
  if slot + 1 = core.config.capacity then 0 else slot + 1

/-- The state behind an accepted payload. -/
def push (core : WalCore) (payload : List UInt8) : WalCore :=
  { core with
    storage := Function.update core.storage core.headSlot.toNat payload
    headSlot := core.nextSlot core.headSlot
    head := core.head + 1 }

def tryPublish (core : WalCore) (payload : List UInt8) : PublishResult × WalCore :=
  if !core.isOpen then ({ status := .closed }, core)
  else if payload.length ≠ core.config.payloadSize.toNat then
    ({ status := .invalidPayloadSize }, core)
  else if core.sequenceExhausted then ({ status := .sequenceExhausted }, core)
  else if core.head - core.tail = core.config.capacity.toUInt64 then ({ status := .full }, core)
  else if core.head > maxUInt64 - core.config.firstSequence then
    ({ status := .sequenceExhausted }, { core with sequenceExhausted := true })
  else ({ status := .ok, sequence := core.config.firstSequence + core.head }, core.push payload)

def tryView (core : WalCore) (position : Position) : AccessResult :=
  if !core.isOpen then { status := .closed }
  else if position < core.tail then { status := .reclaimed }
  else if position ≥ core.head then { status := .unpublished }
  else
    let slot := (position % core.config.capacity.toUInt64).toUInt32
    { status := .ok
      record :=
        { position, sequence := core.config.firstSequence + position
          payload := core.storage slot.toNat } }

def reclaim (core : WalCore) (endPosition : Position) : ReclaimStatus × WalCore :=
  if !core.isOpen then (.closed, core)
  else if endPosition < core.tail || endPosition > core.head then (.invalidPosition, core)
  else (.ok, { core with tail := endPosition })

/-- The blocks are released; the frontiers stay. -/
def close (core : WalCore) : WalCore := { core with isOpen := false, storage := fun _ => [] }

/-! ### The string -/

/-- The frontiers count what was published, and the live blocks hold it. -/
structure Holds (core : WalCore) (published : List (List UInt8)) : Prop where
  head : core.head.toNat = published.length
  ordered : core.tail.toNat ≤ published.length
  window : published.length ≤ core.tail.toNat + core.config.capacity.toNat
  slot : core.headSlot.toNat = published.length % core.config.capacity.toNat
  capacity : 0 < core.config.capacity.toNat
  first : 0 < core.config.firstSequence.toNat
  sizes : ∀ payload ∈ published, payload.length = core.config.payloadSize.toNat
  sequences : core.config.firstSequence.toNat + published.length ≤ 2 ^ 64
  blocks : core.isOpen = true → ∀ position payload, core.tail.toNat ≤ position →
    published[position]? = some payload →
    SlotRing.read core.config.capacity.toNat core.storage position = payload

variable {core : WalCore} {published : List (List UInt8)} {payload : List UInt8}
variable {position : Position}

theorem open_cases {config : WalRuntimeConfig} {allocated : Bool}
    (opened : (core.open_ config allocated).1 = .ok) :
    (core.open_ config allocated).2.Holds [] ∧ (core.open_ config allocated).2.config = config ∧
      (core.open_ config allocated).2.isOpen = true ∧
      (core.open_ config allocated).2.tail = 0 ∧
      (core.open_ config allocated).2.sequenceExhausted = false := by
  unfold open_ at opened ⊢
  split_ifs at opened ⊢ with _ invalid _
  refine ⟨?_, rfl, rfl, rfl, rfl⟩
  have valid : validRuntimeConfig config = true := by simpa using invalid
  have some_capacity : config.capacity ≠ 0 := by
    intro none
    simp [validRuntimeConfig, none] at valid
  have some_first : config.firstSequence ≠ 0 := by
    intro none
    simp [validRuntimeConfig, none] at valid
  exact {
    head := rfl
    ordered := Nat.le_refl _
    window := Nat.zero_le _
    slot := (Nat.zero_mod _).symm
    capacity := toNat_pos some_capacity
    first := Nat.pos_of_ne_zero fun zero => some_first (UInt64.toNat_inj.mp zero)
    sizes := fun _ member => by cases member
    sequences := Nat.le_of_lt config.firstSequence.toNat_lt
    blocks := fun _ position payload _ here => by cases here }

/-- A publication is refused, or it takes the next slot. -/
theorem tryPublish_cases (core : WalCore) (payload : List UInt8) :
    (∃ status exhausted, status ≠ .ok ∧ core.tryPublish payload =
      ({ status }, { core with sequenceExhausted := exhausted })) ∨
    (core.isOpen = true ∧ payload.length = core.config.payloadSize.toNat ∧
      core.head - core.tail ≠ core.config.capacity.toUInt64 ∧
      ¬ core.head > maxUInt64 - core.config.firstSequence ∧
      core.tryPublish payload =
        ({ status := .ok, sequence := core.config.firstSequence + core.head },
          core.push payload)) := by
  unfold tryPublish
  split_ifs with closed size exhausted full last
  · exact .inl ⟨.closed, _, by simp, rfl⟩
  · exact .inl ⟨.invalidPayloadSize, _, by simp, rfl⟩
  · exact .inl ⟨.sequenceExhausted, _, by simp, rfl⟩
  · exact .inl ⟨.full, _, by simp, rfl⟩
  · exact .inl ⟨.sequenceExhausted, true, by simp, rfl⟩
  · exact .inr ⟨by simpa using closed, not_not.mp size, full, last, rfl⟩

theorem Holds.exhausted (holds : core.Holds published) (exhausted : Bool) :
    ({ core with sequenceExhausted := exhausted } : WalCore).Holds published :=
  ⟨holds.head, holds.ordered, holds.window, holds.slot, holds.capacity, holds.first,
    holds.sizes, holds.sequences, holds.blocks⟩

/-- The slot of the head is the head's place in the ring. -/
theorem Holds.nextSlot (holds : core.Holds published) :
    (core.nextSlot core.headSlot).toNat = (published.length + 1) % core.config.capacity.toNat := by
  have inside := Nat.mod_lt published.length holds.capacity
  have wide := core.config.capacity.toNat_lt
  have next : (core.headSlot + 1).toNat = published.length % core.config.capacity.toNat + 1 := by
    rw [UInt32.toNat_add, holds.slot]
    exact Nat.mod_eq_of_lt (by change _ + 1 < 2 ^ 32; omega)
  have last : core.headSlot + 1 = core.config.capacity ↔
      published.length % core.config.capacity.toNat + 1 = core.config.capacity.toNat := by
    rw [← UInt32.toNat_inj, next]
  rw [SlotRing.succ_mod holds.capacity]
  simp only [WalCore.nextSlot, last]
  split_ifs
  · rfl
  · exact next

/-- An accepted payload takes the slot of no live position. -/
theorem Holds.push (holds : core.Holds published)
    (size : payload.length = core.config.payloadSize.toNat)
    (room : core.head - core.tail ≠ core.config.capacity.toUInt64)
    (more : ¬ core.head > maxUInt64 - core.config.firstSequence) :
    (core.push payload).Holds (published ++ [payload]) := by
  have first := core.config.firstSequence.toNat_lt
  have top := maxUInt64_toNat
  have ordered : core.tail ≤ core.head := by
    rw [UInt64.le_iff_toNat_le, holds.head]
    exact holds.ordered
  have free : published.length < core.tail.toNat + core.config.capacity.toNat := by
    refine Nat.lt_of_le_of_ne holds.window fun full => room ?_
    apply UInt64.toNat_inj.mp
    rw [UInt64.toNat_sub_of_le _ _ ordered, holds.head, UInt32.toNat_toUInt64]
    omega
  have fits : core.config.firstSequence.toNat + published.length + 1 ≤ 2 ^ 64 := by
    have below : core.config.firstSequence ≤ maxUInt64 := by
      rw [UInt64.le_iff_toNat_le, top]
      omega
    rw [gt_iff_lt, UInt64.lt_iff_toNat_lt, UInt64.toNat_sub_of_le _ _ below, top, holds.head] at more
    omega
  have length : (published ++ [payload]).length = published.length + 1 := by
    rw [List.length_append, List.length_singleton]
  have head : (core.head + 1).toNat = published.length + 1 := by
    have positive := holds.first
    rw [UInt64.toNat_add, holds.head]
    exact Nat.mod_eq_of_lt (by change published.length + 1 < 2 ^ 64; omega)
  exact {
    head := head.trans length.symm
    ordered := length ▸ Nat.le_succ_of_le holds.ordered
    window := length ▸ free
    slot := length ▸ holds.nextSlot
    capacity := holds.capacity
    first := holds.first
    sizes := by
      intro other member
      rcases List.mem_append.mp member with old | new
      · exact holds.sizes other old
      · rw [List.mem_singleton.mp new]
        exact size
    sequences := length ▸ fits
    blocks := by
      intro opened position other live here
      have written : (core.push payload).storage =
          SlotRing.write core.config.capacity.toNat core.storage published.length payload := by
        rw [SlotRing.write, ← holds.slot]
        rfl
      have inside := (List.getElem?_eq_some_iff.mp here).1
      rw [length] at inside
      rw [written]
      change SlotRing.read core.config.capacity.toNat _ position = other
      by_cases new : position = published.length
      · subst new
        rw [List.getElem?_concat_length] at here
        rw [SlotRing.read_write]
        exact Option.some.inj here
      · have old : position < published.length := by omega
        rw [List.getElem?_append_left old] at here
        rw [SlotRing.read_write_ne ⟨holds.ordered, free⟩ ⟨live, by omega⟩ new]
        exact holds.blocks opened position other live here }

/-- A view of a live position shows what was published there. -/
theorem Holds.tryView_live (holds : core.Holds published) (opened : core.isOpen = true)
    (live : core.tail.toNat ≤ position.toNat) (here : published[position.toNat]? = some payload) :
    core.tryView position =
      { status := .ok
        record := { position, sequence := core.config.firstSequence + position, payload } } := by
  have inside := (List.getElem?_eq_some_iff.mp here).1
  have behind : ¬ position < core.tail := by
    rw [UInt64.lt_iff_toNat_lt]
    omega
  have below : ¬ position ≥ core.head := by
    rw [ge_iff_le, UInt64.le_iff_toNat_le, holds.head]
    omega
  have slot : (position % core.config.capacity.toUInt64).toUInt32.toNat =
      position.toNat % core.config.capacity.toNat := by
    have bound := Nat.mod_lt position.toNat holds.capacity
    have wide := core.config.capacity.toNat_lt
    rw [UInt64.toNat_toUInt32, UInt64.toNat_mod, UInt32.toNat_toUInt64]
    exact Nat.mod_eq_of_lt (by omega)
  have block := holds.blocks opened position.toNat payload live here
  rw [SlotRing.read, ← slot] at block
  simp only [tryView, opened, Bool.not_true, Bool.false_eq_true, if_false, if_neg behind,
    if_neg below, block]

/-- Only live positions are seen. -/
theorem Holds.tryView_ok (holds : core.Holds published) (seen : (core.tryView position).status = .ok) :
    core.isOpen = true ∧ core.tail.toNat ≤ position.toNat ∧
      ∃ payload, published[position.toNat]? = some payload := by
  unfold tryView at seen
  split_ifs at seen with closed reclaimed unpublished
  have inside : position.toNat < published.length := by
    rw [← holds.head]
    exact UInt64.lt_iff_toNat_lt.mp (UInt64.not_le.mp unpublished)
  refine ⟨by simpa using closed, ?_, _, List.getElem?_eq_getElem inside⟩
  exact UInt64.le_iff_toNat_le.mp (UInt64.not_lt.mp reclaimed)

theorem Holds.reclaim (holds : core.Holds published) (opened : core.isOpen = true)
    (ahead : core.tail.toNat ≤ position.toNat) (inside : position.toNat ≤ published.length) :
    core.reclaim position = (.ok, { core with tail := position }) ∧
      ({ core with tail := position } : WalCore).Holds published := by
  have within : ¬ (decide (position < core.tail) || decide (position > core.head)) = true := by
    simp only [Bool.or_eq_true, decide_eq_true_eq, not_or, UInt64.not_lt, gt_iff_lt,
      UInt64.le_iff_toNat_le, holds.head]
    exact ⟨ahead, inside⟩
  refine ⟨by simp only [WalCore.reclaim, opened, Bool.not_true, Bool.false_eq_true, if_false,
    if_neg within], ?_⟩
  exact {
    head := holds.head
    ordered := inside
    window := holds.window.trans (Nat.add_le_add_right ahead _)
    slot := holds.slot
    capacity := holds.capacity
    first := holds.first
    sizes := holds.sizes
    sequences := holds.sequences
    blocks := fun opened other payload live => holds.blocks opened other payload (ahead.trans live) }

/-- One live record is reclaimed. -/
theorem Holds.reclaimTail (holds : core.Holds published) (opened : core.isOpen = true)
    (live : core.tail.toNat < published.length) :
    core.reclaim (core.tail + 1) = (.ok, { core with tail := core.tail + 1 }) ∧
      ({ core with tail := core.tail + 1 } : WalCore).Holds published := by
  have forward : (core.tail + 1).toNat = core.tail.toNat + 1 :=
    toNat_onward live (holds.head ▸ core.head.toNat_lt)
  refine holds.reclaim opened ?_ ?_
  · rw [forward]
    exact Nat.le_succ _
  · rw [forward]
    exact live

theorem Holds.close (holds : core.Holds published) : core.close.Holds published :=
  ⟨holds.head, holds.ordered, holds.window, holds.slot, holds.capacity, holds.first, holds.sizes,
    holds.sequences, fun opened => by cases opened⟩

end WalCore

/-! ### The records of a string -/

/-- The records of a string, as a view shows them. -/
def stringRecords (firstSequence : UInt64) (published : List (List UInt8)) : List RecordView :=
  published.mapIdx fun index payload =>
    { position := .ofNat index, sequence := firstSequence + .ofNat index, payload }

theorem length_stringRecords {firstSequence : UInt64} {published : List (List UInt8)} :
    (stringRecords firstSequence published).length = published.length := List.length_mapIdx

/-- The view shows the records from a position on. -/
def Shows (view : Position → AccessResult) (records : List RecordView) (lower : ℕ) : Prop :=
  ∀ position : Position, lower ≤ position.toNat → ∀ record, records[position.toNat]? = some record →
    view position = { status := .ok, record }

/-- The ring shows the live part of the string. -/
theorem WalCore.Holds.shows {core : WalCore} {published : List (List UInt8)}
    (holds : core.Holds published) (opened : core.isOpen = true) :
    Shows core.tryView (stringRecords core.config.firstSequence published) core.tail.toNat := by
  intro position live record here
  rw [stringRecords, List.getElem?_mapIdx, Option.map_eq_some_iff] at here
  obtain ⟨payload, found, rfl⟩ := here
  rw [holds.tryView_live opened live found, UInt64.ofNat_toNat]

end Fexma.Wal
