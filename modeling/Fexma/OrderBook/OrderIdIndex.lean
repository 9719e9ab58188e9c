import Fexma.Library.ProbeTable
import Fexma.OrderBook.Types
import Mathlib.Data.Nat.Bitwise

/-! The fixed index from order ids to pool slots (`order_id_index.hpp`): linear
probing over a power-of-two bucket array, deletion by backward shift. Probe
statistics are diagnostics that no operation reads and are left out. -/
namespace Fexma

open ProbeTable

inductive OrderIdIndex.State where
  | empty
  | occupied
  deriving DecidableEq, Repr, Inhabited

structure OrderIdIndex.Bucket where
  id : OrderId := 0
  slot : OrderIndex := invalidOrderIndex
  state : OrderIdIndex.State := .empty
  deriving DecidableEq, Repr, Inhabited

inductive IndexInsertStatus where
  | ok
  | duplicate
  | full
  deriving DecidableEq, Repr

/-- The bucket array is read and written below `bucketCount` only. -/
structure OrderIdIndex where
  bucketCount : ℕ
  buckets : ℕ → OrderIdIndex.Bucket
  size : ℕ

namespace OrderIdIndex

/-- The loop `while (count < required) count <<= 1`. -/
def bucketCountLoop (required : ℕ) : ℕ → ℕ → ℕ
  | 0, count => count
  | fuel + 1, count => if count < required then bucketCountLoop required fuel (count <<< 1) else count

/-- A `size_t` shift leaves the word after 64 steps, so 64 bounds the loop. -/
def bucketCountFor (capacity : OrderCapacity) : ℕ :=
  bucketCountLoop (if capacity = 0 then 1 else capacity.toNat * 2 + 1) 64 1

/-- `hash`: a 64-bit finaliser. -/
def hash (id : OrderId) : UInt64 :=
  let x := id ^^^ (id >>> 33)
  let x := x * 0xff51afd7ed558ccd
  let x := x ^^^ (x >>> 33)
  let x := x * 0xc4ceb9fe1a85ec53
  x ^^^ (x >>> 33)

/-- `hash(id) & (bucket_count_ - 1)`. -/
def home (index : OrderIdIndex) (id : OrderId) : ℕ :=
  (hash id).toNat &&& (index.bucketCount - 1)

/-- `(pos + 1) & (bucket_count_ - 1)`. -/
def advance (index : OrderIdIndex) (pos : ℕ) : ℕ := (pos + 1) &&& (index.bucketCount - 1)

def clear (index : OrderIdIndex) : OrderIdIndex :=
  { index with size := 0, buckets := fun _ => {} }

def create (capacity : OrderCapacity) : OrderIdIndex :=
  clear { bucketCount := bucketCountFor capacity, buckets := fun _ => {}, size := 0 }

/-- The probe loop of `find`. -/
def findLoop (index : OrderIdIndex) (id : OrderId) : ℕ → ℕ → OrderIndex
  | 0, _ => invalidOrderIndex
  | probes + 1, pos =>
    let bucket := index.buckets pos
    if bucket.state = .empty then invalidOrderIndex
    else if bucket.state = .occupied ∧ bucket.id = id then bucket.slot
    else findLoop index id probes (index.advance pos)

def find (index : OrderIdIndex) (id : OrderId) : OrderIndex :=
  if index.bucketCount = 0 then invalidOrderIndex
  else index.findLoop id index.bucketCount (index.home id)

/-- The probe loop of `insert`. -/
def insertLoop (index : OrderIdIndex) (id : OrderId) (slot : OrderIndex) :
    ℕ → ℕ → IndexInsertStatus × OrderIdIndex
  | 0, _ => (.full, index)
  | probes + 1, pos =>
    let bucket := index.buckets pos
    if bucket.state = .occupied then
      if bucket.id = id then (.duplicate, index)
      else insertLoop index id slot probes (index.advance pos)
    else (.ok, { index with
      buckets := Function.update index.buckets pos { id, slot, state := .occupied }
      size := index.size + 1 })

def insert (index : OrderIdIndex) (id : OrderId) (slot : OrderIndex) :
    IndexInsertStatus × OrderIdIndex :=
  if index.bucketCount = 0 then (.full, index)
  else index.insertLoop id slot index.bucketCount (index.home id)

/-- `(target - homePos) & mask` over 64-bit positions. -/
def distanceMasked (index : OrderIdIndex) (homePos target : ℕ) : ℕ :=
  ((target + 2 ^ 64 - homePos) % 2 ^ 64) &&& (index.bucketCount - 1)

/-- The repair loop of `erase_at`; `scans` is what is left of its bound. -/
def repairLoop (index : OrderIdIndex) : ℕ → ℕ → ℕ → OrderIdIndex
  | 0, _, _ => index
  | scans + 1, holePos, candidatePos =>
    let candidate := index.buckets candidatePos
    if candidate.state = .occupied then
      let homePos := index.home candidate.id
      if index.distanceMasked homePos holePos < index.distanceMasked homePos candidatePos then
        repairLoop { index with
            buckets := Function.update (Function.update index.buckets holePos candidate)
              candidatePos {} }
          scans candidatePos (index.advance candidatePos)
      else repairLoop index scans holePos (index.advance candidatePos)
    else index

def eraseAt (index : OrderIdIndex) (erasedPos : ℕ) : OrderIdIndex :=
  repairLoop { index with buckets := Function.update index.buckets erasedPos {} }
    (index.bucketCount - 1) erasedPos (index.advance erasedPos)

/-- The probe loop of `erase_and_get`. -/
def eraseLoop (index : OrderIdIndex) (id : OrderId) : ℕ → ℕ → OrderIndex × OrderIdIndex
  | 0, _ => (invalidOrderIndex, index)
  | probes + 1, pos =>
    let bucket := index.buckets pos
    if bucket.state = .empty then (invalidOrderIndex, index)
    else if bucket.state = .occupied ∧ bucket.id = id then
      (bucket.slot, eraseAt { index with size := index.size - 1 } pos)
    else eraseLoop index id probes (index.advance pos)

def eraseAndGet (index : OrderIdIndex) (id : OrderId) : OrderIndex × OrderIdIndex :=
  if index.bucketCount = 0 then (invalidOrderIndex, index)
  else index.eraseLoop id index.bucketCount (index.home id)

def erase (index : OrderIdIndex) (id : OrderId) : Bool × OrderIdIndex :=
  let (slot, index) := index.eraseAndGet id
  (slot ≠ invalidOrderIndex, index)

/-! ### The index as a probe table -/

/-- What a bucket holds, read as a cell of a probe table. -/
def cells (index : OrderIdIndex) (pos : ℕ) : Option (OrderId × OrderIndex) :=
  let bucket := index.buckets pos
  if bucket.state = .occupied then some (bucket.id, bucket.slot) else none

/-- The index maps `id` to `slot`. -/
def Maps (index : OrderIdIndex) (id : OrderId) (slot : OrderIndex) : Prop :=
  Stored index.bucketCount index.cells id slot

/-- A power-of-two bucket array on which probing is exact. -/
structure WellFormed (index : OrderIdIndex) : Prop where
  power : ∃ e ≤ 64, index.bucketCount = 2 ^ e
  placed : Placed index.bucketCount index.home index.cells

variable {index index' : OrderIdIndex} {id : OrderId} {slot : OrderIndex} {pos fuel : ℕ}

theorem bucketCountLoop_power {required fuel e : ℕ} (enough : required ≤ 2 ^ (e + fuel)) :
    ∃ e' ≤ e + fuel, bucketCountLoop required fuel (2 ^ e) = 2 ^ e' ∧ required ≤ 2 ^ e' := by
  induction fuel generalizing e with
  | zero => exact ⟨e, le_rfl, rfl, enough⟩
  | succ fuel ih =>
    simp only [bucketCountLoop]
    split
    · rw [Nat.shiftLeft_eq, pow_one, ← pow_succ]
      obtain ⟨e', le, same, reach⟩ := ih (e := e + 1) (by rwa [show e + 1 + fuel = e + (fuel + 1) by omega])
      exact ⟨e', by omega, same, reach⟩
    · exact ⟨e, by omega, rfl, by omega⟩

/-- The array has more than twice as many buckets as there are slots, so a book never fills its
index. -/
theorem bucketCountFor_spec (capacity : OrderCapacity) :
    (∃ e ≤ 64, bucketCountFor capacity = 2 ^ e) ∧ capacity.toNat < bucketCountFor capacity := by
  have small : capacity.toNat < 2 ^ 32 := capacity.toNat_lt
  have reach : (if capacity = 0 then 1 else capacity.toNat * 2 + 1) ≤ 2 ^ (0 + 64) := by
    split <;> omega
  obtain ⟨e, le, same, enough⟩ := bucketCountLoop_power reach
  have same : bucketCountFor capacity = 2 ^ e := same
  refine ⟨⟨e, by omega, same⟩, ?_⟩
  rw [same]
  split at enough
  · rename_i zero
    subst zero
    exact enough
  · omega

theorem mask_eq_mod {count e n : ℕ} (power : count = 2 ^ e) : n &&& (count - 1) = n % count := by
  rw [power, Nat.and_two_pow_sub_one_eq_mod]

section Masked
variable (wf : WellFormed index)
include wf

theorem WellFormed.positive : 0 < index.bucketCount := by
  obtain ⟨e, -, power⟩ := wf.power
  rw [power]
  exact Nat.two_pow_pos e

theorem WellFormed.advance_eq (pos : ℕ) : index.advance pos = (pos + 1) % index.bucketCount := by
  obtain ⟨e, -, power⟩ := wf.power
  exact mask_eq_mod power

theorem WellFormed.home_lt (id : OrderId) : index.home id < index.bucketCount := by
  obtain ⟨e, -, power⟩ := wf.power
  rw [home, mask_eq_mod power]
  exact Nat.mod_lt _ wf.positive

theorem WellFormed.distanceMasked_eq {homePos target : ℕ} (below : homePos < index.bucketCount) :
    index.distanceMasked homePos target = distance index.bucketCount homePos target := by
  obtain ⟨e, le, power⟩ := wf.power
  have dvd : index.bucketCount ∣ 2 ^ 64 := by rw [power]; exact pow_dvd_pow 2 le
  obtain ⟨times, whole⟩ := dvd
  have positive : 0 < times := Nat.pos_of_ne_zero (by rintro rfl; omega)
  rw [distanceMasked, mask_eq_mod power, Nat.mod_mod_of_dvd _ ⟨times, whole⟩, distance]
  have split : target + 2 ^ 64 - homePos =
      (target + index.bucketCount - homePos) + index.bucketCount * (times - 1) := by
    rw [whole, Nat.mul_sub_one]
    have := Nat.le_mul_of_pos_right index.bucketCount positive
    omega
  rw [split, Nat.add_mul_mod_self_left]

omit wf in
theorem stops_bucket (id : OrderId) (stop : (index.buckets pos).state = .empty ∨ (index.buckets pos).id = id) :
    Stops index.cells id pos := by
  intro id' slot held
  simp only [cells, Option.ite_none_right_eq_some] at held
  obtain ⟨occupied, held⟩ := held
  cases held
  simpa [occupied] using stop

omit wf in
theorem passes_bucket (occupied : (index.buckets pos).state = .occupied)
    (other : (index.buckets pos).id ≠ id) : ¬ Stops index.cells id pos := fun stops =>
  other (stops _ (index.buckets pos).slot (by simp [cells, occupied]))

/-- The search of the code is the probe of the table, with the slot read off where it stops. -/
theorem findLoop_eq : index.findLoop id fuel pos =
    (((probe index.bucketCount index.cells id fuel pos).bind index.cells).map Prod.snd).getD
      invalidOrderIndex := by
  induction fuel generalizing pos with
  | zero => rfl
  | succ fuel ih =>
    simp only [findLoop, probe, wf.advance_eq, ih]
    cases state : (index.buckets pos).state with
    | empty =>
      have stops := stops_bucket id (.inl state)
      simp [stops, cells, state]
    | occupied =>
      by_cases same : (index.buckets pos).id = id
      · have stops := stops_bucket id (.inr same)
        simp [stops, cells, state, same]
      · have passes := passes_bucket state same
        simp [passes, same]

/-- So is the loop of an insertion, which writes where the probe stops. -/
theorem insertLoop_eq : index.insertLoop id slot fuel pos =
    match probe index.bucketCount index.cells id fuel pos with
    | none => (.full, index)
    | some p =>
      if (index.cells p).isSome then (.duplicate, index)
      else (.ok, { index with
        buckets := Function.update index.buckets p { id, slot, state := .occupied }
        size := index.size + 1 }) := by
  induction fuel generalizing pos with
  | zero => rfl
  | succ fuel ih =>
    simp only [insertLoop, probe, wf.advance_eq, ih]
    cases state : (index.buckets pos).state with
    | empty =>
      have stops := stops_bucket id (.inl state)
      simp [stops, cells, state]
    | occupied =>
      by_cases same : (index.buckets pos).id = id
      · have stops := stops_bucket id (.inr same)
        simp [stops, cells, state, same]
      · have passes := passes_bucket state same
        simp [passes, same]

/-- And that of an erase, which repairs the cluster behind the entry it has found. -/
theorem eraseLoop_eq : index.eraseLoop id fuel pos =
    match (probe index.bucketCount index.cells id fuel pos) with
    | none => (invalidOrderIndex, index)
    | some p =>
      match index.cells p with
      | none => (invalidOrderIndex, index)
      | some (_, slot) => (slot, eraseAt { index with size := index.size - 1 } p) := by
  induction fuel generalizing pos with
  | zero => rfl
  | succ fuel ih =>
    simp only [eraseLoop, probe, wf.advance_eq, ih]
    cases state : (index.buckets pos).state with
    | empty =>
      have stops := stops_bucket id (.inl state)
      simp [stops, cells, state]
    | occupied =>
      by_cases same : (index.buckets pos).id = id
      · have stops := stops_bucket id (.inr same)
        simp [stops, cells, state, same]
      · have passes := passes_bucket state same
        simp [passes, same]

end Masked

/-- Writing one bucket writes one cell. -/
theorem cells_update (index : OrderIdIndex) (pos : ℕ) (bucket : Bucket) :
    cells { index with buckets := Function.update index.buckets pos bucket } =
      Function.update index.cells pos
        (if bucket.state = .occupied then some (bucket.id, bucket.slot) else none) := by
  funext p
  rcases eq_or_ne p pos with rfl | apart
  · simp [cells]
  · simp [cells, apart]

/-- The repair loop is the repair of the probe table, and leaves the size of
the index alone. -/
theorem repairLoop_spec (index' : OrderIdIndex) (scans hole candidate : ℕ) (wf : WellFormed index)
    (shape : index'.bucketCount = index.bucketCount) :
    (index'.repairLoop scans hole candidate).cells =
        repair index.bucketCount index.home scans hole candidate index'.cells ∧
      (index'.repairLoop scans hole candidate).bucketCount = index.bucketCount ∧
      (index'.repairLoop scans hole candidate).size = index'.size := by
  have homes (id : OrderId) : index'.home id = index.home id := by simp [home, shape]
  induction scans generalizing index' hole candidate with
  | zero => exact ⟨rfl, shape, rfl⟩
  | succ scans ih =>
    have forward : index'.advance candidate = (candidate + 1) % index.bucketCount := by
      rw [← wf.advance_eq]
      simp [advance, shape]
    have masked (target : ℕ) (id : OrderId) : index'.distanceMasked (index'.home id) target =
        distance index.bucketCount (index.home id) target := by
      rw [homes, ← wf.distanceMasked_eq (wf.home_lt id)]
      simp [distanceMasked, shape]
    simp only [repairLoop, repair, masked, forward]
    cases state : (index'.buckets candidate).state with
    | empty => simp [cells, state, shape]
    | occupied =>
      have held : index'.cells candidate =
          some ((index'.buckets candidate).id, (index'.buckets candidate).slot) := by
        simp [cells, state]
      simp only [held, ↓reduceIte]
      split
      · have moved : cells { index' with
            buckets := Function.update (Function.update index'.buckets hole
              (index'.buckets candidate)) candidate {} } =
            Function.update (Function.update index'.cells hole
              (some ((index'.buckets candidate).id, (index'.buckets candidate).slot)))
              candidate none := by
          rw [cells_update { index' with
            buckets := Function.update index'.buckets hole (index'.buckets candidate) },
            cells_update]
          simp [state]
        rw [← moved]
        exact ih _ _ _ shape homes
      · exact ih _ _ _ shape homes

/-! ### The operations -/

theorem wellFormed_clear (power : ∃ e ≤ 64, index.bucketCount = 2 ^ e) : WellFormed index.clear where
  power := power
  placed := placed_empty _ fun p _ => by simp [cells, clear]

theorem not_maps_clear : ¬ Maps index.clear id slot := by
  rintro ⟨p, -, held⟩
  simp [cells, clear] at held

section Operations
variable (wf : WellFormed index)
include wf

/-- An id has one slot: a well-formed table holds no key twice. -/
theorem Maps.unique {slot' : OrderIndex} (first : Maps index id slot) (second : Maps index id slot') :
    slot = slot' := by
  obtain ⟨p, hp, held⟩ := first
  obtain ⟨q, hq, held'⟩ := second
  obtain rfl := wf.placed.distinct p hp q hq id slot slot' held held'
  rw [held] at held'
  cases held'
  rfl

theorem find_maps (maps : Maps index id slot) : index.find id = slot := by
  obtain ⟨p, bound, held⟩ := maps
  rw [find, if_neg wf.positive.ne', findLoop_eq wf, probe_stored wf.placed wf.home_lt bound held]
  simp [held]

theorem find_absent (absent : ∀ slot, ¬ Maps index id slot) : index.find id = invalidOrderIndex := by
  rw [find, if_neg wf.positive.ne', findLoop_eq wf]
  cases found : probe index.bucketCount index.cells id index.bucketCount (index.home id) with
  | none => rfl
  | some p =>
    obtain ⟨-, empty⟩ := probe_absent absent wf.home_lt found
    simp [empty]

theorem insert_duplicate (maps : Maps index id slot) (slot' : OrderIndex) :
    index.insert id slot' = (.duplicate, index) := by
  obtain ⟨p, bound, held⟩ := maps
  rw [insert, if_neg wf.positive.ne', insertLoop_eq wf,
    probe_stored wf.placed wf.home_lt bound held]
  simp [held]

/-- An absent id is stored unless every bucket is taken. All other ids keep their slots. -/
theorem insert_absent (absent : ∀ slot, ¬ Maps index id slot)
    (room : ∃ p < index.bucketCount, index.cells p = none) (slot : OrderIndex) :
    (index.insert id slot).1 = .ok ∧ WellFormed (index.insert id slot).2 ∧
      (index.insert id slot).2.bucketCount = index.bucketCount ∧
      (index.insert id slot).2.size = index.size + 1 ∧
      ∀ id' slot', Maps (index.insert id slot).2 id' slot' ↔
        (id' = id ∧ slot' = slot) ∨ Maps index id' slot' := by
  rw [insert, if_neg wf.positive.ne', insertLoop_eq wf]
  cases found : probe index.bucketCount index.cells id index.bucketCount (index.home id) with
  | none =>
    obtain ⟨p, bound, empty⟩ := room
    have full := (probe_full wf.home_lt found).1 p bound
    simp [empty] at full
  | some p =>
    obtain ⟨bound, empty⟩ := probe_absent absent wf.home_lt found
    have written := cells_update index p { id, slot, state := .occupied }
    simp only [↓reduceIte] at written
    simp only [empty, Option.isSome_none, Bool.false_eq_true, ↓reduceIte, true_and]
    refine ⟨⟨wf.power, ?_⟩, fun id' slot' => ?_⟩
    · have placed := placed_store (v := slot) wf.placed wf.home_lt absent found
      rw [← written] at placed
      exact placed
    · have stored : Stored index.bucketCount (Function.update index.cells p (some (id, slot)))
          id' slot' ↔ (id' = id ∧ slot' = slot) ∨ Maps index id' slot' := stored_store bound empty
      rw [← written] at stored
      exact stored

/-- With every bucket taken an absent id is refused. -/
theorem insert_full (absent : ∀ slot, ¬ Maps index id slot)
    (full : ∀ p < index.bucketCount, (index.cells p).isSome) (slot : OrderIndex) :
    index.insert id slot = (.full, index) := by
  rw [insert, if_neg wf.positive.ne', insertLoop_eq wf]
  cases found : probe index.bucketCount index.cells id index.bucketCount (index.home id) with
  | none => rfl
  | some p =>
    obtain ⟨bound, empty⟩ := probe_absent absent wf.home_lt found
    have taken := full p bound
    rw [empty] at taken
    cases taken

theorem eraseAndGet_absent (absent : ∀ slot, ¬ Maps index id slot) :
    index.eraseAndGet id = (invalidOrderIndex, index) := by
  rw [eraseAndGet, if_neg wf.positive.ne', eraseLoop_eq wf]
  cases found : probe index.bucketCount index.cells id index.bucketCount (index.home id) with
  | none => rfl
  | some p =>
    obtain ⟨-, empty⟩ := probe_absent absent wf.home_lt found
    simp [empty]

/-- A stored id is erased with its slot, and the table is well formed again: no other id has lost
its way. -/
theorem eraseAndGet_maps (maps : Maps index id slot) :
    (index.eraseAndGet id).1 = slot ∧ WellFormed (index.eraseAndGet id).2 ∧
      (index.eraseAndGet id).2.bucketCount = index.bucketCount ∧
      (index.eraseAndGet id).2.size = index.size - 1 ∧
      ∀ id' slot', Maps (index.eraseAndGet id).2 id' slot' ↔ id' ≠ id ∧ Maps index id' slot' := by
  obtain ⟨p, bound, held⟩ := maps
  rw [eraseAndGet, if_neg wf.positive.ne', eraseLoop_eq wf,
    probe_stored wf.placed wf.home_lt bound held]
  simp only [held, true_and]
  obtain ⟨placed, stored⟩ := erase_spec wf.placed bound held
  have hole := cells_update { index with size := index.size - 1 } p {}
  simp only [reduceCtorEq, ↓reduceIte] at hole
  have forward : advance { index with size := index.size - 1 } p = (p + 1) % index.bucketCount :=
    wf.advance_eq p
  obtain ⟨after, count, size⟩ := repairLoop_spec { index with
    buckets := Function.update index.buckets p {}, size := index.size - 1 }
    (index.bucketCount - 1) p ((p + 1) % index.bucketCount) wf rfl
  rw [eraseAt, forward]
  have table : cells (repairLoop { index with
      buckets := Function.update index.buckets p {}, size := index.size - 1 }
      (index.bucketCount - 1) p ((p + 1) % index.bucketCount)) =
      repair index.bucketCount index.home (index.bucketCount - 1) p ((p + 1) % index.bucketCount)
        (Function.update index.cells p none) := by
    rw [after, hole]
    rfl
  have homes (id : OrderId) : home (repairLoop { index with
      buckets := Function.update index.buckets p {}, size := index.size - 1 }
      (index.bucketCount - 1) p ((p + 1) % index.bucketCount)) id = index.home id := by
    simp [home, count]
  refine ⟨⟨by rw [count]; exact wf.power, ?_⟩, count, size, fun id' slot' => ?_⟩
  · rw [count, table, funext homes]
    exact placed
  · rw [Maps, count, table]
    exact stored id' slot'

end Operations

end OrderIdIndex

end Fexma
