import Fexma.OrderBook.OrderIdIndex

/-! The index of order ids as a finite map over any history of its calls: what it answers is
read off the history, whatever the probe paths look like that the history has left. -/
namespace Fexma.OrderIdIndex

open ProbeTable

inductive IndexCall where
  | insert (id : OrderId) (slot : OrderIndex)
  | find (id : OrderId)
  | eraseAndGet (id : OrderId)
  | erase (id : OrderId)
  | clear
  deriving DecidableEq, Repr

inductive IndexAnswer where
  | inserted (status : IndexInsertStatus)
  | found (slot : OrderIndex)
  | erased (present : Bool)
  | cleared
  deriving DecidableEq, Repr

def perform (index : OrderIdIndex) : IndexCall → IndexAnswer × OrderIdIndex
  | .insert id slot =>
    let (status, index) := index.insert id slot
    (.inserted status, index)
  | .find id => (.found (index.find id), index)
  | .eraseAndGet id =>
    let (slot, index) := index.eraseAndGet id
    (.found slot, index)
  | .erase id =>
    let (present, index) := index.erase id
    (.erased present, index)
  | .clear => (.cleared, index.clear)

/-- Calls and their answers, the newest first. -/
abbrev History := List (IndexCall × IndexAnswer)

def run (index : OrderIdIndex) : List IndexCall → History × OrderIdIndex :=
  List.foldl (fun (history, index) call =>
    let (answer, index) := index.perform call
    ((call, answer) :: history, index)) ([], index)

/-- The slot of the last successful insert of an id that neither an erase of the id nor a clear
has followed. -/
def lastInserted (id : OrderId) : History → Option OrderIndex
  | [] => none
  | (.insert other slot, .inserted .ok) :: earlier =>
    if other = id then some slot else lastInserted id earlier
  | (.eraseAndGet other, _) :: earlier => if other = id then none else lastInserted id earlier
  | (.erase other, _) :: earlier => if other = id then none else lastInserted id earlier
  | (.clear, _) :: _ => none
  | _ :: earlier => lastInserted id earlier

/-- A call that stores no sentinel. -/
def IndexCall.Valid : IndexCall → Prop
  | .insert _ slot => slot ≠ invalidOrderIndex
  | _ => True

/-- The ids in the table, bucket by bucket. -/
def storedIds (index : OrderIdIndex) : List OrderId := keys index.bucketCount index.cells

/-- The index holds what the history says and counts it. -/
structure Tracks (index : OrderIdIndex) (history : History) : Prop where
  wellFormed : WellFormed index
  maps : ∀ id slot, Maps index id slot ↔ lastInserted id history = some slot
  valid : ∀ id slot, Maps index id slot → slot ≠ invalidOrderIndex
  size : index.size = index.storedIds.length

variable {index index' : OrderIdIndex} {history : History} {id : OrderId} {slot : OrderIndex}

/-! ### Stored ids -/

theorem mem_storedIds : id ∈ index.storedIds ↔ ∃ slot, Maps index id slot := mem_keys

theorem WellFormed.nodup_storedIds (wf : WellFormed index) : index.storedIds.Nodup :=
  nodup_keys_iff.mpr wf.placed.distinct

/-- Two well-formed indices with the same ids list them in some order. -/
theorem storedIds_perm (wf : WellFormed index) {ids : List OrderId} (distinct : ids.Nodup)
    (same : ∀ id, (∃ slot, Maps index id slot) ↔ id ∈ ids) : index.storedIds.Perm ids :=
  (List.perm_ext_iff_of_nodup wf.nodup_storedIds distinct).mpr fun id =>
    mem_storedIds.trans (same id)

/-! ### One call -/

section Step
variable (tracks : Tracks index history)
include tracks

/-- A search finds the slot that was stored last and has not been erased since. -/
theorem Tracks.find_eq (id : OrderId) :
    index.find id = (lastInserted id history).getD invalidOrderIndex := by
  cases last : lastInserted id history with
  | none =>
    refine find_absent tracks.wellFormed fun slot maps => ?_
    rw [tracks.maps, last] at maps
    cases maps
  | some slot => exact find_maps tracks.wellFormed ((tracks.maps id slot).mpr last)

theorem Tracks.absent (last : lastInserted id history = none) : ∀ slot, ¬ Maps index id slot := by
  intro slot maps
  rw [tracks.maps, last] at maps
  cases maps

/-- The table is full when it counts as many ids as buckets. The counter is exact, so it may be
asked instead of the buckets. -/
theorem Tracks.full_iff : index.size = index.bucketCount ↔
    ∀ p < index.bucketCount, (index.cells p).isSome := by
  rw [tracks.size]
  exact length_keys_eq_iff

/-- Room is an empty bucket. -/
theorem Tracks.vacant (room : index.size ≠ index.bucketCount) :
    ∃ p < index.bucketCount, index.cells p = none := by
  rw [Ne, tracks.full_iff] at room
  push Not at room
  obtain ⟨p, bound, vacant⟩ := room
  exact ⟨p, bound, Option.not_isSome_iff_eq_none.mp vacant⟩

/-- An absent id is stored while there is room, and every other id stays where it is. -/
theorem Tracks.insert_room (last : lastInserted id history = none)
    (room : index.size ≠ index.bucketCount) (valid : slot ≠ invalidOrderIndex) :
    (index.insert id slot).1 = .ok ∧
      Tracks (index.insert id slot).2 ((.insert id slot, .inserted .ok) :: history) ∧
      (index.insert id slot).2.bucketCount = index.bucketCount := by
  have absent := tracks.absent last
  obtain ⟨ok, wf, count, size, maps⟩ :=
    insert_absent tracks.wellFormed absent (tracks.vacant room) slot
  refine ⟨ok, ⟨wf, fun other slot' => ?_, fun other slot' held => ?_, ?_⟩, count⟩
  · rw [maps, tracks.maps, lastInserted]
    by_cases same : id = other
    · subst same
      rw [if_pos rfl, last]
      simp [eq_comm]
    · rw [if_neg same]
      simp [Ne.symm same]
  · rcases (maps other slot').mp held with ⟨-, rfl⟩ | before
    · exact valid
    · exact tracks.valid other slot' before
  · have listed : (index.insert id slot).2.storedIds.Perm (id :: index.storedIds) := by
      refine storedIds_perm wf (List.nodup_cons.mpr ⟨?_, tracks.wellFormed.nodup_storedIds⟩)
        fun other => ?_
      · rw [mem_storedIds]
        exact fun ⟨slot, held⟩ => absent slot held
      · simp only [maps, List.mem_cons, mem_storedIds, exists_or, exists_and_left, exists_eq, and_true]
    rw [size, tracks.size, listed.length_eq, List.length_cons]

/-- A present id leaves with its slot. The entries behind it are moved, and none of them is
lost. -/
theorem Tracks.erase_present (last : lastInserted id history = some slot) :
    (index.eraseAndGet id).1 = slot ∧
      (∀ answer, Tracks (index.eraseAndGet id).2 ((.eraseAndGet id, answer) :: history)) ∧
      (index.eraseAndGet id).2.bucketCount = index.bucketCount := by
  have held := (tracks.maps id slot).mpr last
  obtain ⟨got, wf, count, size, maps⟩ := eraseAndGet_maps tracks.wellFormed held
  refine ⟨got, fun answer => ⟨wf, fun other slot' => ?_, fun other slot' held => ?_, ?_⟩, count⟩
  · rw [maps, tracks.maps, lastInserted]
    by_cases same : id = other
    · simp [same]
    · simp [same, Ne.symm same]
  · exact tracks.valid other slot' ((maps other slot').mp held).2
  · have listed : index.storedIds.Perm (id :: (index.eraseAndGet id).2.storedIds) := by
      refine storedIds_perm tracks.wellFormed
        (List.nodup_cons.mpr ⟨?_, wf.nodup_storedIds⟩) fun other => ?_
      · rw [mem_storedIds]
        exact fun ⟨slot', still⟩ => ((maps id slot').mp still).1 rfl
      · simp only [List.mem_cons, mem_storedIds, maps, exists_and_left]
        constructor
        · rintro ⟨slot', here⟩
          by_cases same : other = id
          · exact .inl same
          · exact .inr ⟨same, slot', here⟩
        · rintro (rfl | ⟨-, here⟩)
          · exact ⟨slot, held⟩
          · exact here
    rw [size, tracks.size, listed.length_eq, List.length_cons, Nat.add_sub_cancel]

/-- An entry that no id has changed with. -/
theorem Tracks.ignore {entry : IndexCall × IndexAnswer}
    (same : ∀ id, lastInserted id (entry :: history) = lastInserted id history) :
    Tracks index (entry :: history) where
  wellFormed := tracks.wellFormed
  maps id slot := by
    rw [same]
    exact tracks.maps id slot
  valid := tracks.valid
  size := tracks.size

/-- A known id is answered as a duplicate before the table is found to be full. -/
theorem Tracks.insert_present (last : lastInserted id history = some slot) (slot' : OrderIndex) :
    index.insert id slot' = (.duplicate, index) :=
  insert_duplicate tracks.wellFormed ((tracks.maps id slot).mpr last) slot'

/-- On a full table the loop meets no empty bucket and ends behind the last one. -/
theorem Tracks.insert_full (last : lastInserted id history = none)
    (taken : index.size = index.bucketCount) (slot : OrderIndex) :
    index.insert id slot = (.full, index) :=
  OrderIdIndex.insert_full tracks.wellFormed (tracks.absent last) (tracks.full_iff.mp taken) slot

theorem Tracks.erase_absent (last : lastInserted id history = none) :
    index.eraseAndGet id = (invalidOrderIndex, index) :=
  eraseAndGet_absent tracks.wellFormed (tracks.absent last)

/-- After an erase, with whatever answer, only its id is gone. -/
theorem Tracks.eraseAndGet (id : OrderId) (answer : IndexAnswer) :
    Tracks (index.eraseAndGet id).2 ((.eraseAndGet id, answer) :: history) ∧
      (index.eraseAndGet id).2.bucketCount = index.bucketCount := by
  cases last : lastInserted id history with
  | none =>
    rw [tracks.erase_absent last]
    refine ⟨tracks.ignore fun other => ?_, rfl⟩
    rw [lastInserted]
    split_ifs with same
    · rw [← same, last]
    · rfl
  | some slot =>
    obtain ⟨-, after, count⟩ := tracks.erase_present last
    exact ⟨after answer, count⟩

theorem Tracks.insert (id : OrderId) (valid : slot ≠ invalidOrderIndex) :
    Tracks (index.insert id slot).2 ((.insert id slot, .inserted (index.insert id slot).1) :: history) ∧
      (index.insert id slot).2.bucketCount = index.bucketCount := by
  cases last : lastInserted id history with
  | some held =>
    rw [tracks.insert_present last]
    exact ⟨tracks.ignore fun other => rfl, rfl⟩
  | none =>
    by_cases taken : index.size = index.bucketCount
    · rw [tracks.insert_full last taken]
      exact ⟨tracks.ignore fun other => rfl, rfl⟩
    · obtain ⟨ok, after, count⟩ := tracks.insert_room last taken valid
      rw [ok]
      exact ⟨after, count⟩

theorem Tracks.clear : Tracks index.clear ((.clear, .cleared) :: history) where
  wellFormed := wellFormed_clear tracks.wellFormed.power
  maps id slot := iff_of_false not_maps_clear nofun
  valid id slot held := absurd held not_maps_clear
  size := by
    have none : index.clear.storedIds = [] :=
      List.eq_nil_iff_forall_not_mem.mpr fun id member => by
        obtain ⟨slot, held⟩ := mem_storedIds.mp member
        exact not_maps_clear held
    rw [none]
    rfl

/-- One call keeps the index in step with its history. This is the step of the induction over
runs. -/
theorem Tracks.perform {call : IndexCall} (valid : call.Valid) :
    Tracks (index.perform call).2 ((call, (index.perform call).1) :: history) ∧
      (index.perform call).2.bucketCount = index.bucketCount := by
  cases call with
  | insert id slot => exact tracks.insert id valid
  | find id => exact ⟨tracks.ignore fun other => rfl, rfl⟩
  | eraseAndGet id => exact tracks.eraseAndGet id _
  | erase id =>
    obtain ⟨after, count⟩ := tracks.eraseAndGet id .cleared
    exact ⟨⟨after.wellFormed, after.maps, after.valid, after.size⟩, count⟩
  | clear => exact ⟨tracks.clear, rfl⟩

end Step

/-! ### Any history -/

theorem run_concat (index : OrderIdIndex) (calls : List IndexCall) (call : IndexCall) :
    index.run (calls ++ [call]) =
      ((call, ((index.run calls).2.perform call).1) :: (index.run calls).1,
        ((index.run calls).2.perform call).2) := by
  rw [run, List.foldl_append]
  rfl

theorem Tracks.create (capacity : OrderCapacity) : Tracks (create capacity) [] := by
  have wf : WellFormed (OrderIdIndex.create capacity) := wellFormed_clear (bucketCountFor_spec capacity).1
  refine ⟨wf, fun id slot => iff_of_false not_maps_clear nofun,
    fun id slot held => absurd held not_maps_clear, ?_⟩
  have none : (OrderIdIndex.create capacity).storedIds = [] :=
    List.eq_nil_iff_forall_not_mem.mpr fun id member => by
      obtain ⟨slot, held⟩ := mem_storedIds.mp member
      exact not_maps_clear held
  rw [none]
  rfl

/-- Behind any calls the index tracks what they were answered. -/
theorem Tracks.run (capacity : OrderCapacity) {calls : List IndexCall}
    (valid : ∀ call ∈ calls, call.Valid) :
    Tracks ((OrderIdIndex.create capacity).run calls).2 ((OrderIdIndex.create capacity).run calls).1 ∧
      ((OrderIdIndex.create capacity).run calls).2.bucketCount = bucketCountFor capacity := by
  induction calls using List.reverseRecOn with
  | nil => exact ⟨.create capacity, rfl⟩
  | append_singleton calls call ih =>
    obtain ⟨tracks, count⟩ := ih fun other member => valid other (List.mem_append_left _ member)
    obtain ⟨after, kept⟩ := tracks.perform (valid call (by simp))
    rw [run_concat]
    exact ⟨after, kept.trans count⟩

/-- What an index answers when it is the finite map of its history: lookups, the three outcomes
of an insert, erasing, the size, and probe paths without a gap. -/
structure AnswersFrom (index : OrderIdIndex) (history : History) : Prop where
  find : ∀ id, index.find id = (lastInserted id history).getD invalidOrderIndex
  duplicate : ∀ id slot, (index.insert id slot).1 = .duplicate ↔ (lastInserted id history).isSome
  full : ∀ id slot, (index.insert id slot).1 = .full ↔
    lastInserted id history = none ∧ index.size = index.bucketCount
  refused : ∀ id slot, (index.insert id slot).1 ≠ .ok → (index.insert id slot).2 = index
  erased : ∀ id, (index.eraseAndGet id).1 = index.find id
  left : ∀ id other, (index.eraseAndGet id).2.find other =
    if other = id then invalidOrderIndex else index.find other
  present : ∀ id, (index.erase id).1 = (lastInserted id history).isSome
  size : index.size = index.storedIds.length ∧ index.storedIds.Nodup ∧
    ∀ id, id ∈ index.storedIds ↔ (lastInserted id history).isSome
  reachable : ∀ id slot, lastInserted id history = some slot →
    ∃ d < index.bucketCount, index.cells ((index.home id + d) % index.bucketCount) = some (id, slot) ∧
      ∀ e ≤ d, (index.cells ((index.home id + e) % index.bucketCount)).isSome

section Answers
variable (tracks : Tracks index history)
include tracks

theorem Tracks.insert_cases (id : OrderId) (slot : OrderIndex) :
    ((lastInserted id history).isSome ∧ index.insert id slot = (.duplicate, index)) ∨
      (lastInserted id history = none ∧ index.size = index.bucketCount ∧
        index.insert id slot = (.full, index)) ∨
      (lastInserted id history = none ∧ index.size ≠ index.bucketCount ∧
        (index.insert id slot).1 = .ok) := by
  cases last : lastInserted id history with
  | some held => exact .inl ⟨rfl, tracks.insert_present last slot⟩
  | none =>
    by_cases taken : index.size = index.bucketCount
    · exact .inr (.inl ⟨rfl, taken, tracks.insert_full last taken slot⟩)
    · exact .inr (.inr ⟨rfl, taken,
        (insert_absent tracks.wellFormed (tracks.absent last) (tracks.vacant taken) slot).1⟩)

theorem Tracks.find_erased (id other : OrderId) : (index.eraseAndGet id).2.find other =
    if other = id then invalidOrderIndex else index.find other := by
  obtain ⟨after, -⟩ := tracks.eraseAndGet id .cleared
  rw [after.find_eq, tracks.find_eq, lastInserted]
  by_cases same : other = id
  · simp [same]
  · simp [same, Ne.symm same]

theorem Tracks.erase_answer (id : OrderId) : (index.eraseAndGet id).1 = index.find id := by
  rw [tracks.find_eq]
  cases last : lastInserted id history with
  | none =>
    rw [tracks.erase_absent last]
    rfl
  | some slot => exact (tracks.erase_present last).1

theorem Tracks.answers : AnswersFrom index history where
  find := tracks.find_eq
  duplicate id slot := by
    rcases tracks.insert_cases id slot with ⟨here, same⟩ | ⟨absent, -, same⟩ | ⟨absent, -, same⟩
    · simp [same, here]
    · simp [same, absent]
    · simp [same, absent]
  full id slot := by
    rcases tracks.insert_cases id slot with ⟨here, same⟩ | ⟨absent, taken, same⟩ | ⟨absent, room, same⟩
    · rw [same]
      refine iff_of_false nofun ?_
      rintro ⟨absent, -⟩
      rw [absent] at here
      cases here
    · simp [same, absent, taken]
    · simp [same, room]
  refused id slot error := by
    rcases tracks.insert_cases id slot with ⟨-, same⟩ | ⟨-, -, same⟩ | ⟨-, -, ok⟩
    · rw [same]
    · rw [same]
    · exact absurd ok error
  erased := tracks.erase_answer
  left := tracks.find_erased
  present id := by
    have answer := tracks.erase_answer id
    rw [tracks.find_eq] at answer
    change decide ((index.eraseAndGet id).1 ≠ invalidOrderIndex) = _
    rw [answer]
    cases last : lastInserted id history with
    | none => rfl
    | some slot => simpa using tracks.valid id slot ((tracks.maps id slot).mpr last)
  size := by
    refine ⟨tracks.size, tracks.wellFormed.nodup_storedIds, fun id => ?_⟩
    rw [mem_storedIds, Option.isSome_iff_exists]
    exact exists_congr fun slot => tracks.maps id slot
  reachable id slot last := by
    obtain ⟨p, bound, held⟩ := (tracks.maps id slot).mpr last
    obtain ⟨d, within, reach, path⟩ := tracks.wellFormed.placed.reachable bound held
    exact ⟨d, within, by rw [reach]; exact held, path⟩

end Answers

/-- After any calls the index is the finite map of their history. The probe and repair loops
visit each bucket at most once, so they end on a full table too. -/
theorem index_is_map (capacity : OrderCapacity) {calls : List IndexCall}
    (valid : ∀ call ∈ calls, call.Valid) :
    AnswersFrom ((create capacity).run calls).2 ((create capacity).run calls).1 ∧
      ((create capacity).run calls).2.bucketCount = bucketCountFor capacity := by
  obtain ⟨tracks, count⟩ := Tracks.run capacity valid
  exact ⟨tracks.answers, count⟩

/-- One bucket: the second id meets a full table, and the first can still be erased. -/
theorem index_is_map_one_bucket :
    ((create 0).run [.insert 1 7, .insert 2 8]).2.find 1 =
        (lastInserted 1 ((create 0).run [.insert 1 7, .insert 2 8]).1).getD invalidOrderIndex ∧
      ((create 0).run [.insert 1 7, .insert 2 8]).1 =
        [(.insert 2 8, .inserted .full), (.insert 1 7, .inserted .ok)] := by
  have valid : ∀ call ∈ [IndexCall.insert 1 7, .insert 2 8], call.Valid := by
    simp [IndexCall.Valid, invalidOrderIndex]
  exact ⟨(@index_is_map 0 [.insert 1 7, .insert 2 8] valid).1.find 1, by decide⟩

end Fexma.OrderIdIndex
