import Mathlib.Order.Lattice
import Mathlib.Data.List.Pairwise
import Mathlib.Data.List.Perm.Basic
import Mathlib.Tactic.SplitIfs

/-! Lists ordered by a key in which equal keys keep their arrival order. Such a
list is determined by its groups: what it holds at each key, in order. -/
namespace Fexma.StableOrder

variable {α β κ : Type} [LinearOrder κ] {key : α → κ} {key' : β → κ}
variable {x y : α} {xs ys : List α} {k : κ}

/-- Keys never decrease along the list. -/
def Ordered (key : α → κ) (xs : List α) : Prop := xs.Pairwise fun a b => key a ≤ key b

/-- The elements of one key, in list order. -/
def group (key : α → κ) (k : κ) (xs : List α) : List α := xs.filter fun x => decide (key x = k)

/-- Place an element behind all elements of its own or a smaller key. -/
def insertLast (key : α → κ) (x : α) : List α → List α
  | [] => [x]
  | y :: ys => if key x < key y then x :: y :: ys else y :: insertLast key x ys

theorem insertLast_perm : (insertLast key x xs).Perm (x :: xs) := by
  induction xs with
  | nil => exact .rfl
  | cons y ys ih =>
    simp only [insertLast]
    split
    · exact .rfl
    · exact (ih.cons y).trans (.swap x y ys)

@[simp] theorem mem_insertLast : y ∈ insertLast key x xs ↔ y = x ∨ y ∈ xs := by
  simp [insertLast_perm.mem_iff]

@[simp] theorem length_insertLast : (insertLast key x xs).length = xs.length + 1 :=
  insertLast_perm.length_eq

theorem ordered_insertLast (ordered : Ordered key xs) : Ordered key (insertLast key x xs) := by
  induction xs with
  | nil => simp [insertLast, Ordered]
  | cons y ys ih =>
    obtain ⟨least, rest⟩ := List.pairwise_cons.mp ordered
    simp only [insertLast]
    split
    · rename_i below
      refine List.pairwise_cons.mpr ⟨fun z member => ?_, ordered⟩
      rcases List.mem_cons.mp member with rfl | member
      · exact below.le
      · exact below.le.trans (least z member)
    · rename_i notBelow
      refine List.pairwise_cons.mpr ⟨fun z member => ?_, ih rest⟩
      rcases mem_insertLast.mp member with rfl | member
      · exact not_lt.mp notBelow
      · exact least z member

@[simp] theorem mem_group : x ∈ group key k xs ↔ x ∈ xs ∧ key x = k := by
  simp [group]

@[simp] theorem group_nil : group key k [] = [] := rfl

theorem group_cons : group key k (x :: xs) =
    if key x = k then x :: group key k xs else group key k xs := by
  by_cases same : key x = k <;> simp [group, same]

theorem group_append : group key k (xs ++ ys) = group key k xs ++ group key k ys := by
  simp [group]

theorem group_filter {p : α → Bool} : group key k (xs.filter p) = (group key k xs).filter p := by
  simp only [group, List.filter_filter, Bool.and_comm]

theorem group_eq_nil : group key k xs = [] ↔ ∀ x ∈ xs, key x ≠ k := by
  simp [group]

/-- Only the group of the new element changes, at its end: arrival order is kept at every key. -/
theorem group_insertLast (ordered : Ordered key xs) : group key k (insertLast key x xs) =
    if key x = k then group key k xs ++ [x] else group key k xs := by
  induction xs with
  | nil => simp only [insertLast, group_cons, group_nil]; split <;> rfl
  | cons y ys ih =>
    obtain ⟨least, rest⟩ := List.pairwise_cons.mp ordered
    simp only [insertLast]
    split
    · rename_i below
      rw [group_cons]
      split
      · rename_i same
        have empty : group key k (y :: ys) = [] := by
          refine group_eq_nil.mpr fun z member => ?_
          subst same
          rcases List.mem_cons.mp member with rfl | member
          · exact below.ne'
          · exact (below.trans_le (least z member)).ne'
        simp [empty]
      · rfl
    · rw [group_cons, group_cons, ih rest]
      split <;> split <;> simp

theorem ordered_erase [DecidableEq α] (ordered : Ordered key xs) : Ordered key (xs.erase x) :=
  ordered.sublist List.erase_sublist

/-- Only the group of the removed element changes. -/
theorem group_erase [DecidableEq α] (distinct : xs.Nodup) : group key k (xs.erase x) =
    if key x = k then (group key k xs).erase x else group key k xs := by
  have groupDistinct : (group key k xs).Nodup := distinct.filter _
  rw [distinct.erase_eq_filter, groupDistinct.erase_eq_filter, group, List.filter_filter]
  split
  · rw [group, List.filter_filter]
    exact List.filter_congr fun y _ => Bool.and_comm _ _
  · rename_i other
    refine List.filter_congr fun y _ => ?_
    have : key y = k → y ≠ x := by rintro same rfl; exact other same
    by_cases same : key y = k <;> simp_all

/-- An ordered list is determined by its groups, so two of them are compared key by key. -/
theorem ordered_ext (orderedX : Ordered key xs) (orderedY : Ordered key ys)
    (same : ∀ k, group key k xs = group key k ys) : xs = ys := by
  induction xs generalizing ys with
  | nil =>
    cases ys with
    | nil => rfl
    | cons y ys => simpa [group_cons] using same (key y)
  | cons x xs ih =>
    cases ys with
    | nil => simpa [group_cons] using same (key x)
    | cons y ys =>
      obtain ⟨leastX, restX⟩ := List.pairwise_cons.mp orderedX
      obtain ⟨leastY, restY⟩ := List.pairwise_cons.mp orderedY
      have keys : key x = key y := by
        have inY : x ∈ group key (key x) (y :: ys) := by rw [← same]; simp
        have inX : y ∈ group key (key y) (x :: xs) := by rw [same]; simp
        have above : ∀ z ∈ y :: ys, key y ≤ key z := by simpa using leastY
        have below : ∀ z ∈ x :: xs, key x ≤ key z := by simpa using leastX
        exact le_antisymm (below y (mem_group.mp inX).1) (above x (mem_group.mp inY).1)
      have heads : x = y := by
        have first := same (key x)
        rw [group_cons, group_cons, if_pos rfl, if_pos keys.symm] at first
        exact (List.cons.inj first).1
      subst heads
      refine congrArg (x :: ·) (ih restX restY fun k => ?_)
      have whole := same k
      simp only [group_cons] at whole
      split at whole
      · exact (List.cons.inj whole).2
      · exact whole

/-- The first element of the least key present leads the list. In a queue it is the one that is
served first. -/
theorem head_of_group (ordered : Ordered key xs) (least : ∀ y ∈ xs, k ≤ key y)
    (first : (group key k xs).head? = some x) : xs.head? = some x := by
  cases xs with
  | nil => simp at first
  | cons y ys =>
    have here : key y = k := by
      have member : x ∈ group key k (y :: ys) := List.mem_of_mem_head? first
      obtain ⟨member, atKey⟩ := mem_group.mp member
      refine le_antisymm ?_ (least y (by simp))
      rcases List.mem_cons.mp member with rfl | member
      · exact atKey.le
      · exact (List.rel_of_pairwise_cons ordered member).trans atKey.le
    rw [group_cons, if_pos here] at first
    simpa using first

theorem group_map {f : α → β} (keys : ∀ x ∈ xs, key' (f x) = key x) :
    group key' k (xs.map f) = (group key k xs).map f := by
  simp only [group, List.filter_map]
  congr 1
  exact List.filter_congr fun x member => by simp [keys x member]

theorem ordered_map {f : α → β} (keys : ∀ x ∈ xs, key' (f x) = key x)
    (ordered : Ordered key xs) : Ordered key' (xs.map f) := by
  refine List.pairwise_map.mpr (ordered.imp_of_mem fun {a b} memA memB le => ?_)
  rw [keys a memA, keys b memB]
  exact le

/-- Placing commutes with a map that leaves the keys alone. An abstract list is so kept in step
with a concrete one. -/
theorem map_insertLast {f : α → β} (keys : ∀ y ∈ x :: xs, key' (f y) = key y) :
    (insertLast key x xs).map f = insertLast key' (f x) (xs.map f) := by
  induction xs with
  | nil => rfl
  | cons y ys ih =>
    have atX := keys x (by simp)
    have atY := keys y (by simp)
    simp only [insertLast, List.map_cons, atX, atY]
    split
    · rfl
    · rw [List.map_cons, ih fun z member => keys z ?_]
      rcases List.mem_cons.mp member with rfl | member <;> simp [*]

/-- Stable sorting: insert the elements in list order. -/
def sort (key : α → κ) (xs : List α) : List α := xs.foldl (fun sorted x => insertLast key x sorted) []

private theorem foldl_insertLast {sorted : List α} (ordered : Ordered key sorted) :
    Ordered key (xs.foldl (fun sorted x => insertLast key x sorted) sorted) ∧
      ∀ k, group key k (xs.foldl (fun sorted x => insertLast key x sorted) sorted) =
        group key k sorted ++ group key k xs := by
  induction xs generalizing sorted with
  | nil => simp [ordered]
  | cons x xs ih =>
    obtain ⟨whole, groups⟩ := ih (ordered_insertLast (x := x) ordered)
    refine ⟨whole, fun k => ?_⟩
    rw [List.foldl_cons, groups, group_insertLast ordered, group_cons]
    split <;> simp

theorem sort_perm : (sort key xs).Perm xs := by
  have moved (sorted : List α) :
      (xs.foldl (fun sorted x => insertLast key x sorted) sorted).Perm (sorted ++ xs) := by
    induction xs generalizing sorted with
    | nil => simp
    | cons x xs ih =>
      refine (ih _).trans ((insertLast_perm.append_right xs).trans ?_)
      exact List.perm_middle.symm
  simpa [sort] using moved []

@[simp] theorem length_sort : (sort key xs).length = xs.length := sort_perm.length_eq

theorem ordered_sort : Ordered key (sort key xs) := (foldl_insertLast List.Pairwise.nil).1

/-- Sorting is stable: each group keeps the order in which it arrived. -/
theorem group_sort : group key k (sort key xs) = group key k xs :=
  (foldl_insertLast List.Pairwise.nil).2 k

/-- Sorting forgets only how the groups were interleaved, so an ordered list with the same groups
is the sorted one. -/
theorem sort_eq (ordered : Ordered key ys) (same : ∀ k, group key k xs = group key k ys) :
    sort key xs = ys :=
  ordered_ext ordered_sort ordered fun k => by rw [group_sort, same]

/-- Reading the groups in increasing key order gives the list back. A walk over the keys is so a
walk over the list. -/
theorem flatMap_group {keys : List κ} (ascending : keys.Pairwise (· < ·)) (ordered : Ordered key xs)
    (covered : ∀ x ∈ xs, key x ∈ keys) : (keys.flatMap fun k => group key k xs) = xs := by
  have groups (k : κ) : group key k (keys.flatMap fun k => group key k xs) =
      if k ∈ keys then group key k xs else [] := by
    clear covered
    induction keys with
    | nil => simp
    | cons first rest ih =>
      obtain ⟨less, ascending⟩ := List.pairwise_cons.mp ascending
      rw [List.flatMap_cons, group_append, ih ascending]
      by_cases same : k = first
      · subst same
        have absent : k ∉ rest := fun member => (less k member).false
        simp [absent, group]
      · have none : group key k (group key first xs) = [] :=
          group_eq_nil.mpr fun x member => by rw [(mem_group.mp member).2]; exact Ne.symm same
        simp [none, same]
  have flat : Ordered key (keys.flatMap fun k => group key k xs) := by
    refine List.pairwise_flatMap.mpr ⟨fun k _ => ?_, ascending.imp fun less a memA b memB => ?_⟩
    · exact ordered.filter _
    · rw [(mem_group.mp memA).2, (mem_group.mp memB).2]
      exact less.le
  refine ordered_ext flat ordered fun k => ?_
  rw [groups]
  split
  · rfl
  · rename_i absent
    refine (group_eq_nil.mpr fun x member same => absent ?_).symm
    rw [← same]
    exact covered x member

end Fexma.StableOrder
