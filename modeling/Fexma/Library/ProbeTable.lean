import Mathlib.Logic.Function.Basic
import Mathlib.Data.Nat.ModEq
import Mathlib.Data.Finset.Card
import Mathlib.Data.Finset.Range
import Mathlib.Data.List.Pairwise

/-! Open addressing on a circle of `count` buckets: linear probing, and deletion
that shifts later entries of a cluster back. The circle is read as a line by
cutting it somewhere; a table is well placed when some cut leaves every entry
reachable from its home bucket without leaving the line or crossing a gap. A
completely full table has such a cut too: right behind its last insertion. -/
namespace Fexma.ProbeTable

variable {κ ν : Type} {count : ℕ} {home : κ → ℕ} {cells cells' : ℕ → Option (κ × ν)}
variable {k k' : κ} {v v' : ν} {p q cut : ℕ}

/-- Some bucket holds this entry. -/
def Stored (count : ℕ) (cells : ℕ → Option (κ × ν)) (k : κ) (v : ν) : Prop :=
  ∃ p < count, cells p = some (k, v)

/-- No key is held twice. -/
def Distinct (count : ℕ) (cells : ℕ → Option (κ × ν)) : Prop :=
  ∀ p < count, ∀ q < count, ∀ k v v',
    cells p = some (k, v) → cells q = some (k, v') → p = q

/-- Read as a line from `cut`, every entry sits at or behind its home bucket
and every bucket on the way is occupied. -/
def PlacedAt (count : ℕ) (home : κ → ℕ) (cells : ℕ → Option (κ × ν)) (cut : ℕ) : Prop :=
  ∀ i < count, ∀ k v, cells ((cut + i) % count) = some (k, v) →
    ∃ h ≤ i, (cut + h) % count = home k ∧
      ∀ j, h ≤ j → j ≤ i → (cells ((cut + j) % count)).isSome

/-- A table on which probing finds exactly what is stored. -/
structure Placed (count : ℕ) (home : κ → ℕ) (cells : ℕ → Option (κ × ν)) : Prop where
  distinct : Distinct count cells
  line : ∃ cut, PlacedAt count home cells cut

/-! ### Positions on the circle -/

private theorem near_inj (count : ℕ) {a b : ℕ} (le : a ≤ b) (near : b < a + count)
    (same : a % count = b % count) : a = b := by
  have dvd : count ∣ b - a := (Nat.modEq_iff_dvd' le).mp same
  rcases Nat.eq_zero_or_pos (b - a) with zero | pos
  · omega
  · have := Nat.le_of_dvd pos dvd
    omega

private theorem line_inj {i j : ℕ} (hi : i < count) (hj : j < count)
    (same : (cut + i) % count = (cut + j) % count) : i = j := by
  rcases le_total i j with le | le
  · have := near_inj count (by omega) (by omega) same
    omega
  · have := near_inj count (by omega) (by omega) same.symm
    omega

/-- Every bucket has an index on the line. -/
private theorem line_index (cut : ℕ) (bound : p < count) : ∃ i < count, (cut + i) % count = p := by
  have positive : 0 < count := by omega
  refine ⟨(p + (count - cut % count)) % count, Nat.mod_lt _ positive, ?_⟩
  have below := Nat.mod_lt cut positive
  rw [Nat.add_mod_mod, ← Nat.mod_add_mod]
  have : cut % count + (p + (count - cut % count)) = p + count := by omega
  rw [this, Nat.add_mod_right, Nat.mod_eq_of_lt bound]

private theorem step_mod (x : ℕ) : (x % count + 1) % count = (x + 1) % count := by
  rw [Nat.mod_add_mod]

/-! ### Probing -/

/-- A probe for `k` ends at an empty bucket or at the entry of `k`. -/
def Stops (cells : ℕ → Option (κ × ν)) (k : κ) (p : ℕ) : Prop :=
  ∀ k' v, cells p = some (k', v) → k' = k

instance [DecidableEq κ] : Decidable (Stops cells k p) :=
  match held : cells p with
  | none => isTrue fun k' v found => by rw [held] at found; cases found
  | some (k', v) =>
    if same : k' = k then isTrue fun k'' v' found => by rw [held] at found; cases found; exact same
    else isFalse fun stops => same (stops k' v held)

theorem stops_iff : Stops cells k p ↔ cells p = none ∨ ∃ v, cells p = some (k, v) := by
  constructor
  · intro stops
    cases held : cells p with
    | none => exact .inl rfl
    | some entry =>
      obtain ⟨k', v⟩ := entry
      obtain rfl := stops k' v held
      exact .inr ⟨v, rfl⟩
  · rintro (empty | ⟨v, held⟩) k' v' found
    · rw [empty] at found; cases found
    · rw [held] at found; cases found; rfl

/-- Visit at most `fuel` buckets from `p` on and return where the probe stops. -/
def probe [DecidableEq κ] (count : ℕ) (cells : ℕ → Option (κ × ν)) (k : κ) : ℕ → ℕ → Option ℕ
  | 0, _ => none
  | fuel + 1, p => if Stops cells k p then some p else probe count cells k fuel ((p + 1) % count)

section Probing
variable [DecidableEq κ]

/-- The probe stops at the first stopping bucket within reach. -/
theorem probe_first {start d fuel : ℕ} (within : d < fuel)
    (stops : Stops cells k ((start + d) % count))
    (before : ∀ e < d, ¬ Stops cells k ((start + e) % count)) :
    probe count cells k fuel (start % count) = some ((start + d) % count) := by
  induction d generalizing start fuel with
  | zero =>
    obtain ⟨fuel, rfl⟩ := Nat.exists_eq_succ_of_ne_zero (by omega : fuel ≠ 0)
    have here : Stops cells k (start % count) := stops
    simp [probe, here]
  | succ d ih =>
    obtain ⟨fuel, rfl⟩ := Nat.exists_eq_succ_of_ne_zero (by omega : fuel ≠ 0)
    have notHere : ¬ Stops cells k (start % count) := before 0 (by omega)
    simp only [probe, notHere, ↓reduceIte, step_mod]
    have shift (e : ℕ) : start + 1 + e = start + (e + 1) := by omega
    have tail : probe count cells k fuel ((start + 1) % count) = some ((start + 1 + d) % count) :=
      ih (by omega) (by rw [shift]; exact stops)
        (fun e less => by rw [shift]; exact before (e + 1) (by omega))
    rw [tail, shift]

/-- A probe that has found a bucket has met it first: none of the buckets on the way stops it. -/
theorem probe_spec {start fuel : ℕ} (found : probe count cells k fuel (start % count) = some p) :
    ∃ d < fuel, p = (start + d) % count ∧ Stops cells k p ∧
      ∀ e < d, ¬ Stops cells k ((start + e) % count) := by
  induction fuel generalizing start with
  | zero => cases found
  | succ fuel ih =>
    simp only [probe] at found
    split at found
    · rename_i here
      cases found
      exact ⟨0, by omega, by simp, here, by simp⟩
    · rename_i notHere
      rw [step_mod] at found
      obtain ⟨d, less, rfl, stops, before⟩ := ih found
      have shift (e : ℕ) : start + 1 + e = start + (e + 1) := by omega
      refine ⟨d + 1, by omega, by rw [shift], stops, fun e below => ?_⟩
      cases e with
      | zero => exact notHere
      | succ e => rw [← shift]; exact before e (by omega)

theorem probe_none {start fuel : ℕ} (missed : probe count cells k fuel (start % count) = none) :
    ∀ e < fuel, ¬ Stops cells k ((start + e) % count) := by
  induction fuel generalizing start with
  | zero => simp
  | succ fuel ih =>
    simp only [probe] at missed
    split at missed
    · cases missed
    · rename_i notHere
      rw [step_mod] at missed
      intro e below
      cases e with
      | zero => exact notHere
      | succ e =>
        have := ih missed e (by omega)
        rwa [show start + 1 + e = start + (e + 1) by omega] at this

/-- A stored key is found in its own bucket. -/
theorem probe_stored (placed : Placed count home cells) (homes : ∀ k, home k < count)
    (bound : p < count) (held : cells p = some (k, v)) :
    probe count cells k count (home k) = some p := by
  obtain ⟨cut, line⟩ := placed.line
  obtain ⟨i, below, rfl⟩ := line_index cut bound
  obtain ⟨h, le, atHome, path⟩ := line i below k v held
  rw [← Nat.mod_eq_of_lt (homes k), ← atHome, Nat.mod_mod]
  have reach : cut + h + (i - h) = cut + i := by omega
  rw [probe_first (d := i - h) (by omega) (by rw [reach]; exact stops_iff.mpr (.inr ⟨v, held⟩)), reach]
  intro e less stops
  have occupied := path (h + e) (by omega) (by omega)
  rw [← Nat.add_assoc] at occupied
  rcases stops_iff.mp stops with empty | ⟨v', other⟩
  · simp [empty] at occupied
  · have := placed.distinct _ (Nat.mod_lt _ (by omega)) _ bound k v' v other held
    have := line_inj (i := h + e) (j := i) (by omega) below (by rw [← Nat.add_assoc]; exact this)
    omega

/-- The probe of an absent key ends at an empty bucket, if there is one. On a full table it comes
round without stopping. -/
theorem probe_absent (absent : ∀ v, ¬ Stored count cells k v) (homes : ∀ k, home k < count)
    (found : probe count cells k count (home k) = some p) : p < count ∧ cells p = none := by
  rw [← Nat.mod_eq_of_lt (homes k)] at found
  obtain ⟨d, less, rfl, stops, -⟩ := probe_spec found
  have bound : (home k + d) % count < count := Nat.mod_lt _ (by omega)
  rcases stops_iff.mp stops with empty | ⟨v, held⟩
  · exact ⟨bound, empty⟩
  · exact absurd ⟨_, bound, held⟩ (absent v)

/-- A probe that never stops has seen every bucket occupied. -/
theorem probe_full (homes : ∀ k, home k < count)
    (missed : probe count cells k count (home k) = none) :
    (∀ p < count, (cells p).isSome) ∧ ∀ v, ¬ Stored count cells k v := by
  rw [← Nat.mod_eq_of_lt (homes k)] at missed
  have never := probe_none missed
  have nowhere (p : ℕ) (bound : p < count) : ¬ Stops cells k p := by
    obtain ⟨i, below, rfl⟩ := line_index (home k) bound
    exact never i below
  refine ⟨fun p bound => ?_, fun v ⟨p, bound, held⟩ =>
    nowhere p bound (stops_iff.mpr (.inr ⟨v, held⟩))⟩
  have := mt (fun empty => stops_iff.mpr (.inl empty)) (nowhere p bound)
  exact Option.isSome_iff_ne_none.mpr this

end Probing

/-! ### Storing an entry -/

/-- An empty bucket is a place to cut the circle: no probe path crosses it. The line is so chosen
anew where an operation needs it. -/
theorem placedAt_recut {e : ℕ} (line : PlacedAt count home cells cut) (below : e < count)
    (empty : cells ((cut + e) % count) = none) : PlacedAt count home cells (cut + e + 1) := by
  intro i hi k v held
  rcases Nat.lt_or_ge (e + 1 + i) count with inside | outside
  · rw [show cut + e + 1 + i = cut + (e + 1 + i) by omega] at held
    obtain ⟨h, le, atHome, path⟩ := line (e + 1 + i) inside k v held
    have behind : e < h := by
      by_contra notBehind
      have := path e (by omega) (by omega)
      simp [empty] at this
    refine ⟨h - (e + 1), by omega, ?_, fun j lower upper => ?_⟩
    · rw [show cut + e + 1 + (h - (e + 1)) = cut + h by omega]; exact atHome
    · rw [show cut + e + 1 + j = cut + (e + 1 + j) by omega]
      exact path _ (by omega) (by omega)
  · have wrap (j : ℕ) (big : count ≤ e + 1 + j) :
        (cut + e + 1 + j) % count = (cut + (e + 1 + j - count)) % count := by
      rw [show cut + e + 1 + j = cut + (e + 1 + j - count) + count by omega, Nat.add_mod_right]
    rw [wrap i outside] at held
    obtain ⟨h, le, atHome, path⟩ := line (e + 1 + i - count) (by omega) k v held
    refine ⟨h + count - (e + 1), by omega, ?_, fun j lower upper => ?_⟩
    · rw [wrap _ (by omega), show e + 1 + (h + count - (e + 1)) - count = h by omega]
      exact atHome
    · rw [wrap j (by omega)]
      exact path _ (by omega) (by omega)

/-- Writing an absent key where its probe stops keeps the table well placed. The buckets that the
probe has passed are occupied, so the new entry is reached from its home. -/
theorem placed_store [DecidableEq κ] (placed : Placed count home cells) (homes : ∀ k, home k < count)
    (absent : ∀ v, ¬ Stored count cells k v)
    (found : probe count cells k count (home k) = some p) :
    Placed count home (Function.update cells p (some (k, v))) := by
  obtain ⟨bound, empty⟩ := probe_absent absent homes found
  constructor
  · intro a ha b hb key w w' heldA heldB
    simp only [Function.update_apply] at heldA heldB
    split at heldA <;> split at heldB
    · omega
    · cases heldA
      exact absurd ⟨b, hb, heldB⟩ (absent w')
    · cases heldB
      exact absurd ⟨a, ha, heldA⟩ (absent w)
    · exact placed.distinct a ha b hb key w w' heldA heldB
  · obtain ⟨cut, line⟩ := placed.line
    obtain ⟨e, below, atBucket⟩ := line_index cut bound
    have recut := placedAt_recut line below (by rw [atBucket]; exact empty)
    have lastIndex : (cut + e + 1 + (count - 1)) % count = p := by
      rw [show cut + e + 1 + (count - 1) = cut + e + count by omega, Nat.add_mod_right, atBucket]
    have kept (j : ℕ) (occupied : (cells j).isSome) :
        (Function.update cells p (some (k, v)) j).isSome := by
      rw [Function.update_apply]; split <;> simp [occupied]
    refine ⟨cut + e + 1, fun i hi key w held => ?_⟩
    rw [Function.update_apply] at held
    split at held
    · rename_i here
      cases held
      have last : i = count - 1 := line_inj hi (by omega) (here.trans lastIndex.symm)
      -- the probe path of the new entry becomes its path on the recut line
      rw [← Nat.mod_eq_of_lt (homes k)] at found
      obtain ⟨d, less, atStop, -, before⟩ := probe_spec found
      obtain ⟨h, hBelow, atHome⟩ := line_index (cut + e + 1) (homes k)
      have reach : h + d = count - 1 := by
        have same : (cut + e + 1 + (h + d)) % count = (cut + e + 1 + (count - 1)) % count := by
          rw [lastIndex, atStop, ← Nat.add_assoc, ← Nat.mod_add_mod, atHome]
        rcases le_total (h + d) (count - 1) with le | le
        · have := near_inj count (by omega) (by omega) same
          omega
        · have := near_inj count (by omega) (by omega) same.symm
          omega
      refine ⟨h, by omega, atHome, fun j lower upper => ?_⟩
      rcases eq_or_ne j (count - 1) with rfl | notLast
      · simp [lastIndex]
      · refine kept _ ?_
        have passed := before (j - h) (by omega)
        rw [← atHome, Nat.mod_add_mod, show cut + e + 1 + h + (j - h) = cut + e + 1 + j by omega,
          stops_iff] at passed
        exact Option.isSome_iff_ne_none.mpr fun empty => passed (.inl empty)
    · obtain ⟨h, le, atHome, path⟩ := recut i hi key w held
      exact ⟨h, le, atHome, fun j lower upper => kept _ (path j lower upper)⟩

/-- Writing an empty bucket adds one entry and touches no other. -/
theorem stored_store (bound : p < count) (empty : cells p = none) :
    Stored count (Function.update cells p (some (k, v))) k' v' ↔
      (k' = k ∧ v' = v) ∨ Stored count cells k' v' := by
  constructor
  · rintro ⟨q, hq, held⟩
    rw [Function.update_apply] at held
    split at held
    · cases held; exact .inl ⟨rfl, rfl⟩
    · exact .inr ⟨q, hq, held⟩
  · rintro (⟨rfl, rfl⟩ | ⟨q, hq, held⟩)
    · exact ⟨p, bound, by simp⟩
    · have apart : q ≠ p := by rintro rfl; rw [empty] at held; cases held
      exact ⟨q, hq, by rw [Function.update_of_ne apart]; exact held⟩

/-! ### Deleting an entry -/

/-- Buckets from `a` forward to `b`. -/
def distance (count a b : ℕ) : ℕ := (b + count - a) % count

/-- Walk the buckets behind a hole up to the first empty one and move every
entry whose probe path crosses the hole back into it. -/
def repair (count : ℕ) (home : κ → ℕ) :
    ℕ → ℕ → ℕ → (ℕ → Option (κ × ν)) → ℕ → Option (κ × ν)
  | 0, _, _, cells => cells
  | fuel + 1, hole, candidate, cells =>
    match cells candidate with
    | none => cells
    | some (k, v) =>
      if distance count (home k) hole < distance count (home k) candidate then
        repair count home fuel candidate ((candidate + 1) % count)
          (Function.update (Function.update cells hole (some (k, v))) candidate none)
      else repair count home fuel hole ((candidate + 1) % count) cells

private theorem distance_ahead {a b : ℕ} (le : a ≤ b) (near : b < a + count) :
    distance count (a % count) (b % count) = b - a := by
  have positive : 0 < count := by omega
  have below := Nat.mod_lt a positive
  unfold distance
  rw [Nat.add_sub_assoc below.le, Nat.mod_add_mod]
  have split := Nat.mod_add_div a count
  have reach : b + (count - a % count) = (b - a) + count * (a / count + 1) := by
    rw [Nat.mul_add, Nat.mul_one]
    omega
  rw [reach, Nat.add_mul_mod_self_left, Nat.mod_eq_of_lt (by omega)]

private theorem distance_behind {a b : ℕ} (less : b < a) (near : a ≤ b + count) :
    distance count (a % count) (b % count) = b + count - a := by
  rw [← Nat.add_mod_right b, distance_ahead (by omega) (by omega)]

/-- A table with one hole at index `j`: paths may cross the hole, but only for
entries at index `s` or later, which the repair has still to visit. -/
structure Holed (count : ℕ) (home : κ → ℕ) (cells : ℕ → Option (κ × ν)) (cut j s : ℕ) : Prop where
  hole : cells ((cut + j) % count) = none
  distinct : Distinct count cells
  path : ∀ i < count, ∀ k v, cells ((cut + i) % count) = some (k, v) →
    ∃ h ≤ i, (cut + h) % count = home k ∧
      (∀ m, h ≤ m → m ≤ i → m = j ∨ (cells ((cut + m) % count)).isSome) ∧
      (i < s → j < h ∨ i < j)

/-- Once no unvisited entry is left, the table is well placed again. -/
private theorem holed_done {j s : ℕ} (holed : Holed count home cells cut j s)
    (visited : ∀ i < count, s ≤ i → ∀ k v, cells ((cut + i) % count) = some (k, v) →
      ∀ h ≤ i, (∀ m, h ≤ m → m ≤ i → m = j ∨ (cells ((cut + m) % count)).isSome) → j < h) :
    PlacedAt count home cells cut := by
  intro i hi k v held
  obtain ⟨h, le, atHome, path, avoids⟩ := holed.path i hi k v held
  have clear : j < h ∨ i < j := by
    rcases Nat.lt_or_ge i s with less | ge
    · exact avoids less
    · exact .inl (visited i hi ge k v held h le path)
  refine ⟨h, le, atHome, fun m lower upper => ?_⟩
  rcases path m lower upper with here | occupied
  · omega
  · exact occupied

/-- On a well-placed table nothing before the hole moves into it. -/
private theorem repair_wrapped [DecidableEq κ] {j t fuel : ℕ} (line : PlacedAt count home cells cut)
    (hj : j < count) (le : t ≤ j) (hole : cells ((cut + j) % count) = none) :
    repair count home fuel ((cut + j) % count) ((cut + t) % count) cells = cells := by
  induction fuel generalizing t with
  | zero => rfl
  | succ fuel ih =>
    rcases Nat.eq_or_lt_of_le le with rfl | less
    · simp [repair, hole]
    · cases held : cells ((cut + t) % count) with
      | none => simp [repair, held]
      | some entry =>
        obtain ⟨k, v⟩ := entry
        obtain ⟨h, hle, atHome, -⟩ := line t (by omega) k v held
        have stays : ¬ distance count (home k) ((cut + j) % count) <
            distance count (home k) ((cut + t) % count) := by
          rw [← atHome, distance_ahead (by omega) (by omega), distance_ahead (by omega) (by omega)]
          omega
        simp only [repair, held, stays, ↓reduceIte, step_mod]
        exact ih (t := t + 1) (by omega)

/-- Moving an entry into the hole loses nothing. -/
private theorem stored_move {hole from_ : ℕ} (hHole : hole < count) (hFrom : from_ < count)
    (empty : cells hole = none) (held : cells from_ = some (k, v)) :
    Stored count (Function.update (Function.update cells hole (some (k, v))) from_ none) k' v' ↔
      Stored count cells k' v' := by
  have apart : hole ≠ from_ := by rintro rfl; rw [empty] at held; cases held
  constructor
  · rintro ⟨q, hq, found⟩
    simp only [Function.update_apply] at found
    split at found
    · cases found
    · split at found
      · cases found; exact ⟨from_, hFrom, held⟩
      · exact ⟨q, hq, found⟩
  · rintro ⟨q, hq, found⟩
    rcases eq_or_ne q from_ with rfl | other
    · rw [held] at found
      cases found
      exact ⟨hole, hHole, by simp [apart]⟩
    · have notHole : q ≠ hole := by rintro rfl; rw [empty] at found; cases found
      exact ⟨q, hq, by simp [other, notHole, found]⟩

private theorem holed_move {j s : ℕ} (holed : Holed count home cells cut j s) (less : j < s)
    (hs : s < count) (held : cells ((cut + s) % count) = some (k, v)) {h : ℕ}
    (atHome : (cut + h) % count = home k) (crosses : h ≤ j)
    (path : ∀ m, h ≤ m → m ≤ s → m = j ∨ (cells ((cut + m) % count)).isSome) :
    Holed count home (Function.update (Function.update cells ((cut + j) % count) (some (k, v)))
      ((cut + s) % count) none) cut s (s + 1) := by
  have at_ (i : ℕ) (hi : i < count) :
      Function.update (Function.update cells ((cut + j) % count) (some (k, v)))
        ((cut + s) % count) none ((cut + i) % count) =
      if i = s then none else if i = j then some (k, v) else cells ((cut + i) % count) := by
    have same (t : ℕ) (ht : t < count) : (cut + i) % count = (cut + t) % count ↔ i = t :=
      ⟨line_inj hi ht, fun eq => by rw [eq]⟩
    simp only [Function.update_apply, same s hs, same j (by omega)]
  refine ⟨by simp, ?_, ?_⟩
  · intro p hp q hq key w w' heldP heldQ
    obtain ⟨a, ha, rfl⟩ := line_index cut hp
    obtain ⟨b, hb, rfl⟩ := line_index cut hq
    have sBound : (cut + s) % count < count := Nat.mod_lt _ (by omega)
    rw [at_ a ha] at heldP
    rw [at_ b hb] at heldQ
    split at heldP <;> split at heldQ <;> try contradiction
    split at heldP <;> split at heldQ
    · simp_all
    · cases heldP
      have := holed.distinct _ sBound _ hq _ _ _ held heldQ
      have := line_inj hs hb this
      omega
    · cases heldQ
      have := holed.distinct _ hp _ sBound _ _ _ heldP held
      have := line_inj ha hs this
      omega
    · exact holed.distinct _ hp _ hq _ _ _ heldP heldQ
  · intro i hi key w found
    rw [at_ i hi] at found
    have through {m : ℕ} (hm : m < count)
        (occupied : m = j ∨ (cells ((cut + m) % count)).isSome) :
        m = s ∨ (Function.update (Function.update cells ((cut + j) % count) (some (k, v)))
          ((cut + s) % count) none ((cut + m) % count)).isSome := by
      rw [at_ m hm]
      rcases eq_or_ne m s with rfl | other
      · exact .inl rfl
      · right
        rw [if_neg other]
        split
        · rfl
        · exact occupied.resolve_left ‹_›
    split at found
    · cases found
    · split at found
      · cases found
        subst_vars
        exact ⟨h, crosses, atHome, fun m lower upper => through (by omega) (path m lower (by omega)),
          fun _ => .inr less⟩
      · obtain ⟨h', le, atHome', path', avoids⟩ := holed.path i hi key w found
        refine ⟨h', le, atHome', fun m lower upper => through (by omega) (path' m lower upper),
          fun early => .inr ?_⟩
        omega

/-- Repairing a holed table loses no entry and leaves every probe path whole. The scan moves into
the hole each entry that it would cut off, and goes on from the hole that this leaves. -/
theorem repair_spec [DecidableEq κ] {j s : ℕ} (fuel : ℕ) (holed : Holed count home cells cut j s)
    (hj : j < count) (less : j < s) (enough : count ≤ s + fuel) (within : s + fuel ≤ j + count) :
    Placed count home (repair count home fuel ((cut + j) % count) ((cut + s) % count) cells) ∧
      ∀ k v, Stored count (repair count home fuel ((cut + j) % count) ((cut + s) % count) cells) k v ↔
        Stored count cells k v := by
  induction fuel generalizing j s cells with
  | zero => exact ⟨⟨holed.distinct, cut, holed_done holed fun i hi ge => by omega⟩, fun _ _ => .rfl⟩
  | succ fuel ih =>
    rcases Nat.lt_or_ge s count with hs | outside
    · cases held : cells ((cut + s) % count) with
      | none =>
        have ends : repair count home (fuel + 1) ((cut + j) % count) ((cut + s) % count) cells =
            cells := by simp only [repair, held]
        rw [ends]
        refine ⟨⟨holed.distinct, cut, holed_done holed ?_⟩, fun _ _ => .rfl⟩
        intro i hi ge k v found h le path
        -- an unvisited path crossing the hole would cross the empty candidate too
        by_contra crosses
        rcases path s (by omega) ge with here | occupied
        · omega
        · simp [held] at occupied
      | some entry =>
        obtain ⟨k, v⟩ := entry
        obtain ⟨h, le, atHome, path, -⟩ := holed.path s hs k v held
        have candidateAt : distance count (home k) ((cut + s) % count) = s - h := by
          rw [← atHome, distance_ahead (by omega) (by omega)]; omega
        simp only [repair, held, step_mod]
        rcases Nat.lt_or_ge j h with beyond | crosses
        · have holeAt : distance count (home k) ((cut + j) % count) = j + count - h := by
            rw [← atHome, distance_behind (by omega) (by omega)]; omega
          have stays : ¬ distance count (home k) ((cut + j) % count) <
              distance count (home k) ((cut + s) % count) := by
            rw [holeAt, candidateAt]; omega
          rw [if_neg stays]
          refine ih (s := s + 1) ⟨holed.hole, holed.distinct, fun i hi key w found => ?_⟩ hj
            (by omega) (by omega) (by omega)
          obtain ⟨h', le', atHome', path', avoids⟩ := holed.path i hi key w found
          refine ⟨h', le', atHome', path', fun early => ?_⟩
          rcases Nat.lt_or_ge i s with below | notBelow
          · exact avoids below
          · obtain rfl : i = s := by omega
            have same : home key = home k := by rw [held] at found; cases found; rfl
            have origin : (cut + h') % count = (cut + h) % count := by rw [atHome', atHome, same]
            have := line_inj (by omega) (by omega) origin
            omega
        · have holeAt : distance count (home k) ((cut + j) % count) = j - h := by
            rw [← atHome, distance_ahead (by omega) (by omega)]; omega
          have moves : distance count (home k) ((cut + j) % count) <
              distance count (home k) ((cut + s) % count) := by
            rw [holeAt, candidateAt]; omega
          rw [if_pos moves]
          obtain ⟨placed, stored⟩ := ih (s := s + 1)
            (holed_move holed less hs held atHome crosses path) hs (by omega) (by omega) (by omega)
          refine ⟨placed, fun key w => (stored key w).trans ?_⟩
          exact stored_move (Nat.mod_lt _ (by omega)) (Nat.mod_lt _ (by omega)) holed.hole held
    · have line := holed_done holed fun i hi ge => by omega
      have wrap : (cut + s) % count = (cut + (s - count)) % count := by
        rw [show cut + s = cut + (s - count) + count by omega, Nat.add_mod_right]
      rw [wrap, repair_wrapped line hj (by omega) holed.hole]
      exact ⟨⟨holed.distinct, cut, line⟩, fun _ _ => .rfl⟩

/-- Deleting the entry in bucket `p` and repairing the cluster behind it removes exactly that
key. All other keys are found where they then are. -/
theorem erase_spec [DecidableEq κ] (placed : Placed count home cells)
    (bound : p < count) (held : cells p = some (k, v)) :
    Placed count home
        (repair count home (count - 1) p ((p + 1) % count) (Function.update cells p none)) ∧
      ∀ k' v', Stored count
          (repair count home (count - 1) p ((p + 1) % count) (Function.update cells p none)) k' v' ↔
        k' ≠ k ∧ Stored count cells k' v' := by
  obtain ⟨cut, line⟩ := placed.line
  obtain ⟨j, hj, rfl⟩ := line_index cut bound
  have others {q : ℕ} {entry : κ × ν}
      (found : Function.update cells ((cut + j) % count) none q = some entry) :
      q ≠ (cut + j) % count ∧ cells q = some entry := by
    rw [Function.update_apply] at found
    split at found
    · cases found
    · exact ⟨‹_›, found⟩
  have holed : Holed count home (Function.update cells ((cut + j) % count) none) cut j (j + 1) := by
    refine ⟨by simp, fun a ha b hb key w w' heldA heldB =>
      placed.distinct a ha b hb key w w' (others heldA).2 (others heldB).2, ?_⟩
    intro i hi key w found
    obtain ⟨apart, found⟩ := others found
    obtain ⟨h, le, atHome, path⟩ := line i hi key w found
    refine ⟨h, le, atHome, fun m lower upper => ?_, fun early => .inr ?_⟩
    · rcases eq_or_ne m j with rfl | other
      · exact .inl rfl
      · refine .inr ?_
        rw [Function.update_of_ne fun same => other (line_inj (by omega) hj same)]
        exact path m lower upper
    · have : i ≠ j := fun same => apart (by rw [same])
      omega
  rw [step_mod, Nat.add_assoc]
  obtain ⟨whole, stored⟩ := repair_spec (count - 1) holed hj (by omega) (by omega) (by omega)
  refine ⟨whole, fun k' v' => (stored k' v').trans ⟨?_, ?_⟩⟩
  · rintro ⟨q, hq, found⟩
    obtain ⟨apart, found⟩ := others found
    refine ⟨?_, q, hq, found⟩
    rintro rfl
    exact apart (placed.distinct q hq _ bound k' v' v found held)
  · rintro ⟨other, q, hq, found⟩
    have apart : q ≠ (cut + j) % count := by
      rintro rfl; rw [held] at found; cases found; exact other rfl
    exact ⟨q, hq, by rw [Function.update_of_ne apart]; exact found⟩

theorem placed_empty (home : κ → ℕ) (empty : ∀ p < count, cells p = none) :
    Placed count home cells := by
  constructor
  · intro p hp q hq k v v' found
    rw [empty p hp] at found
    cases found
  · refine ⟨0, fun i hi k v found => ?_⟩
    rw [empty _ (Nat.mod_lt _ (by omega))] at found
    cases found

/-- A table with fewer entries than buckets has an empty bucket, so the probe
for an absent key ends. Entries are counted by their values, here distinct. -/
theorem exists_empty [DecidableEq ν] (placed : Placed count home cells) (values : List ν)
    (few : values.length < count) (listed : ∀ k v, Stored count cells k v → v ∈ values)
    (separate : ∀ k k' v, Stored count cells k v → Stored count cells k' v → k = k') :
    ∃ p < count, cells p = none := by
  by_contra noneEmpty
  have occupied (p : ℕ) (bound : p < count) : ∃ entry, cells p = some entry :=
    Option.ne_none_iff_exists'.mp fun empty => noneEmpty ⟨p, bound, empty⟩
  have injective : Set.InjOn (fun p => (cells p).map Prod.snd) (Finset.range count) := by
    intro p hp q hq same
    simp only [Finset.coe_range, Set.mem_Iio] at hp hq
    obtain ⟨⟨k, v⟩, heldP⟩ := occupied p hp
    obtain ⟨⟨k', v'⟩, heldQ⟩ := occupied q hq
    simp only [heldP, heldQ, Option.map_some, Option.some.injEq] at same
    subst same
    obtain rfl := separate k k' v ⟨p, hp, heldP⟩ ⟨q, hq, heldQ⟩
    exact placed.distinct p hp q hq k v v heldP heldQ
  have fits := Finset.card_le_card_of_injOn (t := (values.map some).toFinset) _
    (fun p hp => by
      obtain ⟨⟨k, v⟩, held⟩ := occupied p (by simpa using hp)
      simpa [held] using listed k v ⟨p, by simpa using hp, held⟩) injective
  have bound := (values.map some).toFinset_card_le
  simp only [Finset.card_range, List.length_map] at fits bound
  omega

/-! ### Counting and reaching -/

/-- The keys held, bucket by bucket. -/
def keys (count : ℕ) (cells : ℕ → Option (κ × ν)) : List κ :=
  (List.range count).filterMap fun p => (cells p).map Prod.fst

/-- The keys are listed from the buckets, whether or not a probe would find them. -/
theorem mem_keys : k ∈ keys count cells ↔ ∃ v, Stored count cells k v := by
  simp only [keys, List.mem_filterMap, List.mem_range, Option.map_eq_some_iff]
  constructor
  · rintro ⟨p, bound, ⟨k, v⟩, held, rfl⟩
    exact ⟨v, p, bound, held⟩
  · rintro ⟨v, p, bound, held⟩
    exact ⟨p, bound, (k, v), held, rfl⟩

/-- Keys are listed once each when none is held twice. -/
theorem nodup_keys_iff : (keys count cells).Nodup ↔ Distinct count cells := by
  rw [keys, List.Nodup, List.pairwise_filterMap]
  simp only [Option.map_eq_some_iff]
  constructor
  · intro apart p hp q hq k v v' heldP heldQ
    by_contra other
    have symmetric : Std.Symm fun p q => ∀ k, (∃ entry, cells p = some entry ∧ entry.1 = k) →
        ∀ k', (∃ entry, cells q = some entry ∧ entry.1 = k') → k ≠ k' :=
      ⟨fun p q differ k atQ k' atP same => differ k' atP k atQ same.symm⟩
    exact apart.forall (List.mem_range.mpr hp) (List.mem_range.mpr hq) other
      k ⟨_, heldP, rfl⟩ k ⟨_, heldQ, rfl⟩ rfl
  · intro distinct
    refine List.nodup_range.pairwise_of_forall_ne fun p hp q hq other => ?_
    rintro k ⟨⟨k, v⟩, heldP, rfl⟩ k' ⟨⟨k', v'⟩, heldQ, rfl⟩ same
    obtain rfl : k = k' := same
    exact other (distinct p (List.mem_range.mp hp) q (List.mem_range.mp hq) k v v' heldP heldQ)

/-- As many keys as buckets: every bucket holds one. -/
theorem length_keys_eq_iff : (keys count cells).length = count ↔ ∀ p < count, (cells p).isSome := by
  have full := @List.filterMap_length_eq_length _ _ (fun p => (cells p).map Prod.fst) (List.range count)
  rw [List.length_range] at full
  rw [keys, full]
  simp only [List.mem_range, Option.isSome_map]

/-- An entry is reached from its home bucket across occupied buckets. -/
theorem Placed.reachable (placed : Placed count home cells) (bound : p < count)
    (held : cells p = some (k, v)) :
    ∃ d < count, (home k + d) % count = p ∧ ∀ e ≤ d, (cells ((home k + e) % count)).isSome := by
  obtain ⟨cut, line⟩ := placed.line
  obtain ⟨i, below, rfl⟩ := line_index cut bound
  obtain ⟨h, le, atHome, path⟩ := line i below k v held
  have forward (e : ℕ) : (home k + e) % count = (cut + (h + e)) % count := by
    rw [← atHome, Nat.mod_add_mod, Nat.add_assoc]
  refine ⟨i - h, by omega, ?_, fun e within => ?_⟩
  · rw [forward, Nat.add_sub_of_le le]
  · rw [forward]
    exact path (h + e) (by omega) (by omega)

end Fexma.ProbeTable
