import Mathlib.Data.Nat.Notation
import Mathlib.Data.List.Range
import Mathlib.Logic.Function.Basic

/-! Bitmaps kept in 64-bit words: single-bit updates, and scans for the lowest
and the highest set bit of one word or of a row of words. -/
namespace Fexma.WordBitmap

variable {mask : BitVec 64} {words : ℕ → BitVec 64} {i j n : ℕ}

/-- `mask | (1 << i)`. -/
def setBit (mask : BitVec 64) (i : ℕ) : BitVec 64 := mask ||| (1#64 <<< i)

/-- `mask & ~(1 << i)`. -/
def clearBit (mask : BitVec 64) (i : ℕ) : BitVec 64 := mask &&& ~~~(1#64 <<< i)

/-- The lowest set bit of a non-zero word. -/
def lowest (mask : BitVec 64) : ℕ := mask.ctz.toNat

/-- The highest set bit of a non-zero word. -/
def highest (mask : BitVec 64) : ℕ := 63 - mask.clz.toNat

/-- Bit `i` of a row of words. -/
def bitAt (words : ℕ → BitVec 64) (i : ℕ) : Bool := (words (i / 64)).getLsbD (i % 64)

/-- The lowest set bit of the first `n` words. -/
def firstSet (words : ℕ → BitVec 64) (n : ℕ) : Option ℕ :=
  ((List.range n).find? fun w => words w ≠ 0).map fun w => w * 64 + lowest (words w)

/-- The highest set bit of the first `n` words. -/
def lastSet (words : ℕ → BitVec 64) : ℕ → Option ℕ
  | 0 => none
  | n + 1 => if words n ≠ 0 then some (n * 64 + highest (words n)) else lastSet words n

theorem getLsbD_setBit (bound : j < 64) :
    (setBit mask i).getLsbD j = (mask.getLsbD j || decide (j = i)) := by
  simp only [setBit, BitVec.getLsbD_or, BitVec.getLsbD_shiftLeft, BitVec.getLsbD_one, bound]
  grind

theorem getLsbD_clearBit (bound : j < 64) :
    (clearBit mask i).getLsbD j = (mask.getLsbD j && decide (j ≠ i)) := by
  simp only [clearBit, BitVec.getLsbD_and, BitVec.getLsbD_not, BitVec.getLsbD_shiftLeft,
    BitVec.getLsbD_one, bound]
  grind

theorem eq_zero_iff : mask = 0 ↔ ∀ i < 64, mask.getLsbD i = false := by
  constructor
  · rintro rfl i -
    simp
  · intro clear
    exact BitVec.eq_of_getLsbD_eq fun i bound => by simpa using clear i bound

theorem ne_zero_iff : mask ≠ 0 ↔ ∃ i < 64, mask.getLsbD i = true := by
  rw [Ne, eq_zero_iff]
  simp

theorem lowest_set (nonzero : mask ≠ 0) : mask.getLsbD (lowest mask) = true :=
  BitVec.getLsbD_true_ctz_of_ne_zero nonzero

theorem lowest_lt (nonzero : mask ≠ 0) : lowest mask < 64 :=
  BitVec.lt_of_getLsbD (lowest_set nonzero)

theorem lowest_le (set : mask.getLsbD i = true) : lowest mask ≤ i := by
  by_contra below
  have := BitVec.getLsbD_false_of_lt_ctz (x := mask) (i := i) (by simpa [lowest] using below)
  simp [set] at this

theorem highest_set (nonzero : mask ≠ 0) : mask.getLsbD (highest mask) = true :=
  BitVec.getLsbD_true_clz_of_ne_zero (by decide) nonzero

theorem highest_lt (nonzero : mask ≠ 0) : highest mask < 64 :=
  BitVec.lt_of_getLsbD (highest_set nonzero)

theorem le_highest (set : mask.getLsbD i = true) : i ≤ highest mask := by
  by_contra above
  have small := BitVec.toNat_lt_two_pow_sub_clz (x := mask)
  have big : 2 ^ i ≤ mask.toNat := Nat.ge_two_pow_of_testBit set
  have := (Nat.pow_lt_pow_iff_right (by decide : 1 < 2)).mp (big.trans_lt small)
  unfold highest at above
  omega

/-- Setting a bit in its word sets it in the row, and no other. -/
theorem bitAt_setBit (w : ℕ) :
    bitAt (Function.update words (i / 64) (setBit (words (i / 64)) (i % 64))) w =
      (bitAt words w || decide (w = i)) := by
  unfold bitAt
  rw [Function.update_apply]
  split
  · rename_i word
    rw [word]
    rw [getLsbD_setBit (Nat.mod_lt _ (by decide))]
    congr 2
    exact propext ⟨fun same => by omega, fun same => by omega⟩
  · have apart : w ≠ i := by rintro rfl; contradiction
    simp [apart]

theorem bitAt_clearBit (w : ℕ) :
    bitAt (Function.update words (i / 64) (clearBit (words (i / 64)) (i % 64))) w =
      (bitAt words w && decide (w ≠ i)) := by
  unfold bitAt
  rw [Function.update_apply]
  split
  · rename_i word
    rw [word]
    rw [getLsbD_clearBit (Nat.mod_lt _ (by decide))]
    congr 2
    exact propext ⟨fun apart same => by omega, fun apart same => by omega⟩
  · have apart : w ≠ i := by rintro rfl; contradiction
    simp [apart]

theorem bitAt_in_word {w b : ℕ} (bound : b < 64) :
    bitAt words (w * 64 + b) = (words w).getLsbD b := by
  have word : (w * 64 + b) / 64 = w := by omega
  have bit : (w * 64 + b) % 64 = b := by omega
  simp [bitAt, word, bit]

/-- A word of the row is not zero when some bit that lies in it is set. The scans skip words by
this test. -/
theorem word_ne_zero_iff {w : ℕ} : words w ≠ 0 ↔ ∃ i, i / 64 = w ∧ bitAt words i = true := by
  rw [ne_zero_iff]
  constructor
  · rintro ⟨b, bound, set⟩
    exact ⟨w * 64 + b, by omega, by rw [bitAt_in_word bound]; exact set⟩
  · rintro ⟨i, rfl, set⟩
    exact ⟨i % 64, Nat.mod_lt _ (by decide), set⟩

/-- The forward scan finds the least set bit: the words in front of its word are zero, and within
the word it is the lowest one. -/
theorem firstSet_some (found : firstSet words n = some i) :
    i < n * 64 ∧ bitAt words i = true ∧ ∀ j, bitAt words j = true → i ≤ j := by
  simp only [firstSet, Option.map_eq_some_iff, List.find?_range_eq_some] at found
  obtain ⟨w, ⟨nonzero, inside, before⟩, rfl⟩ := found
  have nonzero : words w ≠ 0 := by simpa using nonzero
  have bound := lowest_lt nonzero
  have inside : w < n := by simpa using inside
  refine ⟨by omega, by rw [bitAt_in_word bound]; exact lowest_set nonzero, fun j set => ?_⟩
  rcases Nat.lt_trichotomy (j / 64) w with less | same | more
  · have empty := before (j / 64) less
    exact absurd (word_ne_zero_iff.mpr ⟨j, rfl, set⟩) (by simpa using empty)
  · have := lowest_le (show (words w).getLsbD (j % 64) = true by rw [← same]; exact set)
    omega
  · omega

theorem firstSet_none (missed : firstSet words n = none) (inside : i < n * 64) :
    bitAt words i = false := by
  simp only [firstSet, Option.map_eq_none_iff, List.find?_range_eq_none] at missed
  have empty := missed (i / 64) (by omega)
  by_contra set
  exact absurd (word_ne_zero_iff.mpr ⟨i, rfl, by simpa using set⟩) (by simpa using empty)

theorem lastSet_none (missed : lastSet words n = none) (inside : i < n * 64) :
    bitAt words i = false := by
  induction n with
  | zero => omega
  | succ n ih =>
    simp only [lastSet] at missed
    split at missed
    · cases missed
    · rename_i empty
      rcases Nat.lt_or_ge i (n * 64) with less | ge
      · exact ih missed less
      · by_contra set
        exact empty (word_ne_zero_iff.mpr ⟨i, by omega, by simpa using set⟩)

/-- The backward scan finds the greatest set bit below its bound. -/
theorem lastSet_some (found : lastSet words n = some i) :
    i < n * 64 ∧ bitAt words i = true ∧ ∀ j < n * 64, bitAt words j = true → j ≤ i := by
  induction n with
  | zero => cases found
  | succ n ih =>
    simp only [lastSet] at found
    split at found
    · rename_i nonzero
      cases found
      have bound := highest_lt nonzero
      refine ⟨by omega, by rw [bitAt_in_word bound]; exact highest_set nonzero, fun j inside set => ?_⟩
      rcases Nat.lt_or_ge j (n * 64) with less | ge
      · omega
      · have word : j / 64 = n := by omega
        have := le_highest (show (words n).getLsbD (j % 64) = true by rw [← word]; exact set)
        omega
    · rename_i empty
      obtain ⟨inside, set, greatest⟩ := ih found
      refine ⟨by omega, set, fun j below setJ => ?_⟩
      rcases Nat.lt_or_ge j (n * 64) with less | ge
      · exact greatest j less setJ
      · exact absurd (word_ne_zero_iff.mpr ⟨j, by omega, setJ⟩) empty

end Fexma.WordBitmap
