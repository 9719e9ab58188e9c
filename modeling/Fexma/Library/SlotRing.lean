import Mathlib.Data.Nat.Notation
import Mathlib.Logic.Function.Basic
import Mathlib.Tactic.SplitIfs

/-! A ring of slots that absolute positions share. Positions of one window of the
ring's size never share a slot, so writing one of them leaves the others alone. -/
namespace Fexma.SlotRing

variable {α : Type} {capacity first position other : ℕ} {slots : ℕ → α} {value : α}

/-- The slot of a position. -/
def read (capacity : ℕ) (slots : ℕ → α) (position : ℕ) : α := slots (position % capacity)

def write (capacity : ℕ) (slots : ℕ → α) (position : ℕ) (value : α) : ℕ → α :=
  Function.update slots (position % capacity) value

/-- Within a window of the ring's size a slot has one position, so two positions of a window that
share a slot are the same one. -/
theorem mod_inj (inside : first ≤ position ∧ position < first + capacity)
    (inside' : first ≤ other ∧ other < first + capacity)
    (same : position % capacity = other % capacity) : position = other := by
  rcases Nat.le_total position other with le | le
  · have gap : (other - position) % capacity = 0 := Nat.sub_mod_eq_zero_of_mod_eq same.symm
    rw [Nat.mod_eq_of_lt (by omega)] at gap
    omega
  · have gap : (position - other) % capacity = 0 := Nat.sub_mod_eq_zero_of_mod_eq same
    rw [Nat.mod_eq_of_lt (by omega)] at gap
    omega

@[simp] theorem read_write : read capacity (write capacity slots position value) position = value :=
  Function.update_self _ _ _

/-- A write is seen at its own position only, as long as both positions lie in one window. -/
theorem read_write_ne (inside : first ≤ position ∧ position < first + capacity)
    (inside' : first ≤ other ∧ other < first + capacity) (apart : other ≠ position) :
    read capacity (write capacity slots position value) other = read capacity slots other :=
  Function.update_of_ne (fun same => apart (mod_inj inside' inside same)) _ _

/-- The slot of the next position is the next slot, or the first one behind the last. -/
theorem succ_mod (some_slots : 0 < capacity) : (position + 1) % capacity =
    if position % capacity + 1 = capacity then 0 else position % capacity + 1 := by
  have inside := Nat.mod_lt position some_slots
  have split : position + 1 = position % capacity + 1 + capacity * (position / capacity) := by
    have := Nat.div_add_mod position capacity
    omega
  rw [split, Nat.add_mul_mod_self_left]
  split_ifs with last
  · rw [last, Nat.mod_self]
  · exact Nat.mod_eq_of_lt (by omega)

end Fexma.SlotRing
