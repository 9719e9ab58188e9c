import Mathlib.Algebra.Group.Int.Defs
import Mathlib.Data.Int.Order.Basic

/-! Machine arithmetic that stops where it is not meant to go: a subtraction below zero, a
division by zero, a shift of a negative number. An evaluation that comes to its value has met
none of these. -/
namespace Fexma.GuardedArithmetic

inductive Fault where
  | underflow
  | divisionByZero
  | negativeShift
  deriving DecidableEq, Repr

/-- An evaluation that may stop at a fault. -/
abbrev Guarded := Except Fault

theorem ok_bind {α β : Type} (value : α) (next : α → Guarded β) :
    (Except.ok value >>= next) = next value := rfl

section Operations
variable {α : Type} [LT α] [DecidableLT α]

def subtract [Sub α] (left right : α) : Guarded α :=
  if left < right then .error .underflow else .ok (left - right)

def divide [Div α] [Zero α] [DecidableEq α] (left right : α) : Guarded α :=
  if right = 0 then .error .divisionByZero else .ok (left / right)

def shiftLeft (value : ℤ) (count : ℕ) : Guarded ℤ :=
  if value < 0 then .error .negativeShift else .ok (value * 2 ^ count)

/-- A subtraction whose operands are in order meets no fault. This is the condition that has to
be shown wherever a difference is evaluated. -/
theorem subtract_ok [Sub α] {left right : α} (ordered : ¬ left < right) :
    subtract left right = .ok (left - right) := if_neg ordered

omit [LT α] [DecidableLT α] in
theorem divide_ok [Div α] [Zero α] [DecidableEq α] {left right : α} (nonzero : right ≠ 0) :
    divide left right = .ok (left / right) := if_neg nonzero

theorem shiftLeft_ok (value count : ℕ) : shiftLeft value count = .ok (value * 2 ^ count) :=
  if_neg (Int.not_lt.mpr (Int.natCast_nonneg value))

end Operations

end Fexma.GuardedArithmetic
