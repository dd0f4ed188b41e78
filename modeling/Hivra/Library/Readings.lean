import Mathlib.Order.Basic

/-!
# Readings of a clock

A call reads the clock several times, and the clock never goes back between two readings.
How far it runs before each of them is left open.
-/

namespace Hivra.Library

structure Readings where
  ticks : Nat → Nat

namespace Readings

/-- The readings of a call that begins at `start`. -/
def clock (readings : Readings) (start : Int) : Nat → Int
  | 0 => start + readings.ticks 0
  | reading + 1 => readings.clock start reading + readings.ticks (reading + 1)

variable (readings : Readings) (start : Int)

theorem clock_step (reading : Nat) :
    readings.clock start reading ≤ readings.clock start (reading + 1) := by
  simp only [clock]
  omega

theorem clock_mono {first second : Nat} (order : first ≤ second) :
    readings.clock start first ≤ readings.clock start second := by
  induction second with
  | zero =>
    have isZero := Nat.le_zero.mp order
    subst isZero
    exact Int.le_refl _
  | succ second ih =>
    by_cases last : first = second + 1
    · subst last
      exact Int.le_refl _
    · have shorter := ih (by omega)
      have step := readings.clock_step start second
      omega

theorem start_le_clock (reading : Nat) : start ≤ readings.clock start reading := by
  have first := readings.clock_mono start (Nat.zero_le reading)
  have zero : readings.clock start 0 = start + readings.ticks 0 := rfl
  omega

end Readings

end Hivra.Library
