import Mathlib.Data.Int.Log
import Mathlib.Data.Rat.Floor
import Mathlib.Tactic.FieldSimp
import Mathlib.Tactic.Linarith
import Mathlib.Tactic.Positivity

/-!
# Rounding to doubles

What a product or a quotient of non-negative integers is as a double: 53 significant bits,
the even one of two equally near.  Exponents are not bounded, so nothing is infinite here.
Below `2 ^ 53` whole numbers are exact, and so are the floor and the ceiling of their quotients.
-/

namespace Hivra.Library

def roundHalfEven (amount : ℚ) : Int :=
  let low := ⌊amount⌋
  if amount - low < 1 / 2 ∨ amount - low = 1 / 2 ∧ low % 2 = 0 then low else low + 1

/-- How far apart the doubles around an amount are. -/
def doubleSpacing (amount : ℚ) : ℚ :=
  2 ^ (Int.log 2 amount - 52)

def toDouble (amount : ℚ) : ℚ :=
  roundHalfEven (amount / doubleSpacing amount) * doubleSpacing amount

/-- `left * right` of two whole doubles. -/
def doubleProduct (left right : Nat) : Nat :=
  ⌊toDouble ((left * right : Nat) : ℚ)⌋₊

/-- `Math.ceil(amount / divisor)`. -/
def ceilQuotient (amount divisor : Nat) : Nat :=
  ⌈toDouble (amount / divisor)⌉₊

/-- `Math.floor(amount / divisor)`. -/
def floorQuotient (amount divisor : Nat) : Nat :=
  ⌊toDouble (amount / divisor)⌋₊

theorem round_half_even_int (whole : Int) : roundHalfEven whole = whole := by
  simp [roundHalfEven]

theorem round_half_even_near (amount : ℚ) : |(roundHalfEven amount : ℚ) - amount| ≤ 1 / 2 := by
  have below := Int.floor_le amount
  have above := Int.lt_floor_add_one amount
  rw [abs_le]
  unfold roundHalfEven
  dsimp only
  split_ifs with down
  · have half : amount - ⌊amount⌋ ≤ 1 / 2 := by
      cases down with
      | inl less => exact less.le
      | inr tie => exact tie.1.le
    constructor
    · linarith
    · linarith
  · have half : 1 / 2 ≤ amount - ⌊amount⌋ := not_lt.mp fun less => down (.inl less)
    push_cast
    constructor
    · linarith
    · linarith

theorem double_spacing_positive (amount : ℚ) : 0 < doubleSpacing amount :=
  zpow_pos two_pos _

theorem double_spacing_le {amount : ℚ} (positive : 0 < amount) :
    doubleSpacing amount ≤ amount / 2 ^ 52 := by
  have leading := Int.zpow_log_le_self one_lt_two positive
  unfold doubleSpacing
  rw [zpow_sub₀ two_ne_zero, le_div_iff₀ (by positivity)]
  push_cast at leading
  field_simp
  exact_mod_cast leading

theorem to_double_near {amount : ℚ} (positive : 0 < amount) :
    |toDouble amount - amount| ≤ amount / 2 ^ 53 := by
  have spacing := double_spacing_positive amount
  have near := round_half_even_near (amount / doubleSpacing amount)
  have factored : toDouble amount - amount =
      (roundHalfEven (amount / doubleSpacing amount) - amount / doubleSpacing amount) *
        doubleSpacing amount := by
    unfold toDouble
    field_simp
  rw [factored, abs_mul, abs_of_pos spacing]
  calc _ ≤ 1 / 2 * doubleSpacing amount := by gcongr
    _ ≤ 1 / 2 * (amount / 2 ^ 52) := by
      have narrow := double_spacing_le positive
      gcongr
    _ = amount / 2 ^ 53 := by ring

/-- Whole numbers of 53 bits are doubles. -/
theorem to_double_whole {whole : Nat} (exact : whole < 2 ^ 53) : toDouble whole = whole := by
  have bits : Nat.log 2 whole ≤ 52 := by
    have below := Nat.log_lt_of_lt_pow' (by decide : 53 ≠ 0) exact
    omega
  have spacing : doubleSpacing (whole : ℚ) = ((2 ^ (52 - Nat.log 2 whole) : Nat) : ℚ)⁻¹ := by
    unfold doubleSpacing
    rw [Int.log_natCast, ← neg_sub, zpow_neg]
    congr 1
    have gap : (52 : Int) - Nat.log 2 whole = ((52 - Nat.log 2 whole : Nat) : Int) := by omega
    rw [gap, zpow_natCast]
    push_cast
    rfl
  unfold toDouble
  rw [spacing, div_inv_eq_mul]
  have scaled : (whole : ℚ) * ((2 ^ (52 - Nat.log 2 whole) : Nat) : ℚ) =
      ((whole * 2 ^ (52 - Nat.log 2 whole) : Nat) : Int) := by
    push_cast
    rfl
  rw [scaled, round_half_even_int]
  push_cast
  field_simp

theorem double_product_exact {left right : Nat} (exact : left * right < 2 ^ 53) :
    doubleProduct left right = left * right := by
  rw [doubleProduct, to_double_whole exact, Nat.floor_natCast]

/-- A quotient that is not whole stays between the same whole numbers. -/
theorem to_double_quotient_between {amount divisor : Nat} (exact : amount < 2 ^ 53)
    (positive : 0 < divisor) (uneven : amount % divisor ≠ 0) :
    ((amount / divisor : Nat) : ℚ) < toDouble (amount / divisor) ∧
      toDouble (amount / divisor) < ((amount / divisor : Nat) : ℚ) + 1 := by
  have some : 0 < amount := Nat.pos_of_ne_zero fun zero => uneven (by simp [zero])
  have divisorPositive : (0 : ℚ) < divisor := by exact_mod_cast positive
  have quotientPositive : (0 : ℚ) < amount / divisor := by positivity
  have near := abs_le.mp (to_double_near quotientPositive)
  have error : (amount : ℚ) / divisor / 2 ^ 53 < 1 / divisor := by
    rw [div_div, mul_comm, ← div_div, div_lt_div_iff_of_pos_right divisorPositive,
      div_lt_one (by positivity)]
    exact_mod_cast exact
  have split := Nat.div_add_mod amount divisor
  have remainder := Nat.mod_lt amount positive
  have low : ((amount / divisor : Nat) : ℚ) + 1 / divisor ≤ amount / divisor := by
    rw [← sub_nonneg]
    field_simp
    have whole : divisor * (amount / divisor) + 1 ≤ amount := by omega
    have cast : (divisor : ℚ) * ((amount / divisor : Nat) : ℚ) + 1 ≤ amount := by
      exact_mod_cast whole
    linarith
  have high : (amount : ℚ) / divisor + 1 / divisor ≤ ((amount / divisor : Nat) : ℚ) + 1 := by
    rw [← sub_nonneg]
    field_simp
    have whole : amount + 1 ≤ divisor * (amount / divisor) + divisor := by omega
    have cast : (amount : ℚ) + 1 ≤ divisor * ((amount / divisor : Nat) : ℚ) + divisor := by
      exact_mod_cast whole
    linarith
  constructor
  · linarith
  · linarith

theorem to_double_quotient_even {amount divisor : Nat} (exact : amount < 2 ^ 53)
    (positive : 0 < divisor) (even : amount % divisor = 0) :
    toDouble (amount / divisor) = ((amount / divisor : Nat) : ℚ) := by
  have whole : (amount : ℚ) / divisor = ((amount / divisor : Nat) : ℚ) := by
    have product := Nat.mul_div_cancel' (Nat.dvd_of_mod_eq_zero even)
    rw [div_eq_iff (by positivity), mul_comm]
    exact_mod_cast product.symm
  rw [whole]
  exact to_double_whole (Nat.lt_of_le_of_lt (Nat.div_le_self _ _) exact)

theorem ceil_quotient_exact {amount divisor : Nat} (exact : amount < 2 ^ 53)
    (positive : 0 < divisor) : ceilQuotient amount divisor = (amount + (divisor - 1)) / divisor := by
  unfold ceilQuotient
  have split := Nat.div_add_mod amount divisor
  by_cases even : amount % divisor = 0
  · rw [to_double_quotient_even exact positive even, Nat.ceil_natCast]
    symm
    rw [Nat.div_eq_iff positive, Nat.mul_comm]
    omega
  · have ⟨above, below⟩ := to_double_quotient_between exact positive even
    have ceiling : ⌈toDouble (amount / divisor)⌉₊ = amount / divisor + 1 := by
      rw [Nat.ceil_eq_iff (Nat.succ_ne_zero _)]
      constructor
      · exact_mod_cast above
      · push_cast
        exact below.le
    rw [ceiling]
    symm
    rw [Nat.div_eq_iff positive, Nat.add_mul, Nat.mul_comm (amount / divisor)]
    have remainder := Nat.mod_lt amount positive
    omega

theorem floor_quotient_exact {amount divisor : Nat} (exact : amount < 2 ^ 53)
    (positive : 0 < divisor) : floorQuotient amount divisor = amount / divisor := by
  unfold floorQuotient
  by_cases even : amount % divisor = 0
  · rw [to_double_quotient_even exact positive even, Nat.floor_natCast]
  · have ⟨above, below⟩ := to_double_quotient_between exact positive even
    rw [Nat.floor_eq_iff (le_trans (Nat.cast_nonneg _) above.le)]
    exact ⟨above.le, below⟩

end Hivra.Library
