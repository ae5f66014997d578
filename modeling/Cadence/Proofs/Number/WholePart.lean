import Cadence.Number.Scaled
import Mathlib.Algebra.Order.Field.Rat
import Mathlib.Algebra.Order.Floor.Ring
import Mathlib.Data.Rat.Floor

/-!
# Whole parts

The whole part of a number is what remains of it when its fraction is cut off.  A scaled number is
truncated to the whole part of its value, which is the value itself exactly when that is whole.
-/

namespace Cadence
namespace Number

/-- The whole number between a number and zero that is nearest to the number. -/
def wholePart (number : ℚ) : ℤ :=
  if 0 ≤ number then ⌊number⌋ else ⌈number⌉

theorem wholePart_of_nonneg {number : ℚ} (nonneg : 0 ≤ number) : wholePart number = ⌊number⌋ :=
  if_pos nonneg

/-- The whole part of a number and that of its negative are negatives of each other. -/
theorem wholePart_neg (number : ℚ) : wholePart (-number) = -wholePart number := by
  unfold wholePart
  rcases lt_trichotomy number 0 with negative | rfl | positive
  · rw [if_pos (by linarith), if_neg (by linarith), Int.floor_neg]
  · simp
  · rw [if_neg (by linarith), if_pos (le_of_lt positive), Int.ceil_neg]

@[simp] theorem wholePart_intCast (whole : ℤ) : wholePart whole = whole := by
  unfold wholePart
  split
  · exact Int.floor_intCast whole
  · exact Int.ceil_intCast whole

/-- Nothing is cut off exactly when the number is whole. -/
theorem wholePart_eq_self_iff {number : ℚ} :
    (wholePart number : ℚ) = number ↔ ∃ whole : ℤ, number = whole := by
  constructor
  · intro same
    exact ⟨wholePart number, same.symm⟩
  · rintro ⟨whole, rfl⟩
    rw [wholePart_intCast]

/-! ## Scaled numbers -/

/-- The value of a scaled number: the coefficient times a power of the base, with the sign. -/
def scaled (base : Nat) (negative : Bool) (coefficient : Nat) (exponent : Int) : ℚ :=
  let magnitude : ℚ := coefficient * (base : ℚ) ^ exponent
  if negative then -magnitude else magnitude

/-- A power with a whole exponent is a fraction of two that have natural exponents. -/
theorem raised_div_raised (base : Nat) (exponent : Int) :
    (raised base exponent : ℚ) / (raised base (-exponent) : ℚ) = (base : ℚ) ^ exponent := by
  obtain ⟨natural, rfl | rfl⟩ := exponent.eq_nat_or_neg
  · simp [raised]
  · simp [raised]

/-- A scaled number is truncated to the whole part of its value. -/
theorem truncated_eq_wholePart
    (base : Nat)
    (negative : Bool)
    (coefficient : Nat)
    (exponent : Int) :
    truncated base negative coefficient exponent =
      wholePart (scaled base negative coefficient exponent) := by
  have magnitude : wholePart (coefficient * (base : ℚ) ^ exponent) =
      (coefficient * raised base exponent / raised base (-exponent) : Nat) := by
    have nonneg : (0 : ℚ) ≤ coefficient * (base : ℚ) ^ exponent :=
      mul_nonneg (Nat.cast_nonneg coefficient) (zpow_nonneg (Nat.cast_nonneg base) exponent)
    rw [wholePart_of_nonneg nonneg, ← raised_div_raised, mul_div_assoc', ← Nat.cast_mul]
    exact Rat.floor_natCast_div_natCast ..
  unfold truncated scaled
  cases negative with
  | false => exact magnitude.symm
  | true =>
      change -((_ : Nat) : ℤ) = wholePart (-_)
      rw [wholePart_neg, magnitude]

end Number
end Cadence
