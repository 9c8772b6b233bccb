import Mathlib.Algebra.Order.Ring.Abs
import Mathlib.Data.Rat.Cast.Order
import Mathlib.Tactic.NormNum
import Thermostat.Proofs.Decimal.Digits

/-! The number that a decimal is. -/
namespace Thermostat.Decimal

def sign (d : Decimal) : ℤ := if d.negative then -1 else 1

/-- The number that a decimal stands for. -/
def toRat (d : Decimal) : ℚ := d.sign * (d.coefficient * 10 ^ d.exponent)

theorem powerOfTen_cast (k : Nat) : ((powerOfTen k : ℕ) : ℚ) = 10 ^ k := by
  change ((10 ^ k : ℕ) : ℚ) = _
  push_cast
  rfl

theorem abs_sign (d : Decimal) : |d.sign| = 1 := by
  unfold sign
  split <;> decide

theorem sign_mul_eq_ite (d : Decimal) (n : Nat) :
    d.sign * n = if d.negative then -(n : Int) else n := by
  unfold sign
  split <;> omega

theorem zpow_mul_powerOfTen (e : ℤ) :
    (10 : ℚ) ^ e * powerOfTen (-e).toNat = powerOfTen e.toNat := by
  rw [powerOfTen_cast, powerOfTen_cast, ← zpow_natCast, ← zpow_natCast,
    ← zpow_add₀ (by norm_num)]
  congr 1
  omega

theorem abs_toRat (d : Decimal) : |d.toRat| = d.coefficient * 10 ^ d.exponent := by
  have sign : |(d.sign : ℚ)| = 1 := by exact_mod_cast abs_sign d
  rw [toRat, abs_mul, sign, one_mul,
    abs_of_nonneg (mul_nonneg (Nat.cast_nonneg _) (zpow_nonneg (by norm_num) _))]

theorem toRat_neg (d : Decimal) : d.neg.toRat = -d.toRat := by
  unfold toRat sign neg
  cases d.negative <;> simp

/-- From the unit on, a decimal is its coefficient with zeros behind it. -/
theorem toRat_of_nonneg {d : Decimal} (nonneg : 0 ≤ d.exponent) :
    d.toRat = ((d.sign * (d.coefficient * powerOfTen d.exponent.toNat : ℕ) : ℤ) : ℚ) := by
  have exponent : (10 : ℚ) ^ d.exponent = 10 ^ d.exponent.toNat := by
    rw [← zpow_natCast, Int.toNat_of_nonneg nonneg]
  unfold toRat
  push_cast
  rw [powerOfTen_cast, exponent]

end Thermostat.Decimal
