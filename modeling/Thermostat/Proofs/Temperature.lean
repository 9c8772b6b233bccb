import Thermostat.Proofs.Decimal.Magnitude
import Thermostat.Proofs.Steps
import Thermostat.Temperature

/-! Which readings can be converted: those far below what 28 digits hold, and none above it. -/
namespace Thermostat

theorem Decimal.toRat_ofInt (n : Int) : (ofInt n).toRat = n := by
  have whole : (n : ℚ) = ((if n < 0 then -1 else 1 : ℤ) * (n.natAbs : ℤ) : ℤ) := by
    congr 1
    split <;> omega
  rw [whole]
  unfold toRat sign ofInt
  push_cast
  simp

namespace Temperature

open Decimal (precision ofInt)

variable {scale : TemperatureScale} {relative : Bool} {d : Decimal}

/-- Every reading up to this number of degrees can be converted. -/
def safeDegrees : Nat := 5 * 10 ^ 26

/-- No reading from this number of degrees on can be converted. -/
def extremeDegrees : Nat := 10 ^ 27

theorem abs_toRat_ofInt {n : Int} (nonneg : 0 ≤ n) : |(ofInt n).toRat| = n := by
  rw [Decimal.toRat_ofInt, abs_of_nonneg (Int.cast_nonneg nonneg)]

theorem fahrenheit_le (scale : TemperatureScale) (relative : Bool)
    (safe : |d.toRat| ≤ safeDegrees) :
    ∃ f, fahrenheit scale relative d = .ok f ∧ |f.toRat| ≤ (9 * 10 ^ 26 + 32 : ℕ) := by
  cases scale with
  | fahrenheit => exact ⟨d, rfl, safe.trans (Nat.cast_le.mpr (by decide))⟩
  | celsius =>
    have ninefold : |d.toRat| * |(ofInt 9).toRat| ≤ (45 * 10 ^ 26 : ℕ) := by
      rw [abs_toRat_ofInt (n := 9) (by decide)]
      exact (mul_le_mul_of_nonneg_right safe (by norm_num)).trans (by norm_num [safeDegrees])
    obtain ⟨m, product, bound⟩ := Decimal.mul_le (by decide) ninefold
    have fifth : |m.toRat| / |(ofInt 5).toRat| ≤ (9 * 10 ^ 26 : ℕ) := by
      rw [abs_toRat_ofInt (n := 5) (by decide), div_le_iff₀ (by norm_num)]
      exact bound.trans (by norm_num)
    obtain ⟨q, quotient, bound⟩ := Decimal.div_le (by decide) (by decide) fifth
    cases relative with
    | true =>
      refine ⟨q, ?_, bound.trans (Nat.cast_le.mpr (by decide))⟩
      simp only [fahrenheit, product, quotient, bind, Except.bind, if_true]
    | false =>
      have shifted : |q.toRat + (ofInt 32).toRat| ≤ (9 * 10 ^ 26 + 32 : ℕ) := by
        refine (abs_add_le _ _).trans ?_
        rw [abs_toRat_ofInt (n := 32) (by decide)]
        push_cast at bound ⊢
        linarith
      obtain ⟨f, sum, bound⟩ := Decimal.add_le (by decide) shifted
      refine ⟨f, ?_, bound⟩
      simp only [fahrenheit, product, quotient, sum, bind, Except.bind, Bool.false_eq_true, if_false]

theorem le_fahrenheit (great : (extremeDegrees : ℚ) ≤ |d.toRat|) {f : Decimal}
    (ok : fahrenheit scale relative d = .ok f) : (extremeDegrees : ℚ) ≤ |f.toRat| := by
  cases scale with
  | fahrenheit =>
    cases ok
    exact great
  | celsius =>
    obtain ⟨m, product, ok⟩ := bind_eq_ok_iff.mp ok
    obtain ⟨q, quotient, ok⟩ := bind_eq_ok_iff.mp ok
    have ninefold : ((9 * 10 ^ 27 : ℕ) : ℚ) ≤ |d.toRat| * |(ofInt 9).toRat| := by
      rw [abs_toRat_ofInt (n := 9) (by decide)]
      refine le_trans ?_ (mul_le_mul_of_nonneg_right great (by norm_num))
      norm_num [extremeDegrees]
    have bound := Decimal.le_mul (by decide) ninefold product
    have fifth : ((18 * 10 ^ 26 : ℕ) : ℚ) ≤ |m.toRat| / |(ofInt 5).toRat| := by
      rw [abs_toRat_ofInt (n := 5) (by decide), le_div_iff₀ (by norm_num)]
      exact le_trans (by norm_num) bound
    have bound := Decimal.le_div (by decide) (by decide) fifth quotient
    cases relative with
    | true =>
      cases ok
      exact le_trans (Nat.cast_le.mpr (by decide)) bound
    | false =>
      rw [if_neg (by decide)] at ok
      refine Decimal.le_add (by decide) ?_ ok
      have shifted := abs_sub_abs_le_abs_sub q.toRat (-(ofInt 32).toRat)
      rw [abs_neg, sub_neg_eq_add, abs_toRat_ofInt (n := 32) (by decide)] at shifted
      refine le_trans ?_ shifted
      push_cast [extremeDegrees] at bound ⊢
      linarith

theorem ofDegrees_ok (scale : TemperatureScale) (relative : Bool)
    (safe : |d.toRat| ≤ safeDegrees) : ∃ t, ofDegrees scale relative d = .ok t := by
  obtain ⟨f, converted, bound⟩ := fahrenheit_le scale relative safe
  have tenfold : |f.toRat| * |(ofInt 10).toRat| ≤ (9 * 10 ^ 27 + 320 : ℕ) := by
    rw [abs_toRat_ofInt (n := 10) (by decide)]
    exact (mul_le_mul_of_nonneg_right bound (by norm_num)).trans (by norm_num)
  obtain ⟨t, product, bound⟩ := Decimal.mul_le (by decide) tenfold
  obtain ⟨w, whole⟩ := Decimal.quantize_zero (by decide) bound
  refine ⟨⟨wholeOf w⟩, ?_⟩
  simp only [ofDegrees, converted, product, whole, bind, Except.bind]

theorem ofDegrees_error (scale : TemperatureScale) (relative : Bool)
    (great : (extremeDegrees : ℚ) ≤ |d.toRat|) : ∃ s, ofDegrees scale relative d = .error s := by
  cases converted : ofDegrees scale relative d with
  | error s => exact ⟨s, rfl⟩
  | ok t =>
    obtain ⟨f, first, ok⟩ := bind_eq_ok_iff.mp converted
    obtain ⟨t, product, ok⟩ := bind_eq_ok_iff.mp ok
    obtain ⟨w, whole, ok⟩ := bind_eq_ok_iff.mp ok
    have bound := le_fahrenheit great first
    have tenfold : ((powerOfTen precision : ℕ) : ℚ) ≤ |f.toRat| * |(ofInt 10).toRat| := by
      rw [abs_toRat_ofInt (n := 10) (by decide)]
      refine le_trans ?_ (mul_le_mul_of_nonneg_right bound (by norm_num))
      norm_num [extremeDegrees, powerOfTen, precision]
    rw [Decimal.quantize_zero_error (Decimal.le_mul (Nat.le_refl _) tenfold product)] at whole
    cases whole

end Temperature

end Thermostat
