import Thermostat.Proofs.Decimal.Arithmetic

/-! How large the results of decimal operations are: rounding never passes a whole number of up to 28
digits. -/
namespace Thermostat.Decimal

section Bounds

variable {n : Nat} {x : ℚ} {op : Except Signal Decimal} {r : Decimal}

theorem rounded_natCast (room : n ≤ powerOfTen precision) : rounded n = n := by
  rcases room.lt_or_eq with less | rfl
  · have digits : |(n : ℤ)| < 10 ^ precision := by
      rw [Nat.abs_cast]
      exact_mod_cast less
    have same := rounded_eq_self (k := 0) digits (by decide)
    rwa [zpow_zero, mul_one, Int.cast_natCast] at same
  · rw [powerOfTen_cast_zpow]
    exact rounded_power (by decide)

/-- A result that a whole number of 28 digits bounds is held, and that number bounds it still. -/
theorem Gives.le (gives : Gives x op) (room : n < powerOfTen precision) (below : |x| ≤ n) :
    ∃ r, op = .ok r ∧ |r.toRat| ≤ n := by
  have bound : |rounded x| ≤ n := by
    rw [abs_rounded, ← rounded_natCast room.le]
    exact rounded_mono below
  have fits : (n : ℚ) < 10 ^ (maxExponent + 1) := by
    refine (Nat.cast_lt.mpr room).trans ?_
    rw [powerOfTen_cast_zpow]
    exact zpow_lt_zpow_right₀ (by norm_num) (by decide)
  obtain ⟨r, ok, value⟩ := gives.exists_ok (bound.trans_lt fits)
  exact ⟨r, ok, value ▸ bound⟩

/-- A result that is at least a whole number of up to 28 digits, or the next one, stays so. -/
theorem Gives.ge (gives : Gives x op) (room : n ≤ powerOfTen precision) (above : (n : ℚ) ≤ |x|)
    (ok : op = .ok r) : (n : ℚ) ≤ |r.toRat| := by
  rw [gives.value_eq ok, abs_rounded, ← rounded_natCast room]
  exact rounded_mono above

end Bounds

section Operations

variable {x y r : Decimal} {n : Nat}

theorem mul_le (room : n < powerOfTen precision) (below : |x.toRat| * |y.toRat| ≤ n) :
    ∃ r, x.mul y = .ok r ∧ |r.toRat| ≤ n :=
  (gives_mul x y).le room (by rwa [abs_mul])

theorem le_mul (room : n ≤ powerOfTen precision) (above : (n : ℚ) ≤ |x.toRat| * |y.toRat|)
    (ok : x.mul y = .ok r) : (n : ℚ) ≤ |r.toRat| :=
  (gives_mul x y).ge room (by rwa [abs_mul]) ok

theorem div_le (divisor : y.coefficient ≠ 0) (room : n < powerOfTen precision)
    (below : |x.toRat| / |y.toRat| ≤ n) : ∃ r, x.div y = .ok r ∧ |r.toRat| ≤ n :=
  (gives_div x divisor).le room (by rwa [abs_div])

theorem le_div (divisor : y.coefficient ≠ 0) (room : n ≤ powerOfTen precision)
    (above : (n : ℚ) ≤ |x.toRat| / |y.toRat|) (ok : x.div y = .ok r) : (n : ℚ) ≤ |r.toRat| :=
  (gives_div x divisor).ge room (by rwa [abs_div]) ok

theorem add_le (room : n < powerOfTen precision) (below : |x.toRat + y.toRat| ≤ n) :
    ∃ r, x.add y = .ok r ∧ |r.toRat| ≤ n :=
  (gives_add x y).le room below

theorem le_add (room : n ≤ powerOfTen precision) (above : (n : ℚ) ≤ |x.toRat + y.toRat|)
    (ok : x.add y = .ok r) : (n : ℚ) ≤ |r.toRat| :=
  (gives_add x y).ge room above ok

/-- A decimal that a whole number of 28 digits bounds is rounded to a whole number. -/
theorem quantize_zero (room : n < powerOfTen precision) (below : |x.toRat| ≤ n) :
    ∃ r, x.quantize 0 = .ok r := by
  have bound : |roundAway (x.toRat / 10 ^ (0 : ℤ))| ≤ n := by
    rw [zpow_zero, div_one]
    exact abs_roundAway_le below
  generalize outcome : x.quantize 0 = op
  cases outcome ▸ gives_quantize x 0 with
  | ok _ _ _ => exact ⟨_, rfl⟩
  | invalid great => exact absurd (great.trans bound) (not_le.mpr (Int.ofNat_lt.mpr room))

/-- A decimal of more than 28 digits before the point is not rounded to a whole number. -/
theorem quantize_zero_error (above : (powerOfTen precision : ℚ) ≤ |x.toRat|) :
    x.quantize 0 = .error .invalidOperation := by
  have bound : (powerOfTen precision : ℤ) ≤ |roundAway (x.toRat / 10 ^ (0 : ℤ))| := by
    rw [zpow_zero, div_one]
    exact le_abs_roundAway above
  generalize outcome : x.quantize 0 = op
  cases outcome ▸ gives_quantize x 0 with
  | ok _ _ fits => exact absurd bound (not_le.mpr fits)
  | invalid _ => rfl

end Operations

end Thermostat.Decimal
