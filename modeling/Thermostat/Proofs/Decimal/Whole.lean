import Thermostat.Decimal.Whole
import Thermostat.Proofs.Decimal.Arithmetic

/-! Whole numbers among decimals are found exactly: rounding to one, comparing and leaving out the
places behind the point lose nothing, however many digits there are. -/
namespace Thermostat.Decimal

section Rounding

variable {d : Decimal}

theorem inUnits_zero (d : Decimal) :
    ((inUnits d.coefficient 1 d.exponent 0).1 : ℚ) / (inUnits d.coefficient 1 d.exponent 0).2 =
      |d.toRat| := by
  rw [inUnits_coefficient, zpow_zero, div_one]

/-- Where there are fewer digits than places, nothing is left of a decimal once it is rounded. -/
theorem roundEven_abs_toRat_of_few (few : (digitCount d.coefficient : ℤ) < -d.exponent) :
    roundEven |d.toRat| = 0 := by
  have leading : d.adjusted + 1 < 0 := by
    unfold adjusted
    omega
  have small := abs_toRat_div_lt_half leading
  rw [zpow_zero, div_one] at small
  exact roundEven_eq_zero (abs_nonneg _) small

theorem toRat_rounded {c : Nat} (value : (c : ℤ) = roundEven |d.toRat|) :
    (⟨d.negative, c, 0⟩ : Decimal).toRat = roundEven d.toRat := by
  rw [toRat_eq_signed d, cast_signed roundEven_neg, ← value, toRat_eq_signed, abs_toRat, zpow_zero,
    mul_one, Int.cast_natCast]

/-- A decimal is rounded to the whole number that its exact value is rounded to. -/
theorem toRat_toIntegral (d : Decimal) : d.toIntegral.toRat = roundEven d.toRat := by
  unfold toIntegral
  split
  · next whole =>
    rw [toRat_of_nonneg whole, roundEven_intCast]
  split
  · next few =>
    apply toRat_rounded
    rw [roundEven_abs_toRat_of_few few, Nat.cast_zero]
  · have value := roundHalfEven_cast (inUnits d.coefficient 1 d.exponent 0).1
      (inUnits_pos d.coefficient Nat.one_pos d.exponent 0)
    rw [inUnits_zero] at value
    exact toRat_rounded value

end Rounding

section Comparison

variable {x y : Decimal}

theorem signedIn_eq_iff {unit : ℤ} (left : unit ≤ x.exponent) (right : unit ≤ y.exponent) :
    x.signedIn unit = y.signedIn unit ↔ x.toRat = y.toRat := by
  rw [← signedIn_value left, ← signedIn_value right, mul_left_inj' (zpow_ten_pos unit).ne',
    Int.cast_inj]

/-- Decimals that are the same number have their leading digits at the same place, so that looking at
that first leaves none out. -/
theorem sameNumber_iff : x.sameNumber y = true ↔ x.toRat = y.toRat := by
  unfold sameNumber
  split
  · next zero =>
    rw [Bool.or_eq_true, beq_iff_eq, beq_iff_eq] at zero
    rw [beq_iff_eq]
    rcases zero with left | right
    · rw [left, toRat_eq_zero_iff.mpr left, eq_comm, eq_comm (a := (0 : ℚ)), toRat_eq_zero_iff]
    · rw [right, toRat_eq_zero_iff.mpr right, toRat_eq_zero_iff]
  · next some =>
    rw [Bool.or_eq_true, beq_iff_eq, beq_iff_eq, not_or] at some
    dsimp only
    rw [Bool.and_eq_true, beq_iff_eq, beq_iff_eq,
      signedIn_eq_iff (Int.min_le_left _ _) (Int.min_le_right _ _), and_iff_right_iff_imp]
    intro same
    rw [← log_toRat some.1, same, log_toRat some.2]

end Comparison

section Conversion

variable {d : Decimal} {n : ℤ}

/-- Leaving out the places rounds toward zero. -/
theorem truncate_eq (d : Decimal) : (d.truncate : ℚ) = signed d.negative ⌊|d.toRat|⌋ := by
  unfold truncate
  split
  · next zero =>
    rw [toRat_eq_zero_iff.mpr (beq_iff_eq.mp zero), abs_zero, Int.floor_zero, Int.cast_zero]
    cases d.negative <;> simp [signed]
  · have floor := floor_div_cast (inUnits d.coefficient 1 d.exponent 0).1
      (inUnits d.coefficient 1 d.exponent 0).2
    rw [inUnits_zero] at floor
    rw [floor]
    dsimp only
    cases d.negative <;> simp [signed]

theorem truncate_of_whole (whole : d.toRat = n) : d.truncate = n := by
  have value : (d.truncate : ℚ) = n :=
    calc (d.truncate : ℚ) = signed d.negative ⌊|d.toRat|⌋ := truncate_eq d
      _ = signed d.negative |d.toRat| := by rw [whole, ← Int.cast_abs, Int.floor_intCast]
      _ = d.toRat := (toRat_eq_signed d).symm
      _ = n := whole
  exact Int.cast_inj.mp value

/-- A decimal is read as a whole number just if it is that number. -/
theorem toInt?_eq_some_iff : d.toInt? = some n ↔ d.toRat = n := by
  have same : d.sameNumber d.toIntegral = true ↔ d.toRat = roundEven d.toRat := by
    rw [sameNumber_iff, toRat_toIntegral]
  unfold toInt?
  constructor
  · intro read
    split at read
    · next kept =>
      have whole := same.mp kept
      rw [truncate_of_whole whole, Option.some.injEq] at read
      rwa [read] at whole
    · cases read
  · intro whole
    have kept : d.sameNumber d.toIntegral = true := same.mpr (by rw [whole, roundEven_intCast])
    rw [if_pos kept, truncate_of_whole whole]

end Conversion

end Thermostat.Decimal
