import Thermostat.Proofs.Decimal.Rounding

/-! How far rounding moves a number, and which numbers are rounded alike because they are near the same
one. -/
namespace Thermostat.Decimal

section Whole

variable {x : ℚ}

theorem roundEven_error (x : ℚ) : |(roundEven x : ℚ) - x| ≤ 1 / 2 := by
  have lower := Int.floor_le x
  have upper := Int.lt_floor_add_one x
  have bit : ⌊x⌋ % 2 = 0 ∨ ⌊x⌋ % 2 = 1 := Int.emod_two_eq_zero_or_one _
  unfold roundEven
  dsimp only
  rw [abs_le]
  split_ifs
  · constructor <;> linarith
  · push_cast
    constructor <;> linarith
  · rcases bit with even | odd
    · rw [even]
      push_cast
      constructor <;> linarith
    · rw [odd]
      push_cast
      constructor <;> linarith

theorem roundAway_error (x : ℚ) : |(roundAway x : ℚ) - x| ≤ 1 / 2 := by
  have bound {y : ℚ} (nonneg : 0 ≤ y) : |(roundAway y : ℚ) - y| ≤ 1 / 2 := by
    have lower := Int.floor_le (y + 1 / 2)
    have upper := Int.lt_floor_add_one (y + 1 / 2)
    rw [roundAway_of_nonneg nonneg, abs_le]
    constructor <;> linarith
  rcases le_or_gt 0 x with nonneg | neg
  · exact bound nonneg
  · have mirrored := bound (neg_nonneg.mpr neg.le)
    rwa [roundAway_neg, Int.cast_neg, neg_sub_neg, abs_sub_comm] at mirrored

/-- A number is rounded to the whole number that it is less than a half away from. -/
theorem roundAway_eq_of_near {k : ℤ} (near : |x - k| < 1 / 2) : roundAway x = k := by
  have apart := abs_sub_le (roundAway x : ℚ) x k
  have close : |((roundAway x - k : ℤ) : ℚ)| < 1 := by
    rw [Int.cast_sub]
    linarith [roundAway_error x]
  have same : |roundAway x - k| < 1 := by exact_mod_cast close
  rwa [Int.abs_lt_one_iff, sub_eq_zero] at same

/-- No quotient by an odd number is half way between two whole numbers, so that what is close enough to
it is rounded in the same way. -/
theorem roundAway_eq_of_near_odd {n k : ℤ} {m : ℕ} (nearest : |n - (2 * m + 1) * k| ≤ m)
    (near : |x - n / (2 * m + 1)| < 1 / (2 * (2 * m + 1))) : roundAway x = k := by
  have pos : (0 : ℚ) < 2 * m + 1 := by positivity
  have scaled : |(n : ℚ) - (2 * m + 1) * k| ≤ m := by exact_mod_cast nearest
  have quotient : |(n : ℚ) / (2 * m + 1) - k| ≤ m / (2 * m + 1) := by
    have same : (n : ℚ) / (2 * m + 1) - k = (n - (2 * m + 1) * k) / (2 * m + 1) := by
      field_simp
    rw [same, abs_div, abs_of_pos pos]
    exact (div_le_div_iff_of_pos_right pos).mpr scaled
  have half : (1 : ℚ) / (2 * (2 * m + 1)) + m / (2 * m + 1) = 1 / 2 := by
    field_simp
    ring
  refine roundAway_eq_of_near ?_
  linarith [abs_sub_le x ((n : ℚ) / (2 * m + 1)) k]

theorem roundAway_odd_iff {n k : ℤ} {m : ℕ} :
    roundAway ((n : ℚ) / (2 * m + 1)) = k ↔ |n - (2 * m + 1) * k| ≤ m := by
  have pos : (0 : ℚ) < 2 * m + 1 := by positivity
  constructor
  · rintro rfl
    have error := roundAway_error ((n : ℚ) / (2 * m + 1))
    generalize roundAway ((n : ℚ) / (2 * m + 1)) = k at error ⊢
    have scaled : |(n : ℚ) - (2 * m + 1) * k| ≤ (2 * m + 1) * (1 / 2) := by
      have same : (n : ℚ) - (2 * m + 1) * k = (2 * m + 1) * -(k - n / (2 * m + 1)) := by
        field_simp
        ring
      rw [same, abs_mul, abs_neg, abs_of_pos pos]
      exact mul_le_mul_of_nonneg_left error pos.le
    have whole : ((2 * |n - (2 * m + 1) * k| : ℤ) : ℚ) ≤ ((2 * m + 1 : ℤ) : ℚ) := by
      push_cast
      linarith
    have := Int.cast_le.mp whole
    omega
  · intro nearest
    refine roundAway_eq_of_near_odd nearest ?_
    rw [sub_self, abs_zero]
    positivity

/-- Rounding a sum differs from adding what its terms are rounded to by one at most. -/
theorem abs_roundAway_add_sub_le (x y : ℚ) :
    |roundAway (x + y) - roundAway x - roundAway y| ≤ 1 := by
  have sum := abs_le.mp (roundAway_error (x + y))
  have left := abs_le.mp (roundAway_error x)
  have right := abs_le.mp (roundAway_error y)
  have close : |((roundAway (x + y) - roundAway x - roundAway y : ℤ) : ℚ)| < 2 := by
    push_cast
    rw [abs_lt]
    constructor <;> linarith
  have : |roundAway (x + y) - roundAway x - roundAway y| < 2 := by exact_mod_cast close
  omega

end Whole

section Places

variable {x : ℚ} {k : ℤ}

/-- Rounding moves a number by half a unit of its last place at most. -/
theorem abs_rounded_sub_le (x : ℚ) : |rounded x - x| ≤ 10 ^ lastPlace x / 2 := by
  have unit := zpow_ten_pos (lastPlace x)
  have error := mul_le_mul_of_nonneg_right (roundEven_error (x / 10 ^ lastPlace x)) unit.le
  have scaled : rounded x - x =
      (roundEven (x / 10 ^ lastPlace x) - x / 10 ^ lastPlace x) * 10 ^ lastPlace x := by
    rw [rounded, sub_mul, div_mul_cancel₀ _ unit.ne']
  rw [scaled, abs_mul, abs_of_pos unit]
  linarith

/-- A number below a power of ten is moved by half a unit of its 28th digit at most. -/
theorem abs_rounded_sub_le_of_lt (small : |x| < 10 ^ k) (place : tiny ≤ k - precision) :
    |rounded x - x| ≤ 10 ^ (k - precision) / 2 := by
  rcases eq_or_ne x 0 with rfl | ne
  · rw [rounded_zero, sub_zero, abs_zero]
    have := zpow_ten_pos (k - precision)
    positivity
  have log := (Int.lt_zpow_iff_log_lt (b := 10) (by decide) (abs_pos.mpr ne)).mp (by exact_mod_cast small)
  have last : lastPlace x ≤ k - precision := by
    unfold lastPlace
    omega
  have unit : (10 : ℚ) ^ lastPlace x ≤ 10 ^ (k - precision) := zpow_le_zpow_right₀ (by norm_num) last
  linarith [abs_rounded_sub_le x]

end Places

end Thermostat.Decimal
