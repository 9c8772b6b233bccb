import Mathlib.Data.Int.Log
import Mathlib.Data.Rat.Floor
import Mathlib.Tactic.FieldSimp
import Mathlib.Tactic.Linarith
import Mathlib.Tactic.NormNum
import Mathlib.Tactic.Positivity
import Thermostat.Decimal.Context

/-! Rounding of exact numbers: to whole numbers, and to the last place that a decimal of 28 digits has.
Both keep the order, and both leave alone what needs no rounding. -/
namespace Thermostat.Decimal

/-- The nearest whole number; of two, the even one. -/
def roundEven (x : ℚ) : ℤ :=
  let k := ⌊x⌋
  if x - k < 1 / 2 then k else if 1 / 2 < x - k then k + 1 else k + k % 2

/-- The nearest whole number; of two, the one further from zero. -/
def roundAway (x : ℚ) : ℤ := if x < 0 then -⌊-x + 1 / 2⌋ else ⌊x + 1 / 2⌋

section Whole

variable {x y : ℚ} {num den : Nat}

@[simp] theorem roundEven_intCast (k : ℤ) : roundEven (k : ℚ) = k := by
  simp [roundEven]

theorem roundEven_bounds (x : ℚ) : ⌊x⌋ ≤ roundEven x ∧ roundEven x ≤ ⌊x⌋ + 1 := by
  unfold roundEven
  dsimp only
  split_ifs <;> omega

theorem roundEven_eq_zero (nonneg : 0 ≤ x) (small : x < 1 / 2) : roundEven x = 0 := by
  have floor : ⌊x⌋ = 0 := Int.floor_eq_zero_iff.mpr ⟨nonneg, by linarith⟩
  rw [roundEven, floor, Int.cast_zero, sub_zero, if_pos small]

theorem roundEven_mono (le : x ≤ y) : roundEven x ≤ roundEven y := by
  rcases (Int.floor_le_floor le).lt_or_eq with apart | same
  · have lower := (roundEven_bounds x).2
    have upper := (roundEven_bounds y).1
    omega
  · -- Both lie between the same whole numbers, so only their fractions are compared.
    have parity := Int.emod_nonneg ⌊y⌋ (by decide : (2 : ℤ) ≠ 0)
    unfold roundEven
    rw [same]
    dsimp only
    split_ifs <;> first | omega | linarith

theorem roundEven_neg (x : ℚ) : roundEven (-x) = -roundEven x := by
  by_cases whole : x = ⌊x⌋
  · rw [whole, ← Int.cast_neg, roundEven_intCast, roundEven_intCast]
  have above : (⌊x⌋ : ℚ) < x := lt_of_le_of_ne (Int.floor_le x) (Ne.symm whole)
  have below := Int.lt_floor_add_one x
  have floor : ⌊-x⌋ = -⌊x⌋ - 1 := by
    rw [Int.floor_eq_iff]
    push_cast
    constructor <;> linarith
  unfold roundEven
  rw [floor]
  push_cast
  split_ifs <;> first | omega | linarith

theorem roundAway_of_nonneg (nonneg : 0 ≤ x) : roundAway x = ⌊x + 1 / 2⌋ := if_neg (not_lt.mpr nonneg)

@[simp] theorem roundAway_zero : roundAway 0 = 0 := by
  rw [roundAway_of_nonneg le_rfl]
  norm_num

theorem roundAway_neg (x : ℚ) : roundAway (-x) = -roundAway x := by
  rcases lt_trichotomy x 0 with neg | rfl | pos
  · rw [roundAway_of_nonneg (neg_nonneg.mpr neg.le), roundAway, if_pos neg, neg_neg]
  · rw [neg_zero, roundAway_zero, neg_zero]
  · rw [roundAway_of_nonneg pos.le, roundAway, if_pos (neg_lt_zero.mpr pos), neg_neg]

theorem roundAway_nonneg (nonneg : 0 ≤ x) : 0 ≤ roundAway x := by
  rw [roundAway_of_nonneg nonneg, Int.le_floor]
  push_cast
  linarith

theorem roundAway_mono (le : x ≤ y) : roundAway x ≤ roundAway y := by
  rcases le_or_gt 0 x with nonneg | neg
  · rw [roundAway_of_nonneg nonneg, roundAway_of_nonneg (nonneg.trans le)]
    exact Int.floor_le_floor (by linarith)
  have left : roundAway x = -⌊-x + 1 / 2⌋ := if_pos neg
  rcases le_or_gt 0 y with nonneg | negative
  · have below := roundAway_nonneg (neg_nonneg.mpr neg.le)
    have above := roundAway_nonneg nonneg
    rw [roundAway_neg] at below
    omega
  · have right : roundAway y = -⌊-y + 1 / 2⌋ := if_pos negative
    have order : ⌊-y + 1 / 2⌋ ≤ ⌊-x + 1 / 2⌋ := Int.floor_le_floor (by linarith)
    omega

@[simp] theorem roundAway_intCast (k : ℤ) : roundAway (k : ℚ) = k := by
  have floor (n : ℤ) : ⌊(n : ℚ) + 1 / 2⌋ = n := by
    rw [Int.floor_eq_iff]
    constructor <;> linarith
  unfold roundAway
  rw [← Int.cast_neg, floor, floor]
  split <;> omega

theorem abs_roundAway (x : ℚ) : |roundAway x| = roundAway |x| := by
  rcases le_or_gt 0 x with nonneg | neg
  · rw [abs_of_nonneg nonneg, abs_of_nonneg (roundAway_nonneg nonneg)]
  · have nonneg := roundAway_nonneg (neg_nonneg.mpr neg.le)
    rw [abs_of_neg neg, ← abs_neg, ← roundAway_neg, abs_of_nonneg nonneg]

theorem abs_roundAway_le {n : ℤ} (below : |x| ≤ n) : |roundAway x| ≤ n := by
  have bound := roundAway_mono below
  rwa [roundAway_intCast, ← abs_roundAway] at bound

theorem le_abs_roundAway {n : ℤ} (above : (n : ℚ) ≤ |x|) : n ≤ |roundAway x| := by
  have bound := roundAway_mono above
  rwa [roundAway_intCast, ← abs_roundAway] at bound

theorem roundAway_eq_zero (small : |x| < 1 / 2) : roundAway x = 0 := by
  rw [← abs_eq_zero, abs_roundAway, roundAway_of_nonneg (abs_nonneg x), Int.floor_eq_zero_iff]
  exact ⟨by positivity, by linarith⟩

theorem floor_div_cast (num den : Nat) : ⌊(num : ℚ) / den⌋ = ((num / den : ℕ) : ℤ) := by
  rw [Rat.floor_natCast_div_natCast, Int.natCast_div]

/-- The fraction of a quotient is its remainder over the divisor. -/
theorem div_sub_floor (num : Nat) (pos : 0 < den) :
    (num : ℚ) / den - (num / den : ℕ) = (num % den : ℕ) / (den : ℚ) := by
  have whole : (num : ℚ) = den * (num / den : ℕ) + (num % den : ℕ) := by
    exact_mod_cast (Nat.div_add_mod num den).symm
  have ne : (den : ℚ) ≠ 0 := Nat.cast_ne_zero.mpr pos.ne'
  field_simp
  linarith

theorem fraction_lt_half_iff (num : Nat) (pos : 0 < den) :
    (num : ℚ) / den - (num / den : ℕ) < 1 / 2 ↔ 2 * (num % den) < den := by
  rw [div_sub_floor num pos, div_lt_div_iff₀ (Nat.cast_pos.mpr pos) two_pos, one_mul, mul_comm]
  exact_mod_cast Iff.rfl

theorem half_lt_fraction_iff (num : Nat) (pos : 0 < den) :
    1 / 2 < (num : ℚ) / den - (num / den : ℕ) ↔ den < 2 * (num % den) := by
  rw [div_sub_floor num pos, div_lt_div_iff₀ two_pos (Nat.cast_pos.mpr pos), one_mul, mul_comm]
  exact_mod_cast Iff.rfl

theorem roundHalfEven_cast (num : Nat) (pos : 0 < den) :
    (roundHalfEven num den : ℤ) = roundEven (num / den) := by
  have below := fraction_lt_half_iff num pos
  have above := half_lt_fraction_iff num pos
  unfold roundHalfEven roundEven
  rw [floor_div_cast]
  dsimp only
  simp only [Int.cast_natCast, below, above]
  grind

theorem roundHalfUp_cast (num : Nat) (pos : 0 < den) :
    (roundHalfUp num den : ℤ) = roundAway (num / den) := by
  have below := fraction_lt_half_iff num pos
  have lower := Int.floor_le ((num : ℚ) / den)
  have upper := Int.lt_floor_add_one ((num : ℚ) / den)
  rw [floor_div_cast, Int.cast_natCast] at lower upper
  rw [roundAway_of_nonneg (by positivity), eq_comm, Int.floor_eq_iff]
  unfold roundHalfUp
  dsimp only
  split
  · next small =>
    have := below.mpr small
    rw [Int.cast_natCast]
    constructor <;> linarith
  · next great =>
    have := not_lt.mp (mt below.mp great)
    rw [Int.cast_natCast, Nat.cast_succ]
    constructor <;> linarith

end Whole

theorem zpow_ten_pos (e : ℤ) : (0 : ℚ) < 10 ^ e := zpow_pos (by norm_num) e

/-- The exponent of the last place that a decimal of 28 digits has near a number. -/
def lastPlace (x : ℚ) : ℤ := max (Int.log 10 |x| - (precision - 1)) tiny

/-- The number that stands for an exact result: its multiple of the last place; of two, the even one. -/
def rounded (x : ℚ) : ℚ := roundEven (x / 10 ^ lastPlace x) * 10 ^ lastPlace x

/-- A number that can be written with so many digits, wherever its point is. -/
def HasDigits (x : ℚ) (digits : Nat) : Prop := ∃ m k : ℤ, |m| < 10 ^ digits ∧ x = m * 10 ^ k

/-- A number that can be written with so many digits behind the point. -/
def HasPlaces (x : ℚ) (places : Nat) : Prop := ∃ m : ℤ, x = m / 10 ^ places

section Places

variable {x y : ℚ} {m k : ℤ}

theorem lastPlace_neg (x : ℚ) : lastPlace (-x) = lastPlace x := by
  rw [lastPlace, abs_neg, lastPlace]

theorem rounded_neg (x : ℚ) : rounded (-x) = -rounded x := by
  rw [rounded, lastPlace_neg, neg_div, roundEven_neg, Int.cast_neg, neg_mul, rounded]

@[simp] theorem rounded_zero : rounded 0 = 0 := by
  have zero := roundEven_intCast 0
  rw [Int.cast_zero] at zero
  rw [rounded, zero_div, zero, Int.cast_zero, zero_mul]

/-- A multiple of the last place, or of a higher one, is a whole number of last places. -/
theorem multiple_div (place : lastPlace x ≤ k) (m : ℤ) :
    (m : ℚ) * 10 ^ k / 10 ^ lastPlace x = ((m * 10 ^ (k - lastPlace x).toNat : ℤ) : ℚ) := by
  rw [mul_div_assoc, ← zpow_sub₀ (by norm_num)]
  push_cast
  rw [← zpow_natCast, Int.toNat_of_nonneg (by omega)]

theorem rounded_le (place : lastPlace x ≤ k) (le : x ≤ m * 10 ^ k) : rounded x ≤ m * 10 ^ k := by
  have unit := zpow_ten_pos (lastPlace x)
  rw [rounded, ← le_div_iff₀ unit, multiple_div place, Int.cast_le,
    ← roundEven_intCast (m * 10 ^ (k - lastPlace x).toNat), ← multiple_div place]
  exact roundEven_mono ((div_le_div_iff_of_pos_right unit).mpr le)

theorem le_rounded (place : lastPlace x ≤ k) (le : m * 10 ^ k ≤ x) : m * 10 ^ k ≤ rounded x := by
  have bound := rounded_le (x := -x) (m := -m) (k := k) (by rwa [lastPlace_neg]) (by push_cast; linarith)
  rw [rounded_neg] at bound
  push_cast at bound
  linarith

theorem rounded_nonneg (nonneg : 0 ≤ x) : 0 ≤ rounded x := by
  have bound := le_rounded (x := x) (m := 0) le_rfl (by rwa [Int.cast_zero, zero_mul])
  rwa [Int.cast_zero, zero_mul] at bound

theorem log_bounds (ne : x ≠ 0) :
    (10 : ℚ) ^ Int.log 10 |x| ≤ |x| ∧ |x| < 10 ^ (Int.log 10 |x| + 1) :=
  ⟨Int.zpow_log_le_self (by decide) (abs_pos.mpr ne), Int.lt_zpow_succ_log_self (by decide) _⟩

private theorem rounded_mono_of_pos (pos : 0 < x) (le : x ≤ y) : rounded x ≤ rounded y := by
  have positive := pos.trans_le le
  have logs : Int.log 10 |x| ≤ Int.log 10 |y| := by
    rw [abs_of_pos pos, abs_of_pos positive]
    exact Int.log_mono_right pos le
  by_cases same : lastPlace x = lastPlace y
  · have unit := zpow_ten_pos (lastPlace y)
    rw [rounded, rounded, same]
    refine mul_le_mul_of_nonneg_right (Int.cast_le.mpr (roundEven_mono ?_)) unit.le
    exact (div_le_div_iff_of_pos_right unit).mpr le
  · -- The power of ten that leads the greater number stands between the two.
    have limits : (precision : ℤ) = 28 := by decide
    have apart : Int.log 10 |x| + 1 ≤ Int.log 10 |y| ∧ lastPlace y ≤ Int.log 10 |y| ∧
        lastPlace x ≤ Int.log 10 |y| := by
      unfold lastPlace at same ⊢
      omega
    have below := (log_bounds pos.ne').2
    have above := (log_bounds positive.ne').1
    have reach : (10 : ℚ) ^ (Int.log 10 |x| + 1) ≤ 10 ^ Int.log 10 |y| :=
      zpow_le_zpow_right₀ (by norm_num) apart.1
    have left : rounded x ≤ (1 : ℤ) * 10 ^ Int.log 10 |y| :=
      by
      refine rounded_le apart.2.2 ?_
      rw [Int.cast_one, one_mul]
      exact (le_abs_self x).trans (below.le.trans reach)
    have right : (1 : ℤ) * 10 ^ Int.log 10 |y| ≤ rounded y := by
      refine le_rounded apart.2.1 ?_
      rw [Int.cast_one, one_mul]
      exact above.trans (abs_of_pos positive).le
    exact left.trans right

theorem rounded_mono (le : x ≤ y) : rounded x ≤ rounded y := by
  rcases lt_trichotomy x 0 with neg | rfl | pos
  · rcases le_or_gt 0 y with nonneg | negative
    · have below := rounded_nonneg (neg_nonneg.mpr neg.le)
      rw [rounded_neg] at below
      linarith [rounded_nonneg nonneg]
    · have flipped := rounded_mono_of_pos (neg_pos.mpr negative) (neg_le_neg le)
      rw [rounded_neg, rounded_neg] at flipped
      linarith
  · rw [rounded_zero]
    exact rounded_nonneg le
  · exact rounded_mono_of_pos pos le

theorem abs_rounded (x : ℚ) : |rounded x| = rounded |x| := by
  rcases le_or_gt 0 x with nonneg | neg
  · rw [abs_of_nonneg nonneg, abs_of_nonneg (rounded_nonneg nonneg)]
  · have nonneg := rounded_nonneg (neg_nonneg.mpr neg.le)
    rw [abs_of_neg neg, ← abs_neg, ← rounded_neg, abs_of_nonneg nonneg]

theorem abs_multiple_lt {n : ℕ} (digits : |m| < 10 ^ n) (k : ℤ) :
    |(m : ℚ) * 10 ^ k| < 10 ^ (n + k) := by
  have unit := zpow_ten_pos k
  rw [abs_mul, abs_of_pos unit, ← Int.cast_abs, zpow_add₀ (by norm_num), zpow_natCast]
  exact mul_lt_mul_of_pos_right (by exact_mod_cast digits) unit

theorem lastPlace_le (ne : m ≠ 0) (digits : |m| < 10 ^ precision) (place : tiny ≤ k) :
    lastPlace (m * 10 ^ k) ≤ k := by
  have size := abs_multiple_lt digits k
  have pos : 0 < |(m : ℚ) * 10 ^ k| :=
    abs_pos.mpr (mul_ne_zero (Int.cast_ne_zero.mpr ne) (zpow_ten_pos k).ne')
  have log := (Int.lt_zpow_iff_log_lt (b := 10) (by decide) pos).mp (by exact_mod_cast size)
  unfold lastPlace
  omega

/-- What has no more digits than a decimal can have is left as it is. -/
theorem rounded_eq_self (digits : |m| < 10 ^ precision) (place : tiny ≤ k) :
    rounded (m * 10 ^ k) = m * 10 ^ k := by
  by_cases zero : m = 0
  · rw [zero, Int.cast_zero, zero_mul, rounded_zero]
  have last := lastPlace_le zero digits place
  exact le_antisymm (rounded_le last le_rfl) (le_rounded last le_rfl)

/-- So is what has no digits behind its last place. -/
theorem rounded_of_whole {n : ℕ} (whole : x / 10 ^ lastPlace x = n) : rounded x = x := by
  have same := roundEven_intCast n
  rw [Int.cast_natCast] at same
  rw [rounded, whole, same, Int.cast_natCast, ← whole, div_mul_cancel₀ _ (zpow_ten_pos _).ne']

theorem rounded_power (place : tiny ≤ k) : rounded (10 ^ k) = 10 ^ k := by
  have power := rounded_eq_self (m := 1) (by decide) place
  rwa [Int.cast_one, one_mul] at power

theorem rounded_eq_zero (nonneg : 0 ≤ x) (small : x < 10 ^ k) (below : k < tiny) : rounded x = 0 := by
  rcases nonneg.eq_or_lt with rfl | pos
  · exact rounded_zero
  have log := (Int.lt_zpow_iff_log_lt (b := 10) (by decide) pos).mp (by exact_mod_cast small)
  have limit : (precision : ℤ) = 28 := by decide
  have last : lastPlace x = tiny := by
    rw [lastPlace, abs_of_pos pos]
    omega
  have tenth : (10 : ℚ) ^ k ≤ 10 ^ (tiny - 1) := zpow_le_zpow_right₀ (by norm_num) (by omega)
  rw [zpow_sub_one₀ (by norm_num)] at tenth
  have unit := zpow_ten_pos tiny
  rw [rounded, last, roundEven_eq_zero (div_nonneg nonneg unit.le), Int.cast_zero, zero_mul]
  rw [div_lt_iff₀ unit]
  linarith

/-- What has no more digits than a decimal can have is left as it is, unless it is next to nothing. -/
theorem HasDigits.rounded_cases (digits : HasDigits x precision) :
    rounded x = x ∨ |x| < 1 / 2 ∧ |rounded x| < 1 / 2 := by
  obtain ⟨m, k, size, rfl⟩ := digits
  by_cases place : tiny ≤ k
  · exact Or.inl (rounded_eq_self size place)
  have limits : tiny = -1000026 ∧ (precision : ℤ) = 28 := by decide
  have below : |(m : ℚ) * 10 ^ k| ≤ 10 ^ (precision + tiny) :=
    (abs_multiple_lt size k).le.trans (zpow_le_zpow_right₀ (by norm_num) (by omega))
  have tenth : (10 : ℚ) ^ (precision + tiny) ≤ 10 ^ (-1 : ℤ) :=
    zpow_le_zpow_right₀ (by norm_num) (by omega)
  have rest := rounded_mono below
  rw [rounded_power (by omega), ← abs_rounded] at rest
  norm_num at tenth
  exact Or.inr ⟨by linarith, by linarith⟩

theorem HasDigits.mul_ten {digits : Nat} (has : HasDigits x digits) : HasDigits (x * 10) digits := by
  obtain ⟨m, k, size, rfl⟩ := has
  exact ⟨m, k + 1, size, by rw [zpow_add_one₀ (by norm_num), mul_assoc]⟩

/-- A number below a power of ten, written with its places behind the point and no zeros before it. -/
theorem HasDigits.exists_of_places {n p : ℕ} (digits : HasDigits x n) (places : HasPlaces x p)
    (small : |x| < 10 ^ n) : ∃ m k : ℤ, |m| < 10 ^ n ∧ -(p : ℤ) ≤ k ∧ k ≤ 0 ∧ x = m * 10 ^ k := by
  obtain ⟨m, k, size, value⟩ := digits
  obtain ⟨a, units⟩ := places
  rcases lt_or_ge k (-(p : ℤ)) with deep | within
  · -- Then the last digits of m are zeros, and the whole number of places has fewer digits.
    have shift : (10 : ℚ) ^ k * 10 ^ (-(p : ℤ) - k).toNat = 10 ^ (-(p : ℤ)) := by
      rw [← zpow_natCast, ← zpow_add₀ (by norm_num), Int.toNat_of_nonneg (by omega)]
      congr 1
      omega
    have same : (m : ℚ) = a * 10 ^ (-(p : ℤ) - k).toNat := by
      have unit := (zpow_ten_pos k).ne'
      refine mul_right_cancel₀ unit ?_
      rw [← value, units, mul_assoc, mul_comm _ ((10 : ℚ) ^ k), shift, zpow_neg, zpow_natCast]
      rfl
    have grown : m = a * 10 ^ (-(p : ℤ) - k).toNat := by exact_mod_cast same
    refine ⟨a, -p, lt_of_le_of_lt ?_ size, le_rfl, by omega, ?_⟩
    · rw [grown, abs_mul]
      refine le_mul_of_one_le_right (abs_nonneg a) ?_
      rw [abs_of_pos (by positivity)]
      exact one_le_pow₀ (by norm_num)
    · rw [units, zpow_neg, zpow_natCast]
      rfl
  rcases le_or_gt k 0 with behind | before
  · exact ⟨m, k, size, within, behind, value⟩
  · have whole : x = (m * 10 ^ k.toNat : ℤ) := by
      rw [value]
      push_cast
      rw [← zpow_natCast, Int.toNat_of_nonneg before.le]
    refine ⟨m * 10 ^ k.toNat, 0, ?_, by omega, le_rfl, by rw [zpow_zero, mul_one, whole]⟩
    rw [whole, ← Int.cast_abs] at small
    exact_mod_cast small

end Places

end Thermostat.Decimal
