import Mathlib.Tactic.LinearCombination
import Mathlib.Tactic.Ring
import Thermostat.Proofs.Decimal.Rounding
import Thermostat.Proofs.Decimal.Number

/-! The operations give the number that their exact result is rounded to, unless it is too large to be
held. -/
namespace Thermostat.Decimal

/-- What an operation gives whose exact result is a number. -/
inductive Gives (x : ℚ) : Except Signal Decimal → Prop
  | ok {r : Decimal} (value : r.toRat = rounded x) (fits : |rounded x| < 10 ^ (maxExponent + 1)) :
    Gives x (.ok r)
  | overflow (great : 10 ^ (maxExponent + 1) ≤ |rounded x|) : Gives x (.error .overflow)

namespace Gives

variable {x : ℚ} {op : Except Signal Decimal} {r : Decimal}

theorem value_eq (gives : Gives x op) (ok : op = .ok r) : r.toRat = rounded x := by
  cases gives with
  | ok value _ => cases ok; exact value
  | overflow _ => cases ok

theorem exists_ok (gives : Gives x op) (fits : |rounded x| < 10 ^ (maxExponent + 1)) :
    ∃ r, op = .ok r ∧ r.toRat = rounded x := by
  cases gives with
  | ok value _ => exact ⟨_, rfl, value⟩
  | overflow great => exact absurd great (not_le.mpr fits)

/-- A result of up to 28 digits, in units of a place behind the point, loses none of them. -/
theorem exact {m k : ℤ} (gives : Gives (m * 10 ^ k) op) (digits : |m| < 10 ^ precision)
    (place : tiny ≤ k) (below : k ≤ 0) : ∃ r, op = .ok r ∧ r.toRat = m * 10 ^ k := by
  have same := rounded_eq_self digits place
  have limits : ((precision : ℕ) : ℤ) ≤ maxExponent + 1 := by decide
  have fits : |(m : ℚ) * 10 ^ k| < 10 ^ (maxExponent + 1) :=
    (abs_multiple_lt digits k).trans_le (zpow_le_zpow_right₀ (by norm_num) (by omega))
  obtain ⟨r, ok, value⟩ := gives.exists_ok (by rwa [same])
  exact ⟨r, ok, value.trans same⟩

end Gives

/-- A number with the sign that a decimal would show. -/
def signed (negative : Bool) (x : ℚ) : ℚ := if negative then -x else x

section Signs

variable {negative : Bool} {x : ℚ} {r : Decimal}

theorem toRat_eq_signed (r : Decimal) : r.toRat = signed r.negative |r.toRat| := by
  rw [abs_toRat, toRat, sign, signed]
  split
  · rw [Int.cast_neg, Int.cast_one, neg_one_mul]
  · rw [Int.cast_one, one_mul]

theorem rounded_signed (negative : Bool) (x : ℚ) :
    rounded (signed negative x) = signed negative (rounded x) := by
  cases negative with
  | true => exact rounded_neg x
  | false => rfl

theorem abs_signed (negative : Bool) (x : ℚ) : |signed negative x| = |x| := by
  cases negative with
  | true => exact abs_neg x
  | false => rfl

/-- A rounding that does not favour a sign keeps it. -/
theorem cast_signed {round : ℚ → ℤ} (odd : ∀ x, round (-x) = -round x) (negative : Bool) (x : ℚ) :
    ((round (signed negative x) : ℤ) : ℚ) = signed negative (round x) := by
  cases negative with
  | true =>
    change ((round (-x) : ℤ) : ℚ) = -(round x : ℚ)
    rw [odd, Int.cast_neg]
  | false => rfl

theorem Gives.of_abs (sign : r.negative = negative) (value : |r.toRat| = rounded x)
    (fits : |r.toRat| < 10 ^ (maxExponent + 1)) : Gives (signed negative x) (.ok r) := by
  refine .ok ?_ ?_
  · rw [toRat_eq_signed, value, sign, rounded_signed]
  · rwa [rounded_signed, abs_signed, ← value, abs_abs]

theorem Gives.overflow_of_le (negative : Bool) (great : 10 ^ (maxExponent + 1) ≤ rounded x) :
    Gives (signed negative x) (.error .overflow) := by
  refine .overflow ?_
  rw [rounded_signed, abs_signed]
  exact great.trans (le_abs_self _)

end Signs

section Size

variable {n : Nat} {r : Decimal}

theorem powerOfTen_cast_zpow (k : Nat) : ((powerOfTen k : ℕ) : ℚ) = 10 ^ (k : ℤ) := by
  rw [powerOfTen_cast, zpow_natCast]

theorem log_eq_of_bounds {x : ℚ} {k : ℤ} (lower : 10 ^ k ≤ x) (upper : x < 10 ^ (k + 1)) :
    Int.log 10 x = k := by
  have pos := (zpow_ten_pos k).trans_le lower
  have least := (Int.zpow_le_iff_le_log (b := 10) (by decide) pos).mp (by exact_mod_cast lower)
  have most := (Int.lt_zpow_iff_log_lt (b := 10) (by decide) pos).mp (by exact_mod_cast upper)
  omega

theorem lt_zpow_digitCount (n : Nat) : (n : ℚ) < 10 ^ (digitCount n : ℤ) := by
  rw [← powerOfTen_cast_zpow]
  exact Nat.cast_lt.mpr (lt_powerOfTen_digitCount n)

theorem digitCount_bounds (ne : n ≠ 0) :
    (10 : ℚ) ^ ((digitCount n : ℤ) - 1) ≤ n ∧ (n : ℚ) < 10 ^ (digitCount n : ℤ) := by
  have pos := digitCount_pos n
  have lower := powerOfTen_le_of_ne_zero ne
  have one : (digitCount n : ℤ) - 1 = ((digitCount n - 1 : ℕ) : ℤ) := by omega
  refine ⟨?_, lt_zpow_digitCount n⟩
  rw [one, ← powerOfTen_cast_zpow]
  exact Nat.cast_le.mpr lower

theorem abs_toRat_lt (r : Decimal) : |r.toRat| < 10 ^ (r.adjusted + 1) := by
  have leading : (10 : ℚ) ^ (r.adjusted + 1) = 10 ^ (digitCount r.coefficient : ℤ) * 10 ^ r.exponent := by
    rw [← zpow_add₀ (by norm_num)]
    congr 1
    unfold Decimal.adjusted
    omega
  rw [abs_toRat, leading]
  exact mul_lt_mul_of_pos_right (lt_zpow_digitCount _) (zpow_ten_pos _)

theorem abs_toRat_bounds (ne : r.coefficient ≠ 0) :
    (10 : ℚ) ^ r.adjusted ≤ |r.toRat| ∧ |r.toRat| < 10 ^ (r.adjusted + 1) := by
  have lower := (digitCount_bounds ne).1
  have adjusted : r.adjusted = (digitCount r.coefficient : ℤ) - 1 + r.exponent := by
    unfold Decimal.adjusted
    omega
  refine ⟨?_, abs_toRat_lt r⟩
  rw [abs_toRat, adjusted, zpow_add₀ (by norm_num)]
  exact mul_le_mul_of_nonneg_right lower (zpow_ten_pos _).le

/-- A decimal whose leading digit stands two places below a unit, or more, is less than half of it. -/
theorem abs_toRat_div_lt_half {place : ℤ} (narrow : r.adjusted + 1 < place) :
    |r.toRat| / 10 ^ place < 1 / 2 := by
  rw [div_lt_iff₀ (zpow_ten_pos place)]
  calc |r.toRat| < 10 ^ (r.adjusted + 1) := abs_toRat_lt r
    _ ≤ 10 ^ (place - 1) := zpow_le_zpow_right₀ (by norm_num) (by omega)
    _ = 1 / 10 * 10 ^ place := by
      rw [zpow_sub_one₀ (by norm_num)]
      ring
    _ ≤ 1 / 2 * 10 ^ place := mul_le_mul_of_nonneg_right (by norm_num) (zpow_ten_pos place).le

/-- A decimal is zero just if its coefficient is. -/
theorem toRat_eq_zero_iff : r.toRat = 0 ↔ r.coefficient = 0 := by
  rw [← abs_eq_zero, abs_toRat, mul_eq_zero, Nat.cast_eq_zero, or_iff_left (zpow_ten_pos _).ne']

theorem log_toRat (ne : r.coefficient ≠ 0) : Int.log 10 |r.toRat| = r.adjusted := by
  obtain ⟨lower, upper⟩ := abs_toRat_bounds ne
  exact log_eq_of_bounds lower upper

/-- A decimal has the digits of its coefficient. -/
theorem hasDigits_toRat {digits : Nat} (pos : 0 < digits) (few : digitCount r.coefficient ≤ digits) :
    HasDigits r.toRat digits := by
  have below := (digitCount_le_iff pos).mp few
  refine ⟨r.sign * r.coefficient, r.exponent, ?_, ?_⟩
  · rw [abs_mul, abs_sign, one_mul, Nat.abs_cast]
    exact_mod_cast below
  · rw [toRat]
    push_cast
    ring

/-- A decimal has the places that its exponent counts. -/
theorem hasPlaces_toRat {places : Nat} (few : -(places : ℤ) ≤ r.exponent) :
    HasPlaces r.toRat places := by
  have split : (10 : ℚ) ^ r.exponent = 10 ^ (r.exponent + places).toNat / 10 ^ places := by
    rw [← zpow_natCast, ← zpow_natCast, Int.toNat_of_nonneg (by omega), ← zpow_sub₀ (by norm_num),
      add_sub_cancel_right]
  refine ⟨r.sign * r.coefficient * 10 ^ (r.exponent + places).toNat, ?_⟩
  rw [toRat, split]
  push_cast
  ring

/-- The exponent of the leading digit tells how large a decimal is. -/
theorem lt_adjusted_iff {k : ℤ} (low : r.exponent ≤ k) :
    k < r.adjusted ↔ 10 ^ (k + 1) ≤ |r.toRat| := by
  by_cases zero : r.coefficient = 0
  · have one : digitCount 0 = 1 := by decide
    have size : |r.toRat| = 0 := abs_eq_zero.mpr (toRat_eq_zero_iff.mpr zero)
    unfold Decimal.adjusted
    rw [zero, one, size]
    exact iff_of_false (by omega) (not_le.mpr (zpow_ten_pos _))
  obtain ⟨lower, upper⟩ := abs_toRat_bounds zero
  constructor
  · intro less
    exact (zpow_le_zpow_right₀ (by norm_num) less).trans lower
  · intro above
    have less := (zpow_lt_zpow_iff_right₀ (by norm_num)).mp (above.trans_lt upper)
    omega

end Size

section Quotient

variable {num den : Nat} {e : ℤ}

/-- The leading exponent of a quotient is that of the power of ten below it. -/
theorem leadingExponent_spec (num_ne : num ≠ 0) (den_ne : den ≠ 0) :
    (den : ℚ) * 10 ^ leadingExponent num den ≤ num ∧
      (num : ℚ) < den * 10 ^ (leadingExponent num den + 1) := by
  obtain ⟨num_ge, num_lt⟩ := digitCount_bounds num_ne
  obtain ⟨den_ge, den_lt⟩ := digitCount_bounds den_ne
  have scaled (e : ℤ) : den * powerOfTen e.toNat ≤ num * powerOfTen (-e).toNat ↔
      (den : ℚ) * 10 ^ e ≤ num := by
    have pos : (0 : ℚ) < powerOfTen (-e).toNat := Nat.cast_pos.mpr (powerOfTen_pos _)
    rw [← mul_le_mul_iff_of_pos_right pos, mul_assoc, zpow_mul_powerOfTen]
    exact_mod_cast Iff.rfl
  unfold leadingExponent
  dsimp only
  generalize exponent : (digitCount num : ℤ) - digitCount den = e
  split
  · next fits =>
    refine ⟨(scaled e).mp fits, num_lt.trans_le ?_⟩
    calc (10 : ℚ) ^ (digitCount num : ℤ)
        = 10 ^ ((digitCount den : ℤ) - 1) * 10 ^ (e + 1) := by
          rw [← zpow_add₀ (by norm_num)]
          congr 1
          omega
      _ ≤ den * 10 ^ (e + 1) := mul_le_mul_of_nonneg_right den_ge (zpow_ten_pos _).le
  · next exceeds =>
    rw [sub_add_cancel]
    refine ⟨le_trans ?_ num_ge, not_le.mp fun fits => exceeds ((scaled e).mpr fits)⟩
    calc (den : ℚ) * 10 ^ (e - 1)
        ≤ 10 ^ (digitCount den : ℤ) * 10 ^ (e - 1) :=
          mul_le_mul_of_nonneg_right den_lt.le (zpow_ten_pos _).le
      _ = 10 ^ ((digitCount num : ℤ) - 1) := by
          rw [← zpow_add₀ (by norm_num)]
          congr 1
          omega

/-- The leading exponent and the exponent together bound a quotient. -/
theorem quotient_bounds (num_ne : num ≠ 0) (den_pos : 0 < den) :
    (10 : ℚ) ^ (leadingExponent num den + e) ≤ num * 10 ^ e / den ∧
      (num : ℚ) * 10 ^ e / den < 10 ^ (leadingExponent num den + e + 1) := by
  obtain ⟨lower, upper⟩ := leadingExponent_spec num_ne den_pos.ne'
  have den_pos : (0 : ℚ) < den := Nat.cast_pos.mpr den_pos
  have unit := zpow_ten_pos e
  rw [le_div_iff₀ den_pos, div_lt_iff₀ den_pos, add_right_comm, zpow_add₀ (by norm_num),
    zpow_add₀ (by norm_num) (leadingExponent num den + 1)]
  constructor
  · calc (10 : ℚ) ^ leadingExponent num den * 10 ^ e * den
        = den * 10 ^ leadingExponent num den * 10 ^ e := by ring
      _ ≤ num * 10 ^ e := mul_le_mul_of_nonneg_right lower unit.le
  · calc (num : ℚ) * 10 ^ e < den * 10 ^ (leadingExponent num den + 1) * 10 ^ e :=
          mul_lt_mul_of_pos_right upper unit
      _ = 10 ^ (leadingExponent num den + 1) * 10 ^ e * den := by ring

theorem log_quotient (num_ne : num ≠ 0) (den_pos : 0 < den) :
    Int.log 10 |(num : ℚ) * 10 ^ e / den| = leadingExponent num den + e := by
  obtain ⟨lower, upper⟩ := quotient_bounds (e := e) num_ne den_pos
  rw [abs_of_pos ((zpow_ten_pos _).trans_le lower)]
  exact log_eq_of_bounds lower upper

/-- A quotient in units of a place is the number divided by that place. -/
theorem inUnits_div (num : Nat) (den_pos : 0 < den) (e q : ℤ) :
    ((inUnits num den e q).1 : ℚ) / (inUnits num den e q).2 = num * 10 ^ e / den / 10 ^ q := by
  have units : (10 : ℚ) ^ q * 10 ^ ((e - q).toNat : ℤ) = 10 ^ e * 10 ^ ((q - e).toNat : ℤ) := by
    rw [← zpow_add₀ (by norm_num), ← zpow_add₀ (by norm_num)]
    congr 1
    omega
  have den_ne : (den : ℚ) ≠ 0 := Nat.cast_ne_zero.mpr den_pos.ne'
  have unit := (zpow_ten_pos q).ne'
  have scale := (zpow_ten_pos ((q - e).toNat : ℤ)).ne'
  unfold inUnits
  push_cast
  rw [powerOfTen_cast_zpow, powerOfTen_cast_zpow, div_div, div_eq_div_iff (mul_ne_zero den_ne scale)
    (mul_ne_zero den_ne unit)]
  linear_combination (num : ℚ) * den * units

/-- The size of a decimal in units of a place. -/
theorem inUnits_coefficient (r : Decimal) (place : ℤ) :
    ((inUnits r.coefficient 1 r.exponent place).1 : ℚ) / (inUnits r.coefficient 1 r.exponent place).2 =
      |r.toRat| / 10 ^ place := by
  rw [inUnits_div _ Nat.one_pos, Nat.cast_one, div_one, abs_toRat]

theorem inUnits_pos (num : Nat) (den_pos : 0 < den) (e q : ℤ) : 0 < (inUnits num den e q).2 :=
  Nat.mul_pos den_pos (powerOfTen_pos _)

theorem natCast_div_of_mod {n d : Nat} (pos : 0 < d) (whole : n % d = 0) :
    (n : ℚ) / d = (n / d : ℕ) := by
  rw [div_eq_iff (Nat.cast_ne_zero.mpr pos.ne')]
  exact_mod_cast (Nat.div_mul_cancel (Nat.dvd_of_mod_eq_zero whole)).symm

theorem negative_roundAt (negative : Bool) (num den : Nat) (e q : ℤ) :
    (roundAt negative num den e q).negative = negative := by
  unfold roundAt
  dsimp only
  split <;> rfl

theorem abs_toRat_roundAt (negative : Bool) (num : Nat) (den_pos : 0 < den) (e q : ℤ) :
    |(roundAt negative num den e q).toRat| = roundEven (num * 10 ^ e / den / 10 ^ q) * 10 ^ q := by
  rw [← inUnits_div num den_pos, ← roundHalfEven_cast _ (inUnits_pos num den_pos e q)]
  unfold roundAt
  generalize inUnits num den e q = u
  obtain ⟨n, d⟩ := u
  dsimp only
  split
  · next grown =>
    rw [beq_iff_eq.mp grown, abs_toRat, Int.cast_natCast, powerOfTen_cast_zpow, powerOfTen_cast_zpow,
      ← zpow_add₀ (by norm_num), ← zpow_add₀ (by norm_num)]
    congr 1
    change ((27 : ℕ) : ℤ) + (q + 1) = ((28 : ℕ) : ℤ) + q
    omega
  · rw [abs_toRat, Int.cast_natCast]

/-- An exact result of the given place is not changed by dropping zeros from its coefficient. -/
theorem abs_toRat_stripped (negative : Bool) (den_pos : 0 < den) {q : ℤ} (fuel : Nat)
    (whole : (inUnits num den e q).1 % (inUnits num den e q).2 = 0) :
    |(⟨negative, (stripZeros fuel ((inUnits num den e q).1 / (inUnits num den e q).2)).1,
      q + (stripZeros fuel ((inUnits num den e q).1 / (inUnits num den e q).2)).2⟩ : Decimal).toRat| =
      num * 10 ^ e / den := by
  have value := inUnits_div num den_pos e q
  have pos := inUnits_pos num den_pos e q
  generalize inUnits num den e q = u at whole value pos ⊢
  obtain ⟨n, d⟩ := u
  dsimp only at whole value pos ⊢
  have zeros := stripZeros_spec fuel (n / d)
  generalize stripZeros fuel (n / d) = stripped at zeros ⊢
  rw [abs_toRat, zpow_add₀ (by norm_num), ← powerOfTen_cast_zpow stripped.2, mul_left_comm,
    ← Nat.cast_mul, zeros, ← natCast_div_of_mod pos whole, value, mul_div_cancel₀ _ (zpow_ten_pos q).ne']

theorem exponent_roundAt_le (negative : Bool) (num den : Nat) (e q : ℤ) :
    (roundAt negative num den e q).exponent ≤ q + 1 := by
  unfold roundAt
  dsimp only
  split
  · exact le_rfl
  · dsimp only
    omega

/-- A quotient is rounded once, at its last place. -/
theorem gives_ofQuotient {negative : Bool} (den_pos : 0 < den) :
    Gives (signed negative (num * 10 ^ e / den)) (ofQuotient negative num den e) := by
  have limits : maxExponent = 999999 ∧ tiny = -1000026 ∧ (precision : ℤ) = 28 := by decide
  by_cases zero : num = 0
  · subst zero
    refine Gives.of_abs rfl ?_ ?_
    · rw [abs_toRat, Nat.cast_zero, zero_mul, zero_mul, zero_div, rounded_zero]
    · rw [abs_toRat, Nat.cast_zero, zero_mul]
      exact zpow_ten_pos _
  obtain ⟨lower, upper⟩ := quotient_bounds (e := e) zero den_pos
  have last : max (leadingExponent num den + e - (precision - 1)) tiny =
      lastPlace (num * 10 ^ e / den) := by
    rw [lastPlace, log_quotient zero den_pos]
  have nonzero : ¬ (num == 0) = true := by simpa using zero
  unfold ofQuotient
  dsimp only
  rw [if_neg nonzero, last]
  split
  · next beyond =>
    refine .overflow_of_le negative (le_trans ?_ (rounded_mono lower))
    rw [rounded_power (by omega)]
    exact zpow_le_zpow_right₀ (by norm_num) (by omega)
  split
  · next underflow =>
    have none : |(⟨negative, 0, tiny⟩ : Decimal).toRat| = 0 := by
      rw [abs_toRat, Nat.cast_zero, zero_mul]
    refine .of_abs rfl ?_ ?_
    · rw [none, rounded_eq_zero ((zpow_ten_pos _).le.trans lower) upper underflow]
    · rw [none]
      exact zpow_ten_pos _
  split
  · next whole =>
    rw [Bool.and_eq_true, beq_iff_eq] at whole
    have same := abs_toRat_stripped negative den_pos (e - lastPlace (num * 10 ^ e / den)).toNat whole.2
    have units := inUnits_div num den_pos e (lastPlace (num * 10 ^ e / den))
    rw [natCast_div_of_mod (inUnits_pos num den_pos e _) whole.2] at units
    refine .of_abs rfl (same.trans (rounded_of_whole units.symm).symm) ?_
    rw [same]
    exact upper.trans_le (zpow_le_zpow_right₀ (by norm_num) (by omega))
  · have same := abs_toRat_roundAt negative num den_pos e (lastPlace (num * 10 ^ e / den))
    change _ = rounded _ at same
    have low := exponent_roundAt_le negative num den e (lastPlace (num * 10 ^ e / den))
    have within := lt_adjusted_iff (k := maxExponent) (low.trans (by rw [← last]; omega))
    split
    · next beyond =>
      refine .overflow_of_le negative ?_
      rw [← same]
      exact within.mp beyond
    · next fits => exact .of_abs (negative_roundAt ..) same (not_le.mp (mt within.mpr fits))

end Quotient

section Operations

variable {x y r : Decimal}

theorem signed_mul_signed (a b : Bool) (u v : ℚ) :
    signed a u * signed b v = signed (a != b) (u * v) := by
  cases a <;> cases b <;> simp [signed]

theorem signed_div_signed (a b : Bool) (u v : ℚ) :
    signed a u / signed b v = signed (a != b) (u / v) := by
  cases a <;> cases b <;> simp [signed, neg_div, div_neg]

theorem gives_mul (x y : Decimal) : Gives (x.toRat * y.toRat) (x.mul y) := by
  have exact : ((x.coefficient * y.coefficient : ℕ) : ℚ) * 10 ^ (x.exponent + y.exponent) / (1 : ℕ) =
      |x.toRat| * |y.toRat| := by
    rw [abs_toRat, abs_toRat, Nat.cast_one, div_one, Nat.cast_mul, zpow_add₀ (by norm_num)]
    ring
  rw [toRat_eq_signed x, toRat_eq_signed y, signed_mul_signed, ← exact]
  exact gives_ofQuotient Nat.one_pos

theorem gives_div (x : Decimal) (divisor : y.coefficient ≠ 0) :
    Gives (x.toRat / y.toRat) (x.div y) := by
  have exact : (x.coefficient : ℚ) * 10 ^ (x.exponent - y.exponent) / y.coefficient =
      |x.toRat| / |y.toRat| := by
    rw [abs_toRat, abs_toRat, zpow_sub₀ (by norm_num)]
    ring
  rw [toRat_eq_signed x, toRat_eq_signed y, signed_div_signed, ← exact]
  exact gives_ofQuotient (Nat.pos_of_ne_zero divisor)

theorem signedIn_value {unit : ℤ} (le : unit ≤ x.exponent) :
    (x.signedIn unit : ℚ) * 10 ^ unit = x.toRat := by
  have split : (10 : ℚ) ^ x.exponent = 10 ^ ((x.exponent - unit).toNat : ℤ) * 10 ^ unit := by
    rw [← zpow_add₀ (by norm_num)]
    congr 1
    omega
  unfold signedIn
  dsimp only
  rw [← sign_mul_eq_ite, toRat, split]
  push_cast
  rw [powerOfTen_cast_zpow]
  ring

theorem signed_natAbs (negative : Bool) (s e : ℤ) :
    (s : ℚ) * 10 ^ e = signed (if s == 0 then negative else s < 0) (s.natAbs * 10 ^ e / (1 : ℕ)) := by
  rw [Nat.cast_one, div_one, Nat.cast_natAbs]
  rcases lt_trichotomy s 0 with neg | rfl | pos
  · rw [if_neg (by simpa using neg.ne), decide_eq_true neg, abs_of_neg neg, signed, if_pos rfl,
      Int.cast_neg, neg_mul, neg_neg]
  · simp [signed]
  · rw [if_neg (by simpa using pos.ne'), decide_eq_false pos.not_gt, abs_of_pos pos, signed,
      if_neg Bool.false_ne_true]

theorem gives_add (x y : Decimal) : Gives (x.toRat + y.toRat) (x.add y) := by
  have exact : x.toRat + y.toRat =
      (x.signedIn (min x.exponent y.exponent) + y.signedIn (min x.exponent y.exponent) : ℤ) *
        10 ^ min x.exponent y.exponent := by
    rw [← signedIn_value (Int.min_le_left x.exponent y.exponent),
      ← signedIn_value (Int.min_le_right x.exponent y.exponent), ← add_mul, Int.cast_add]
  rw [exact, signed_natAbs (x.negative && y.negative)]
  exact gives_ofQuotient Nat.one_pos

theorem gives_sub (x y : Decimal) : Gives (x.toRat - y.toRat) (x.sub y) := by
  rw [sub_eq_add_neg, ← toRat_neg]
  exact gives_add x y.neg

end Operations

/-- What a number gives that is put in units of a place. -/
inductive GivesAt (place : ℤ) (x : ℚ) : Except Signal Decimal → Prop
  | ok {r : Decimal} (exponent : r.exponent = place)
    (value : r.toRat = roundAway (x / 10 ^ place) * 10 ^ place)
    (fits : |roundAway (x / 10 ^ place)| < 10 ^ precision) : GivesAt place x (.ok r)
  | invalid (great : 10 ^ precision ≤ |roundAway (x / 10 ^ place)|) :
    GivesAt place x (.error .invalidOperation)

section Quantize

variable {x : Decimal} {place : ℤ}

theorem signed_mul (negative : Bool) (u v : ℚ) : signed negative u * v = signed negative (u * v) := by
  cases negative with
  | true => exact neg_mul u v
  | false => rfl

theorem signed_div (negative : Bool) (u v : ℚ) : signed negative u / v = signed negative (u / v) := by
  cases negative with
  | true => exact neg_div v u
  | false => rfl

theorem roundAway_signed (negative : Bool) (x : ℚ) :
    ((roundAway (signed negative x) : ℤ) : ℚ) = signed negative (roundAway x) :=
  cast_signed roundAway_neg negative x

theorem abs_roundAway_div (x : ℚ) (place : ℤ) :
    |roundAway (x / 10 ^ place)| = roundAway (|x| / 10 ^ place) := by
  rw [abs_roundAway, abs_div, abs_of_pos (zpow_ten_pos place)]

theorem GivesAt.of_abs {c : Nat} (value : (c : ℤ) = roundAway (|x.toRat| / 10 ^ place))
    (fits : (c : ℤ) < 10 ^ precision) : GivesAt place x.toRat (.ok ⟨x.negative, c, place⟩) := by
  refine .ok rfl ?_ ?_
  · rw [toRat_eq_signed x, signed_div, roundAway_signed, ← value, signed_mul, toRat_eq_signed, abs_toRat,
      Int.cast_natCast]
  · rwa [abs_roundAway_div, ← value]

theorem gives_quantize (x : Decimal) (place : ℤ) : GivesAt place x.toRat (x.quantize place) := by
  have unit := zpow_ten_pos place
  unfold quantize
  by_cases zero : x.coefficient = 0
  · rw [if_pos (by simpa using zero)]
    have size : |x.toRat| = 0 := abs_eq_zero.mpr (toRat_eq_zero_iff.mpr zero)
    refine .of_abs ?_ (by positivity)
    rw [size, zero_div, roundAway_zero, Nat.cast_zero]
  rw [if_neg (by simpa using zero)]
  have lower := (abs_toRat_bounds zero).1
  have width : (digitCount x.coefficient : ℤ) + (x.exponent - place) = x.adjusted + 1 - place := by
    unfold Decimal.adjusted
    omega
  dsimp only
  rw [width]
  split
  · next wide =>
    have great : (((10 ^ precision : ℤ)) : ℚ) ≤ |x.toRat / 10 ^ place| := by
      rw [abs_div, abs_of_pos unit, le_div_iff₀ unit]
      refine le_trans ?_ lower
      push_cast
      rw [← zpow_natCast, ← zpow_add₀ (by norm_num)]
      exact zpow_le_zpow_right₀ (by norm_num) (by omega)
    exact .invalid (le_abs_roundAway great)
  split
  · next narrow =>
    have tenth : |x.toRat| / 10 ^ place < 1 / 2 := abs_toRat_div_lt_half (by omega)
    refine .of_abs ?_ (by positivity)
    rw [roundAway_eq_zero (by rwa [abs_of_nonneg (div_nonneg (abs_nonneg _) unit.le)]), Int.ofNat_zero]
  · have units := inUnits_coefficient x place
    have value := roundHalfUp_cast (inUnits x.coefficient 1 x.exponent place).1
      (inUnits_pos x.coefficient Nat.one_pos x.exponent place)
    rw [units] at value
    have digits := digitCount_le_iff (k := precision) (by decide)
      (n := roundHalfUp (inUnits x.coefficient 1 x.exponent place).1
        (inUnits x.coefficient 1 x.exponent place).2)
    rw [← Nat.cast_lt (α := ℤ), value] at digits
    split
    · next wide => exact .invalid (by rw [abs_roundAway_div]; exact not_lt.mp (mt digits.mpr wide.not_ge))
    · next fits => exact .of_abs value (value ▸ digits.mp (not_lt.mp fits))

end Quantize

end Thermostat.Decimal
