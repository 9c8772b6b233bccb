import Thermostat.Field
import Thermostat.Proofs.Temperature

/-! What a reading is converted to: the number that its exact result is rounded to, step by step. -/
namespace Thermostat

namespace Temperature

open Decimal (Gives HasDigits HasPlaces Signal ofInt precision maxExponent rounded roundAway)

variable {scale : TemperatureScale} {relative : Bool} {d f : Decimal} {t : Temperature}

theorem toRat_eq_wholeOf (place : f.exponent = 0) : f.toRat = wholeOf f := by
  rw [Decimal.toRat, place, zpow_zero, mul_one]
  unfold wholeOf Decimal.sign
  split
  · push_cast
    ring
  · push_cast
    ring

theorem toRat_ofInt_ofNat (n : Nat) [n.AtLeastTwo] :
    (ofInt (OfNat.ofNat n)).toRat = OfNat.ofNat n := by
  rw [Decimal.toRat_ofInt, Int.cast_ofNat]

/-- The last two steps of a conversion: ten times the degrees, rounded, and then the whole tenths. -/
theorem ofDegrees_of_fahrenheit (degrees : fahrenheit scale relative d = .ok f) :
    ofDegrees scale relative d =
      if 10 ^ (maxExponent + 1) ≤ |rounded (f.toRat * 10)| then .error .overflow
      else if 10 ^ precision ≤ |roundAway (rounded (f.toRat * 10))| then .error .invalidOperation
      else .ok ⟨roundAway (rounded (f.toRat * 10))⟩ := by
  have product := Decimal.gives_mul f (ofInt 10)
  rw [toRat_ofInt_ofNat] at product
  unfold ofDegrees
  simp only [degrees, bind, Except.bind]
  generalize f.mul (ofInt 10) = op at product
  cases product with
  | overflow great => rw [if_pos great]
  | @ok r value fits =>
    have whole := Decimal.gives_quantize r 0
    rw [if_neg (not_le.mpr fits), ← value]
    dsimp only
    generalize r.quantize 0 = op at whole
    cases whole with
    | invalid great =>
      rw [zpow_zero, div_one] at great
      rw [if_pos great]
    | @ok w place value fits =>
      rw [zpow_zero, div_one] at value fits
      rw [mul_one, toRat_eq_wholeOf place, Int.cast_inj] at value
      rw [if_neg (not_le.mpr fits), ← value]

/-- The degrees Fahrenheit that a number of local degrees is rounded to, step by step. -/
def degreesOf (scale : TemperatureScale) (relative : Bool) (x : ℚ) : ℚ :=
  match scale with
  | .fahrenheit => x
  | .celsius =>
    if relative then rounded (rounded (x * 9) / 5) else rounded (rounded (rounded (x * 9) / 5) + 32)

theorem degreesOf_mono (scale : TemperatureScale) (relative : Bool) {x y : ℚ} (le : x ≤ y) :
    degreesOf scale relative x ≤ degreesOf scale relative y := by
  cases scale with
  | fahrenheit => exact le
  | celsius =>
    have fifth : rounded (rounded (x * 9) / 5) ≤ rounded (rounded (y * 9) / 5) := by
      have ninefold : rounded (x * 9) ≤ rounded (y * 9) := Decimal.rounded_mono (by linarith)
      exact Decimal.rounded_mono (by linarith)
    cases relative with
    | true => exact fifth
    | false => exact Decimal.rounded_mono (by linarith)

theorem toRat_fahrenheit (degrees : fahrenheit scale relative d = .ok f) :
    f.toRat = degreesOf scale relative d.toRat := by
  cases scale with
  | fahrenheit =>
    cases degrees
    rfl
  | celsius =>
    obtain ⟨m, product, degrees⟩ := bind_eq_ok_iff.mp degrees
    obtain ⟨q, quotient, degrees⟩ := bind_eq_ok_iff.mp degrees
    have ninefold := (Decimal.gives_mul d (ofInt 9)).value_eq product
    have fifth := (Decimal.gives_div m (y := ofInt 5) (by decide)).value_eq quotient
    rw [ninefold, toRat_ofInt_ofNat, toRat_ofInt_ofNat] at fifth
    unfold degreesOf
    split at degrees
    · next asked =>
      cases degrees
      rw [if_pos asked, fifth]
    · next asked =>
      have shifted := (Decimal.gives_add q (ofInt 32)).value_eq degrees
      rw [if_neg asked, shifted, fifth, toRat_ofInt_ofNat]

/-- What a conversion gives is its exact result, rounded step by step, and has up to 28 digits. -/
theorem tenths_spec (ok : ofDegrees scale relative d = .ok t) :
    t.tenths = roundAway (rounded (degreesOf scale relative d.toRat * 10)) ∧
      |t.tenths| < 10 ^ precision := by
  obtain ⟨f, degrees, -⟩ := bind_eq_ok_iff.mp ok
  rw [ofDegrees_of_fahrenheit degrees, toRat_fahrenheit degrees] at ok
  split at ok
  · cases ok
  split at ok
  · cases ok
  · next fits =>
    cases ok
    exact ⟨rfl, not_le.mp fits⟩

theorem ofDegrees_mono {e : Decimal} {s : Temperature} (le : d.toRat ≤ e.toRat)
    (left : ofDegrees scale relative d = .ok s) (right : ofDegrees scale relative e = .ok t) :
    s.tenths ≤ t.tenths := by
  rw [(tenths_spec left).1, (tenths_spec right).1]
  refine Decimal.roundAway_mono (Decimal.rounded_mono ?_)
  exact mul_le_mul_of_nonneg_right (degreesOf_mono scale relative le) (by norm_num)

theorem overflow_iff (x : ℚ) : 10 ^ (maxExponent + 1) ≤ |x| ↔ 999999 < Int.log 10 |x| := by
  rcases eq_or_ne x 0 with rfl | ne
  · rw [abs_zero, Int.log_zero_right]
    exact iff_of_false (not_le.mpr (Decimal.zpow_ten_pos _)) (by decide)
  · have reach := Int.zpow_le_iff_le_log (b := 10) (x := maxExponent + 1) (by decide) (abs_pos.mpr ne)
    rw [Nat.cast_ofNat] at reach
    exact reach

/-- What overflows is too large to be put in whole tenths as well. -/
theorem power_le_roundAway {x : ℚ} (great : 10 ^ (maxExponent + 1) ≤ |x|) :
    10 ^ precision ≤ |roundAway x| := by
  have limits : ((precision : ℕ) : ℤ) ≤ maxExponent + 1 := by decide
  have power : ((10 ^ precision : ℤ) : ℚ) ≤ |x| := by
    refine le_trans ?_ great
    rw [Int.cast_pow, Int.cast_ofNat, ← zpow_natCast]
    exact zpow_le_zpow_right₀ (by norm_num) limits
  exact Decimal.le_abs_roundAway power

/-- A Fahrenheit reading of up to 28 digits loses nothing before it is put in whole tenths. -/
theorem ofDegrees_fahrenheit (relative : Bool) (digits : HasDigits d.toRat precision) :
    ofDegrees .fahrenheit relative d =
      if |roundAway (10 * d.toRat)| < 10 ^ precision then .ok ⟨roundAway (10 * d.toRat)⟩
      else if 999999 < Int.log 10 |10 * d.toRat| then .error .overflow
      else .error .invalidOperation := by
  rw [ofDegrees_of_fahrenheit (f := d) rfl, mul_comm 10]
  simp only [overflow_iff]
  rcases digits.mul_ten.rounded_cases with exact | ⟨small, tiny⟩
  · -- What overflows fails the test of the whole tenths too, so the two tests can change places.
    have beyond := power_le_roundAway (x := d.toRat * 10)
    rw [overflow_iff] at beyond
    rw [exact]
    split_ifs <;> first | rfl | omega
  · -- Digits are lost only next to zero, where they make no tenth either way.
    have held : ¬ 999999 < Int.log 10 |rounded (d.toRat * 10)| := by
      rw [← overflow_iff, not_le]
      refine tiny.trans_le (le_trans (by norm_num) (one_le_zpow₀ (by norm_num) (by decide)))
    rw [Decimal.roundAway_eq_zero tiny, Decimal.roundAway_eq_zero small, if_neg held]
    simp

/-- A computation gives a decimal that is just this number. -/
def Exactly (op : Except Signal Decimal) (x : ℚ) : Prop := ∃ r, op = .ok r ∧ r.toRat = x

/-- Degrees Fahrenheit at the zero of the Celsius scale; differences of degrees have no zero. -/
def zeroOf (relative : Bool) : Int := if relative then 0 else 32

theorem zeroOf_true : (zeroOf true : ℚ) = 0 := Int.cast_zero

theorem zeroOf_false : (zeroOf false : ℚ) = 32 := Int.cast_ofNat 32

/-- No step from degrees Celsius to tenths of a degree Fahrenheit loses a digit or raises a signal:
not the ninefold, not its fifth part, not the degrees counted from the zero of the other scale, and
not ten times those. -/
structure LosslessCelsius (relative : Bool) (d : Decimal) : Prop where
  ninefold : Exactly (d.mul (ofInt 9)) (9 * d.toRat)
  fifth : Exactly (do (← d.mul (ofInt 9)).div (ofInt 5)) (9 * d.toRat / 5)
  degrees : Exactly (fahrenheit .celsius relative d) (9 * d.toRat / 5 + zeroOf relative)
  tenths : Exactly (do (← fahrenheit .celsius relative d).mul (ofInt 10))
    (18 * d.toRat + 10 * zeroOf relative)

theorem Exactly.bind {op : Except Signal Decimal} {next : Decimal → Except Signal Decimal} {x y : ℚ}
    (first : Exactly op x) (second : ∀ r, r.toRat = x → Exactly (next r) y) :
    Exactly (op >>= next) y := by
  obtain ⟨r, rfl, value⟩ := first
  exact second r value

theorem exactly_of_gives {op : Except Signal Decimal} {x y : ℚ} {m k : ℤ} (gives : Gives y op)
    (same : y = x) (value : x = m * 10 ^ k) (digits : |m| < 10 ^ precision)
    (place : Decimal.tiny ≤ k ∧ k ≤ 0) : Exactly op x := by
  rw [same, value] at gives
  rw [value]
  exact gives.exact digits place.1 place.2

section Celsius

variable {m k : ℤ}

/-- Units of the place before the last one of a reading, in one degree. -/
def unitsOf (k : ℤ) : ℤ := 10 ^ (1 - k).toNat

theorem unitsOf_mul (behind : k ≤ 0) : (unitsOf k : ℚ) * 10 ^ (k - 1) = 1 := by
  rw [unitsOf, Int.cast_pow, Int.cast_ofNat, ← zpow_natCast, Int.toNat_of_nonneg (by omega),
    ← zpow_add₀ (by norm_num), sub_add_sub_cancel, sub_self, zpow_zero]

theorem unitsOf_bounds (deep : -20 ≤ k) : 0 < unitsOf k ∧ unitsOf k ≤ 10 ^ 21 :=
  ⟨by unfold unitsOf; positivity, pow_le_pow_right₀ (by norm_num) (by omega)⟩

theorem abs_shifted_lt (relative : Bool) (size : |m| < 10 ^ 24) (deep : -20 ≤ k) :
    |18 * m + zeroOf relative * unitsOf k| < 10 ^ 26 := by
  obtain ⟨least, most⟩ := unitsOf_bounds deep
  obtain ⟨lower, upper⟩ := abs_lt.mp size
  unfold zeroOf
  rw [abs_lt]
  split <;> constructor <;> omega

theorem shifted_eq (relative : Bool) (behind : k ≤ 0) (value : d.toRat = m * 10 ^ k) :
    9 * d.toRat / 5 + zeroOf relative =
      ((18 * m + zeroOf relative * unitsOf k : ℤ) : ℚ) * 10 ^ (k - 1) := by
  have down : (10 : ℚ) ^ k = 10 * 10 ^ (k - 1) := by
    rw [← zpow_one_add₀ (by norm_num), add_sub_cancel]
  rw [value]
  push_cast
  rw [add_mul, mul_assoc (zeroOf relative : ℚ), unitsOf_mul behind, down]
  ring

/-- Up to 24 digits and 20 places leave room for every digit of the steps between. -/
theorem losslessCelsius (relative : Bool) (digits : HasDigits d.toRat 24)
    (places : HasPlaces d.toRat 20) (small : |d.toRat| < 10 ^ 24) : LosslessCelsius relative d := by
  obtain ⟨m, k, size, deep, behind, value⟩ := digits.exists_of_places places small
  have limits : precision = 28 ∧ Decimal.tiny = -1000026 := by decide
  have shifted (asked : Bool) : |18 * m + zeroOf asked * unitsOf k| < 10 ^ precision :=
    (abs_shifted_lt asked size deep).trans (by rw [limits.1]; norm_num)
  have ninefold : Exactly (d.mul (ofInt 9)) (9 * d.toRat) := by
    obtain ⟨lower, upper⟩ := abs_lt.mp size
    refine exactly_of_gives (Decimal.gives_mul d (ofInt 9)) (m := 9 * m) (k := k) ?_ ?_ ?_ ?_
    · rw [toRat_ofInt_ofNat, mul_comm]
    · rw [value, Int.cast_mul, mul_assoc, Int.cast_ofNat]
    · rw [limits.1, abs_lt]
      constructor <;> omega
    · omega
  have fifth (r : Decimal) (same : r.toRat = 9 * d.toRat) :
      Exactly (r.div (ofInt 5)) (9 * d.toRat / 5) := by
    have value := shifted_eq true behind value
    rw [zeroOf_true, add_zero] at value
    refine exactly_of_gives (Decimal.gives_div r (y := ofInt 5) (by decide)) ?_ value (shifted true) ?_
    · rw [toRat_ofInt_ofNat, same]
    · omega
  have degrees : Exactly (fahrenheit .celsius relative d) (9 * d.toRat / 5 + zeroOf relative) := by
    unfold fahrenheit
    refine ninefold.bind fun r same => (fifth r same).bind fun q same => ?_
    cases relative with
    | true =>
      rw [zeroOf_true, add_zero, if_pos rfl]
      exact ⟨q, rfl, same⟩
    | false =>
      rw [if_neg Bool.false_ne_true]
      refine exactly_of_gives (Decimal.gives_add q (ofInt 32)) ?_ (shifted_eq false behind value)
        (shifted false) ?_
      · rw [toRat_ofInt_ofNat, same, zeroOf_false]
      · omega
  have tenths (f : Decimal) (same : f.toRat = 9 * d.toRat / 5 + zeroOf relative) :
      Exactly (f.mul (ofInt 10)) (18 * d.toRat + 10 * zeroOf relative) := by
    have tenfold : f.toRat * (ofInt 10).toRat = 18 * d.toRat + 10 * zeroOf relative := by
      rw [same, toRat_ofInt_ofNat]
      ring
    refine exactly_of_gives (Decimal.gives_mul f (ofInt 10)) tenfold ?_ (shifted relative) ?_ (k := k)
    · rw [← tenfold, same, shifted_eq relative behind value, toRat_ofInt_ofNat, mul_assoc,
        ← zpow_add_one₀ (by norm_num), sub_add_cancel]
    · omega
  exact ⟨ninefold, ninefold.bind fifth, degrees, degrees.bind tenths⟩

/-- A Celsius reading of up to 24 digits and 20 places is rounded once. -/
theorem ofDegrees_celsius (relative : Bool) (digits : HasDigits d.toRat 24)
    (places : HasPlaces d.toRat 20) (small : |d.toRat| < 10 ^ 24) :
    ofDegrees .celsius relative d = .ok ⟨roundAway (18 * d.toRat + 10 * zeroOf relative)⟩ := by
  obtain ⟨f, degrees, value⟩ := (losslessCelsius relative digits places small).degrees
  obtain ⟨r, product, tenfold⟩ := (losslessCelsius relative digits places small).tenths
  simp only [degrees, bind, Except.bind] at product
  have same : rounded (f.toRat * 10) = 18 * d.toRat + 10 * zeroOf relative := by
    rw [← tenfold, (Decimal.gives_mul f (ofInt 10)).value_eq product, toRat_ofInt_ofNat]
  have zero : |10 * (zeroOf relative : ℚ)| ≤ 320 := by
    cases relative with
    | true => norm_num [zeroOf_true]
    | false => norm_num [zeroOf_false]
  have bound : |18 * d.toRat + 10 * zeroOf relative| ≤ ((10 ^ 26 : ℤ) : ℚ) := by
    have scaled : |18 * d.toRat| = 18 * |d.toRat| := by rw [abs_mul, abs_of_pos (by norm_num)]
    refine (abs_add_le _ _).trans ?_
    push_cast
    linarith
  have fits : |roundAway (18 * d.toRat + 10 * zeroOf relative)| ≤ 10 ^ 26 :=
    Decimal.abs_roundAway_le bound
  have narrow : ¬ (10 : ℤ) ^ precision ≤ |roundAway (18 * d.toRat + 10 * zeroOf relative)| :=
    not_le.mpr (fits.trans_lt (by decide))
  rw [ofDegrees_of_fahrenheit degrees, same, if_neg (mt power_le_roundAway narrow), if_neg narrow]

end Celsius

end Temperature

theorem arithmetic_eq_ok_iff {α : Type} {op : Except Decimal.Signal α} {a : α} :
    arithmetic op = .ok a ↔ op = .ok a := by
  cases op with
  | ok b =>
    constructor
    · intro same
      cases same
      rfl
    · intro same
      cases same
      rfl
  | error s =>
    constructor
    · intro same
      cases same
    · intro same
      cases same

namespace Field

open Decimal (HasDigits HasPlaces precision roundAway)
open Temperature (LosslessCelsius zeroOf)

variable {v w : Value} {scale : TemperatureScale} {relative : Bool} {parameter other : Text}
  {d e : Decimal} {t u : Temperature}

theorem temperature_of_read (scale : TemperatureScale) (relative : Bool)
    (read : toDecimal v parameter = .ok d) :
    temperature v scale relative parameter = arithmetic (Temperature.ofDegrees scale relative d) := by
  unfold temperature
  rw [read]
  rfl

/-- Fahrenheit readings of up to 28 digits are put in whole tenths by one rounding, whatever their
exponent. What does not fit in 28 digits then is refused, with another signal where its own exponent
is too large. -/
theorem temperature_fahrenheit (relative : Bool) (read : toDecimal v parameter = .ok d)
    (digits : HasDigits d.toRat 28) :
    temperature v .fahrenheit relative parameter =
      if |roundAway (10 * d.toRat)| < 10 ^ 28 then .ok ⟨roundAway (10 * d.toRat)⟩
      else if 999999 < Int.log 10 |10 * d.toRat| then .error (.signal .overflow)
      else .error (.signal .invalidOperation) := by
  have outcome := Temperature.ofDegrees_fahrenheit relative digits
  rw [temperature_of_read .fahrenheit relative read, outcome, show precision = 28 from rfl]
  split_ifs <;> rfl

theorem temperature_fahrenheit_quarter :
    toDecimal (.string "-0.25") "heatHoldTemp" = .ok ⟨true, 25, -2⟩ ∧
      temperature (.string "-0.25") .fahrenheit false "heatHoldTemp" = .ok ⟨-3⟩ := by
  have read : toDecimal (.string "-0.25") "heatHoldTemp" = .ok ⟨true, 25, -2⟩ := by rfl
  have digits : HasDigits (⟨true, 25, -2⟩ : Decimal).toRat 28 :=
    Decimal.hasDigits_toRat (by decide) (by decide)
  have tenths : roundAway (10 * (⟨true, 25, -2⟩ : Decimal).toRat) = -3 := by
    norm_num [roundAway, Decimal.toRat, Decimal.sign]
  have outcome := temperature_fahrenheit false read digits
  rw [tenths, if_pos (by norm_num)] at outcome
  exact ⟨read, outcome⟩

/-- No step from Celsius readings of up to 24 digits and 20 places loses a digit, so that they are put
in whole tenths by one rounding. -/
theorem temperature_celsius (read : toDecimal v parameter = .ok d) (digits : HasDigits d.toRat 24)
    (places : HasPlaces d.toRat 20) (small : |d.toRat| < 10 ^ 24) (relative : Bool) :
    LosslessCelsius relative d ∧ temperature v .celsius relative parameter =
      .ok ⟨roundAway (if relative then 18 * d.toRat else 18 * d.toRat + 320)⟩ := by
  have value : (if relative then 18 * d.toRat else 18 * d.toRat + 320) =
      18 * d.toRat + 10 * zeroOf relative := by
    cases relative with
    | true => rw [if_pos rfl, Temperature.zeroOf_true, mul_zero, add_zero]
    | false =>
      rw [if_neg Bool.false_ne_true, Temperature.zeroOf_false]
      norm_num
  constructor
  · exact Temperature.losslessCelsius relative digits places small
  · rw [temperature_of_read .celsius relative read, value,
      Temperature.ofDegrees_celsius relative digits places small]
    rfl

theorem temperature_celsius_quarter :
    LosslessCelsius true ⟨true, 1725, -2⟩ ∧
      temperature (.string "-17.25") .celsius true "heatHoldTemp" = .ok ⟨-311⟩ := by
  have value : (⟨true, 1725, -2⟩ : Decimal).toRat = -69 / 4 := by
    norm_num [Decimal.toRat, Decimal.sign]
  have digits : HasDigits (⟨true, 1725, -2⟩ : Decimal).toRat 24 :=
    Decimal.hasDigits_toRat (by decide) (by decide)
  have places : HasPlaces (⟨true, 1725, -2⟩ : Decimal).toRat 20 :=
    Decimal.hasPlaces_toRat (by decide)
  have read : toDecimal (.string "-17.25") "heatHoldTemp" = .ok ⟨true, 1725, -2⟩ := by rfl
  obtain ⟨lossless, outcome⟩ := temperature_celsius read digits places (by norm_num [value]) true
  have tenths : roundAway (18 * (-69 / 4)) = -311 := by norm_num [roundAway]
  rw [if_pos rfl, value, tenths] at outcome
  exact ⟨lossless, outcome⟩

/-- Conversion keeps the order of readings of any size and precision. -/
theorem temperature_mono (left : toDecimal v parameter = .ok d) (right : toDecimal w other = .ok e)
    (le : d.toRat ≤ e.toRat) (first : temperature v scale relative parameter = .ok t)
    (second : temperature w scale relative other = .ok u) : t.tenths ≤ u.tenths := by
  rw [temperature_of_read scale relative left, arithmetic_eq_ok_iff] at first
  rw [temperature_of_read scale relative right, arithmetic_eq_ok_iff] at second
  exact Temperature.ofDegrees_mono le first second

theorem temperature_mono_long :
    ∃ t u, temperature (.string "20.2777777777777777777777777777777777") .celsius false "t" = .ok t ∧
      temperature (.string "20.2777777777777777777777777777777778") .celsius false "t" = .ok u ∧
      t.tenths ≤ u.tenths := by
  have left : toDecimal (.string "20.2777777777777777777777777777777777") "t" =
      .ok ⟨false, 202777777777777777777777777777777777, -34⟩ := by rfl
  have right : toDecimal (.string "20.2777777777777777777777777777777778") "t" =
      .ok ⟨false, 202777777777777777777777777777777778, -34⟩ := by rfl
  have le : (⟨false, 202777777777777777777777777777777777, -34⟩ : Decimal).toRat ≤
      (⟨false, 202777777777777777777777777777777778, -34⟩ : Decimal).toRat := by
    norm_num [Decimal.toRat, Decimal.sign]
  have first : temperature (.string "20.2777777777777777777777777777777777") .celsius false "t" =
      .ok ⟨685⟩ := by rfl
  have second : temperature (.string "20.2777777777777777777777777777777778") .celsius false "t" =
      .ok ⟨685⟩ := by rfl
  exact ⟨⟨685⟩, ⟨685⟩, first, second, temperature_mono left right le first second⟩

end Field

end Thermostat
