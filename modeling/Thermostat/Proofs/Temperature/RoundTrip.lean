import Thermostat.Proofs.Decimal.Nearness
import Thermostat.Proofs.Decimal.Results
import Thermostat.Proofs.Temperature.Conversion
import Thermostat.Proofs.Value.Number

/-! What temperatures are shown as, and which temperature is meant when that reading is entered again. -/
namespace Thermostat

namespace Decimal

variable {r : Decimal} {k : ℤ}

/-- The reading of so many tenths of a degree. -/
def ofTenths (k : ℤ) : Decimal := ⟨k < 0, k.natAbs, -1⟩

theorem toRat_eq_tenths (place : r.exponent = -1) : r.toRat = ((r.sign * r.coefficient : ℤ) : ℚ) / 10 := by
  rw [toRat, place, zpow_neg_one]
  push_cast
  ring

theorem toRat_ofTenths (k : ℤ) : (ofTenths k).toRat = k / 10 := by
  have signed : (ofTenths k).sign * ((ofTenths k).coefficient : ℤ) = k := by
    unfold sign ofTenths
    simp only [decide_eq_true_eq]
    split <;> omega
  rw [toRat_eq_tenths rfl, signed]

/-- Only zero has two signs, so that other numbers of tenths are read in one way. -/
theorem eq_ofTenths (place : r.exponent = -1) (value : r.toRat = k / 10) (ne : k ≠ 0) :
    r = ofTenths k := by
  have signed : r.sign * r.coefficient = k := by
    rw [toRat_eq_tenths place, div_left_inj' (by norm_num)] at value
    exact_mod_cast value
  obtain ⟨negative, coefficient, exponent⟩ := r
  unfold sign at signed
  unfold ofTenths
  cases negative with
  | true =>
    simp only [if_true] at signed
    simp only [mk.injEq]
    exact ⟨(decide_eq_true (by omega)).symm, by omega, place⟩
  | false =>
    simp only [Bool.false_eq_true, if_false] at signed
    simp only [mk.injEq]
    exact ⟨(decide_eq_false (by omega)).symm, by omega, place⟩

theorem isHoldable_ofTenths (small : |k| < 10 ^ precision) : (ofTenths k).isHoldable = true := by
  have below : k.natAbs < powerOfTen precision := by
    rw [Int.abs_eq_natAbs] at small
    exact_mod_cast small
  have digits := (digitCount_le_iff (by decide)).mpr below
  have limit : precision = 28 := rfl
  refine isHoldable_of_bounds (by decide : -400 ≤ (-1 : ℤ)) (by decide : (-1 : ℤ) ≤ 400) ?_
  change -1 + (digitCount k.natAbs : ℤ) - 1 ≤ 400
  omega

/-- A number that is put in whole tenths is the reading of that many. -/
theorem quantize_tenths (tenths : roundAway (r.toRat * 10) = k) (ne : k ≠ 0)
    (small : |k| < 10 ^ precision) : r.quantize (-1) = .ok (ofTenths k) := by
  have whole := gives_quantize r (-1)
  have units : r.toRat / 10 ^ (-1 : ℤ) = r.toRat * 10 := by
    rw [zpow_neg_one, div_inv_eq_mul]
  generalize r.quantize (-1) = op at whole
  cases whole with
  | invalid great =>
    rw [units, tenths] at great
    exact absurd small (not_lt.mpr great)
  | @ok s place value _ =>
    rw [units, tenths, zpow_neg_one, ← div_eq_mul_inv] at value
    rw [eq_ofTenths place value ne]

end Decimal

namespace Temperature

open Decimal (Gives HasDigits HasPlaces Signal ofInt ofTenths precision rounded roundAway)

variable {t u : Temperature} {d : Decimal} {k : ℤ}

theorem toLocal_fahrenheit (t : Temperature) :
    t.toLocal .fahrenheit = (ofInt t.tenths).div (ofInt 10) := by
  unfold toLocal
  cases (ofInt t.tenths).div (ofInt 10) <;> rfl

/-- Whole tenths of up to 28 digits are held exactly. -/
theorem exactly_tenths {op : Except Signal Decimal} {x : ℚ} {n : ℤ} (gives : Gives x op)
    (value : x = n / 10) (small : |n| < 10 ^ precision) : Exactly op (n / 10) := by
  refine exactly_of_gives gives value (k := -1) ?_ small (by decide)
  rw [zpow_neg_one, div_eq_mul_inv]

theorem exactly_div_ten (small : |t.tenths| < 10 ^ precision) :
    Exactly ((ofInt t.tenths).div (ofInt 10)) (t.tenths / 10) := by
  refine exactly_tenths (Decimal.gives_div _ (by decide)) ?_ small
  rw [Decimal.toRat_ofInt, toRat_ofInt_ofNat]

/-- Tenths of a degree from the zero of the Celsius scale, fivefold. -/
def fivefold (t : Temperature) : ℤ := 5 * (t.tenths - 320)

theorem abs_fivefold_lt (small : |t.tenths| < 10 ^ 25) : |t.fivefold| < 10 ^ 26 := by
  unfold fivefold
  rw [abs_lt] at small ⊢
  constructor <;> omega

/-- The steps from tenths of a degree Fahrenheit to degrees Celsius, up to the last division. -/
theorem exactly_fivefold (small : |t.tenths| < 10 ^ 25) :
    Exactly (do (← (← (ofInt t.tenths).div (ofInt 10)).sub (ofInt 32)).mul (ofInt 5))
      (t.fivefold / 10) := by
  have limit : precision = 28 := rfl
  have tenth := exactly_div_ten (small.trans (by norm_num [limit]))
  refine tenth.bind fun f value => ?_
  have shifted : Exactly (f.sub (ofInt 32)) ((t.tenths - 320 : ℤ) / 10) := by
    refine exactly_tenths (Decimal.gives_sub f (ofInt 32)) ?_ ?_
    · rw [value, toRat_ofInt_ofNat]
      push_cast
      ring
    · rw [limit]
      rw [abs_lt] at small ⊢
      constructor <;> omega
  refine shifted.bind fun a value => ?_
  refine exactly_tenths (Decimal.gives_mul a (ofInt 5)) ?_ ?_
  · rw [value, toRat_ofInt_ofNat, fivefold]
    push_cast
    ring
  · exact (abs_fivefold_lt small).trans (by norm_num [limit])

/-- Tenths of a degree Celsius that a temperature is shown with. -/
def shown (t : Temperature) : ℤ := roundAway (t.fivefold / 9)

theorem shown_eq_iff : t.shown = k ↔ |5 * (t.tenths - 320) - 9 * k| ≤ 4 := by
  have odd := Decimal.roundAway_odd_iff (n := t.fivefold) (k := k) (m := 4)
  push_cast at odd
  rwa [show (2 * 4 + 1 : ℚ) = 9 by norm_num] at odd

theorem abs_shown_lt {n : ℤ} (room : 400 ≤ n) (small : |t.tenths| < n) : |t.shown| < n := by
  have nearest := shown_eq_iff.mp (rfl : t.shown = t.shown)
  rw [abs_le] at nearest
  rw [abs_lt] at small ⊢
  constructor <;> omega

theorem abs_ninth_lt {n : ℤ} (small : |n| < 10 ^ 26) : |(n / 10 / 9 : ℚ)| < 10 ^ 25 := by
  have whole : |(n : ℚ)| < 10 ^ 26 := by exact_mod_cast small
  rw [abs_lt] at whole ⊢
  constructor <;> linarith

/-- The last division may lose digits, but not so many that another tenth of a degree is nearest. -/
theorem roundAway_ninth {n : ℤ} (small : |n| < 10 ^ 26) :
    roundAway (rounded (n / 10 / 9) * 10) = roundAway (n / 9) := by
  have size : |(n / 10 / 9 : ℚ)| < 10 ^ (25 : ℤ) := by exact_mod_cast abs_ninth_lt small
  have error := Decimal.abs_rounded_sub_le_of_lt size (by decide)
  have unit : (10 : ℚ) ^ ((25 : ℤ) - precision) = 1 / 1000 := by
    rw [show (25 : ℤ) - precision = -3 from rfl]
    norm_num
  rw [unit] at error
  generalize rounded (n / 10 / 9) = q at error ⊢
  have nine : (9 : ℚ) = 2 * (4 : ℕ) + 1 := by norm_num
  have scaled : q * 10 - n / (2 * (4 : ℕ) + 1) = 10 * (q - n / 10 / 9) := by
    rw [← nine]
    ring
  have nearest := Decimal.roundAway_odd_iff (n := n) (m := 4).mp rfl
  rw [nine]
  refine Decimal.roundAway_eq_of_near_odd nearest ?_
  rw [scaled, abs_mul, abs_of_pos (by norm_num)]
  norm_num
  linarith

/-- A temperature is shown with the nearest tenth of a degree Celsius. -/
theorem toLocal_celsius (small : |t.tenths| < 10 ^ 25) :
    t.toLocal .celsius = .ok (ofTenths t.shown) := by
  by_cases zero : t.shown = 0
  · -- A zero could have either sign, but only one temperature is shown as zero.
    have nearest := abs_le.mp (shown_eq_iff.mp zero)
    obtain ⟨tenths⟩ := t
    dsimp only at nearest
    obtain rfl : tenths = 320 := by omega
    rw [zero]
    rfl
  -- All steps up to the last division are exact, so that one quotient is rounded to 28 digits and then
  -- to tenths.
  obtain ⟨b, steps, value⟩ := exactly_fivefold small
  obtain ⟨f, tenth, rest⟩ := bind_eq_ok_iff.mp steps
  obtain ⟨a, shifted, scaled⟩ := bind_eq_ok_iff.mp rest
  have ninth := Decimal.gives_div b (y := ofInt 9) (by decide)
  rw [value, toRat_ofInt_ofNat] at ninth
  have size := abs_ninth_lt (abs_fivefold_lt small)
  obtain ⟨c, quotient, -⟩ := ninth.le (n := 10 ^ 25) (by decide) (by exact_mod_cast size.le)
  have tenths : roundAway (c.toRat * 10) = t.shown := by
    rw [ninth.value_eq quotient, roundAway_ninth (abs_fivefold_lt small)]
    rfl
  have fits : |t.shown| < 10 ^ precision := (abs_shown_lt (by norm_num) small).trans (by decide)
  simp only [toLocal, tenth, shifted, scaled, quotient, bind, Except.bind]
  exact Decimal.quantize_tenths tenths zero fits

/-- So many tenths of a degree Celsius are taken for the nearest tenth of a degree Fahrenheit. -/
theorem ofDegrees_of_tenths (value : d.toRat = k / 10) (small : |k| < 10 ^ 24) :
    ∃ t, ofDegrees .celsius false d = .ok t ∧ |9 * k + 1600 - 5 * t.tenths| ≤ 2 := by
  have tenths : d.toRat = k * 10 ^ (-1 : ℤ) := by rw [value, zpow_neg_one, div_eq_mul_inv]
  have places : HasPlaces d.toRat 20 := ⟨k * 10 ^ 19, by
    rw [value]
    push_cast
    ring⟩
  have size : |d.toRat| < 10 ^ 24 := by
    have whole : |(k : ℚ)| < 10 ^ 24 := by exact_mod_cast small
    rw [value, abs_div, abs_of_pos (by norm_num : (0 : ℚ) < 10)]
    linarith [abs_nonneg (k : ℚ)]
  refine ⟨_, ofDegrees_celsius false ⟨k, -1, small, tenths⟩ places size, ?_⟩
  refine Decimal.roundAway_odd_iff (m := 2).mp ?_
  rw [value, zeroOf_false]
  push_cast
  congr 1
  ring

/-- A tenth of a degree Celsius is entered as a temperature that is shown with it. -/
theorem toLocal_of_tenths (value : d.toRat = k / 10) (small : |k| < 10 ^ 24) :
    ∃ t, ofDegrees .celsius false d = .ok t ∧ |9 * k + 1600 - 5 * t.tenths| ≤ 2 ∧
      t.toLocal .celsius = .ok (ofTenths k) := by
  obtain ⟨t, entered, near⟩ := ofDegrees_of_tenths value small
  have shown : t.shown = k := by
    rw [shown_eq_iff]
    rw [abs_le] at near ⊢
    constructor <;> omega
  have size : |t.tenths| < 10 ^ 25 := by
    rw [abs_le] at near
    rw [abs_lt] at small ⊢
    constructor <;> omega
  exact ⟨t, entered, near, shown ▸ toLocal_celsius size⟩

/-- A reading in tenths is not entered as a temperature far from one that it is shown for. -/
theorem abs_entered_sub_le (near : |9 * t.shown + 1600 - 5 * u.tenths| ≤ 2) :
    |u.tenths - t.tenths| ≤ 1 := by
  have nearest := shown_eq_iff.mp (rfl : t.shown = t.shown)
  rw [abs_le] at near nearest ⊢
  constructor <;> omega

/-- A temperature of up to 28 digits is shown in degrees Fahrenheit without loss. -/
theorem toLocal_fahrenheit_of_lt (small : |t.tenths| < 10 ^ precision) :
    ∃ r, ofDegrees .fahrenheit false r = .ok t ∧ r.isHoldable = true ∧ t.toLocal .fahrenheit = .ok r := by
  obtain ⟨r, tenth, value⟩ := exactly_div_ten small
  have digits : HasDigits r.toRat precision :=
    ⟨t.tenths, -1, small, by rw [value, zpow_neg_one, div_eq_mul_inv]⟩
  have whole : roundAway (10 * r.toRat) = t.tenths := by
    rw [value, mul_div_cancel₀ _ (by norm_num), Decimal.roundAway_intCast]
  refine ⟨r, ?_, Decimal.isHoldable_div (by decide) tenth, (toLocal_fahrenheit t).trans tenth⟩
  rw [ofDegrees_fahrenheit false digits, whole, if_pos small]

/-- A larger temperature is shown, if at all, as a reading that is out of range. -/
theorem extreme_of_shown (great : 10 ^ precision ≤ |t.tenths|) (shown : t.toLocal .fahrenheit = .ok d) :
    d.isHoldable = true ∧ (extremeDegrees : ℚ) ≤ |d.toRat| := by
  rw [toLocal_fahrenheit] at shown
  refine ⟨Decimal.isHoldable_div (by decide) shown, Decimal.le_div (by decide) (by decide) ?_ shown⟩
  have size : (10 ^ precision : ℚ) ≤ |(t.tenths : ℚ)| := by exact_mod_cast great
  rw [abs_toRat_ofInt (n := 10) (by decide), Decimal.toRat_ofInt, le_div_iff₀ (by norm_num)]
  refine le_trans ?_ size
  norm_num [extremeDegrees, precision]

end Temperature

namespace Field

open Decimal (ofTenths)

variable {scale : TemperatureScale} {parameter : Text} {t : Temperature}

/-- The temperature that is read for what a temperature is shown as. -/
def reentered (t : Temperature) (scale : TemperatureScale) (parameter : Text) :
    Except Fault Temperature := do
  let reading ← arithmetic (t.toLocal scale)
  temperature (.decimal (.finite reading)) scale false parameter

theorem reentered_of_shown {reading : Decimal} (shown : t.toLocal scale = .ok reading)
    (holdable : reading.isHoldable = true) :
    reentered t scale parameter = arithmetic (Temperature.ofDegrees scale false reading) := by
  have read : toDecimal (.decimal (.finite reading)) parameter = .ok reading := toDecimal_decimal holdable
  rw [← temperature_of_read scale false read]
  unfold reentered
  rw [shown]
  rfl

/-- A tenth of a degree Celsius is shown as it was entered. A temperature that is shown and entered again
moves by one tenth of a degree Fahrenheit at most, and is shown as before. -/
theorem celsius_roundTrip (parameter : Text) :
    (∀ (k : ℤ) (v : Value) (d : Decimal), |k| < 10 ^ 24 → toDecimal v parameter = .ok d →
      d.toRat = k / 10 → ∃ t reading, temperature v .celsius false parameter = .ok t ∧
        t.toLocal .celsius = .ok reading ∧ reading.toRat = k / 10) ∧
    ∀ t : Temperature, |t.tenths| < 10 ^ 24 → ∃ u reading,
      reentered t .celsius parameter = .ok u ∧ |u.tenths - t.tenths| ≤ 1 ∧
      t.toLocal .celsius = .ok reading ∧ u.toLocal .celsius = .ok reading := by
  constructor
  · intro k v d small read value
    obtain ⟨t, entered, -, shown⟩ := Temperature.toLocal_of_tenths value small
    refine ⟨t, ofTenths k, ?_, shown, Decimal.toRat_ofTenths k⟩
    rw [temperature_of_read .celsius false read, entered]
    rfl
  · intro t small
    have shown := Temperature.toLocal_celsius (small.trans (by norm_num))
    have size := Temperature.abs_shown_lt (by norm_num) small
    have holdable := Decimal.isHoldable_ofTenths (size.trans (by decide))
    obtain ⟨u, entered, near, again⟩ :=
      Temperature.toLocal_of_tenths (Decimal.toRat_ofTenths t.shown) size
    refine ⟨u, ofTenths t.shown, ?_, Temperature.abs_entered_sub_le near, shown, again⟩
    rw [reentered_of_shown shown holdable, entered]
    rfl

theorem celsius_roundTrip_frost :
    (∃ t reading, temperature (.string "-17.9") .celsius false "t" = .ok t ∧
      t.toLocal .celsius = .ok reading ∧ reading.toRat = (-179 : ℤ) / 10) ∧
    ∃ u reading, reentered ⟨319⟩ .celsius "t" = .ok u ∧ |u.tenths - 319| ≤ 1 ∧
      (⟨319⟩ : Temperature).toLocal .celsius = .ok reading ∧ u.toLocal .celsius = .ok reading := by
  have read : toDecimal (.string "-17.9") "t" = .ok ⟨true, 179, -1⟩ := by rfl
  have value : (⟨true, 179, -1⟩ : Decimal).toRat = (-179 : ℤ) / 10 := by
    norm_num [Decimal.toRat, Decimal.sign]
  obtain ⟨entered, shown⟩ := celsius_roundTrip "t"
  exact ⟨entered (-179) (.string "-17.9") _ (by norm_num) read value, shown ⟨319⟩ (by norm_num)⟩

/-- A temperature of up to 28 digits is what it is shown as in degrees Fahrenheit, and a larger one
cannot be shown or cannot be entered. No entry of any kind gives a larger one. -/
theorem fahrenheit_roundTrip (parameter : Text) :
    (∀ t : Temperature, |t.tenths| < 10 ^ 28 → reentered t .fahrenheit parameter = .ok t) ∧
    (∀ t : Temperature, 10 ^ 28 ≤ |t.tenths| →
      ∃ s, reentered t .fahrenheit parameter = .error (.signal s)) ∧
    ∀ (v : Value) (scale : TemperatureScale) (relative : Bool) (t : Temperature),
      temperature v scale relative parameter = .ok t → |t.tenths| < 10 ^ 28 := by
  refine ⟨fun t small => ?_, fun t great => ?_, fun v scale relative t ok => ?_⟩
  · obtain ⟨reading, entered, holdable, shown⟩ := Temperature.toLocal_fahrenheit_of_lt small
    rw [reentered_of_shown shown holdable, entered]
    rfl
  · cases shown : t.toLocal .fahrenheit with
    | error s =>
      refine ⟨s, ?_⟩
      unfold reentered
      rw [shown]
      rfl
    | ok reading =>
      obtain ⟨holdable, extreme⟩ := Temperature.extreme_of_shown great shown
      obtain ⟨s, refused⟩ := Temperature.ofDegrees_error .fahrenheit false extreme
      refine ⟨s, ?_⟩
      rw [reentered_of_shown shown holdable, refused]
      rfl
  · obtain ⟨d, -, converted⟩ := bind_eq_ok_iff.mp ok
    exact (Temperature.tenths_spec (arithmetic_eq_ok_iff.mp converted)).2

theorem fahrenheit_roundTrip_limits :
    reentered ⟨-9999999999999999999999999999⟩ .fahrenheit "t" = .ok ⟨-9999999999999999999999999999⟩ ∧
      (∃ s, reentered ⟨10 ^ 28⟩ .fahrenheit "t" = .error (.signal s)) ∧
      |(⟨-400⟩ : Temperature).tenths| < 10 ^ 28 := by
  have frost : temperature (.string "-40") .celsius false "t" = .ok ⟨-400⟩ := by rfl
  obtain ⟨kept, refused, bounded⟩ := fahrenheit_roundTrip "t"
  exact ⟨kept _ (by norm_num), refused ⟨10 ^ 28⟩ (by norm_num), bounded _ _ _ _ frost⟩

end Field

end Thermostat
