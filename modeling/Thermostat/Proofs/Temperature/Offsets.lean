import Thermostat.Proofs.Decimal.Nearness
import Thermostat.Proofs.Decimal.Results
import Thermostat.Proofs.Temperature.Conversion
import Thermostat.Proofs.Value.Number

/-! Differences of readings: they are converted as far apart as the readings are, and alike to both
sides of zero. -/
namespace Thermostat

namespace Temperature

open Decimal (HasDigits HasPlaces Opposite precision roundAway)

variable {scale : TemperatureScale} {relative : Bool} {d e : Decimal}

/-- Readings below 10^24 of up to 24 digits, at most 20 of them behind the point, so that no step of a
conversion loses a digit. -/
structure Moderate (x : ℚ) : Prop where
  digits : HasDigits x 24
  places : HasPlaces x 20
  small : |x| < 10 ^ 24

/-- Tenths of a degree Fahrenheit in a reading, or in a difference of readings, before they are rounded. -/
def exactTenths (scale : TemperatureScale) (relative : Bool) (x : ℚ) : ℚ :=
  match scale with
  | .fahrenheit => 10 * x
  | .celsius => 18 * x + 10 * zeroOf relative

/-- The zero of a scale counts once, with the reading. -/
theorem exactTenths_add (scale : TemperatureScale) (x y : ℚ) :
    exactTenths scale false (x + y) = exactTenths scale false x + exactTenths scale true y := by
  cases scale with
  | fahrenheit =>
    unfold exactTenths
    ring
  | celsius =>
    unfold exactTenths
    rw [zeroOf_true]
    ring

theorem ofDegrees_moderate (scale : TemperatureScale) (relative : Bool) (moderate : Moderate d.toRat) :
    ofDegrees scale relative d = .ok ⟨roundAway (exactTenths scale relative d.toRat)⟩ := by
  obtain ⟨digits, places, small⟩ := moderate
  cases scale with
  | fahrenheit =>
    have wide : HasDigits d.toRat precision := by
      obtain ⟨m, k, size, value⟩ := digits
      exact ⟨m, k, size.trans (by decide), value⟩
    have bound : |10 * d.toRat| ≤ ((10 ^ 25 : ℤ) : ℚ) := by
      rw [abs_mul, abs_of_pos (by norm_num)]
      push_cast
      linarith
    have fits : |roundAway (10 * d.toRat)| ≤ 10 ^ 25 := Decimal.abs_roundAway_le bound
    rw [ofDegrees_fahrenheit relative wide, if_pos (fits.trans_lt (by decide))]
    rfl
  | celsius => exact ofDegrees_celsius relative digits places small

/-- The temperature as far on the other side of zero. -/
def opposite (t : Temperature) : Temperature := ⟨-t.tenths⟩

theorem fahrenheit_opposite (odd : relative = true ∨ scale = .fahrenheit)
    (value : e.toRat = -d.toRat) : Opposite (fahrenheit scale relative d) (fahrenheit scale relative e) := by
  cases scale with
  | fahrenheit => exact .ok value
  | celsius =>
    obtain rfl : relative = true := odd.resolve_right nofun
    have ninefold : Opposite (d.mul (.ofInt 9)) (e.mul (.ofInt 9)) := by
      refine (Decimal.gives_mul d _).opposite ?_
      rw [← neg_mul, ← value]
      exact Decimal.gives_mul e _
    refine ninefold.bind fun r s value => ?_
    have fifth : Opposite (r.div (.ofInt 5)) (s.div (.ofInt 5)) := by
      refine (Decimal.gives_div r (by decide)).opposite ?_
      rw [← neg_div, ← value]
      exact Decimal.gives_div s (by decide)
    exact fifth.bind fun r s value => .ok value

/-- Opposite differences, and opposite readings in degrees Fahrenheit, are converted to opposite
temperatures or fail alike. -/
theorem ofDegrees_opposite (odd : relative = true ∨ scale = .fahrenheit) (value : e.toRat = -d.toRat) :
    ofDegrees scale relative e = (ofDegrees scale relative d).map opposite := by
  have degrees := fahrenheit_opposite odd value
  generalize left : fahrenheit scale relative d = op at degrees
  generalize right : fahrenheit scale relative e = op' at degrees
  cases degrees with
  | error s =>
    unfold ofDegrees
    rw [left, right]
    rfl
  | ok value =>
    rw [ofDegrees_of_fahrenheit left, ofDegrees_of_fahrenheit right, value, neg_mul,
      Decimal.rounded_neg, Decimal.roundAway_neg, abs_neg, abs_neg]
    split_ifs <;> rfl

end Temperature

namespace Field

open Decimal (roundAway)
open Temperature (Moderate exactTenths)

variable {v w sum : Value} {scale : TemperatureScale} {relative : Bool} {a d s : Decimal}
  {p q r parameter : Text}

/-- A reading and a difference add up to the temperature of the sum, give or take one tenth of a
degree: three numbers are rounded, each by half a tenth at most. -/
theorem temperature_add (scale : TemperatureScale) (reading : toDecimal v p = .ok a)
    (offset : toDecimal w q = .ok d) (shifted : toDecimal sum r = .ok s)
    (value : s.toRat = a.toRat + d.toRat) (ha : Moderate a.toRat) (hd : Moderate d.toRat)
    (hs : Moderate s.toRat) :
    ∃ t o u, temperature v scale false p = .ok t ∧ temperature w scale true q = .ok o ∧
      temperature sum scale false r = .ok u ∧ |u.tenths - t.tenths - o.tenths| ≤ 1 := by
  refine ⟨⟨roundAway (exactTenths scale false a.toRat)⟩, ⟨roundAway (exactTenths scale true d.toRat)⟩,
    ⟨roundAway (exactTenths scale false s.toRat)⟩, ?_, ?_, ?_, ?_⟩
  · rw [temperature_of_read scale false reading, Temperature.ofDegrees_moderate scale false ha]
    rfl
  · rw [temperature_of_read scale true offset, Temperature.ofDegrees_moderate scale true hd]
    rfl
  · rw [temperature_of_read scale false shifted, Temperature.ofDegrees_moderate scale false hs]
    rfl
  · rw [value, Temperature.exactTenths_add]
    exact Decimal.abs_roundAway_add_sub_le _ _

theorem temperature_add_ties :
    ∃ t o u, temperature (.string "0.05") .fahrenheit false "t" = .ok t ∧
      temperature (.string "-0.1") .fahrenheit true "t" = .ok o ∧
      temperature (.string "-0.05") .fahrenheit false "t" = .ok u ∧
      |u.tenths - t.tenths - o.tenths| ≤ 1 := by
  have moderate (negative : Bool) {c : Nat} {e : ℤ} (few : Decimal.digitCount c ≤ 24)
      (places : -20 ≤ e) (small : |(⟨negative, c, e⟩ : Decimal).toRat| < 10 ^ 24) :
      Moderate (⟨negative, c, e⟩ : Decimal).toRat :=
    ⟨Decimal.hasDigits_toRat (by decide) few, Decimal.hasPlaces_toRat places, small⟩
  have reading : toDecimal (.string "0.05") "t" = .ok ⟨false, 5, -2⟩ := by rfl
  have offset : toDecimal (.string "-0.1") "t" = .ok ⟨true, 1, -1⟩ := by rfl
  have shifted : toDecimal (.string "-0.05") "t" = .ok ⟨true, 5, -2⟩ := by rfl
  refine temperature_add .fahrenheit reading offset shifted ?_ (moderate _ ?_ ?_ ?_)
    (moderate _ ?_ ?_ ?_) (moderate _ ?_ ?_ ?_)
  all_goals first | decide | norm_num [Decimal.toRat, Decimal.sign]

/-- The negated decimal of a difference, or of a reading in degrees Fahrenheit, is converted to the
opposite temperature, and fails just as the decimal does. -/
theorem temperature_neg (read : toDecimal v parameter = .ok d)
    (odd : relative = true ∨ scale = .fahrenheit) :
    temperature (.decimal (.finite d.neg)) scale relative parameter =
      (temperature v scale relative parameter).map Temperature.opposite := by
  have holdable : d.neg.isHoldable = true := by
    rw [Decimal.isHoldable_neg]
    exact isHoldable_of_toDecimal read
  rw [temperature_of_read scale relative read, temperature_of_read scale relative
    (toDecimal_decimal holdable), Temperature.ofDegrees_opposite odd (Decimal.toRat_neg d)]
  cases Temperature.ofDegrees scale relative d <;> rfl

theorem temperature_neg_tie :
    temperature (.string "0.25") .celsius true "t" = .ok ⟨5⟩ ∧
      temperature (.decimal (.finite ⟨true, 25, -2⟩)) .celsius true "t" = .ok ⟨-5⟩ := by
  have read : toDecimal (.string "0.25") "t" = .ok ⟨false, 25, -2⟩ := by rfl
  have converted : temperature (.string "0.25") .celsius true "t" = .ok ⟨5⟩ := by rfl
  have negated : temperature (.decimal (.finite ⟨true, 25, -2⟩)) .celsius true "t" =
      (temperature (.string "0.25") .celsius true "t").map Temperature.opposite :=
    temperature_neg read (.inl rfl)
  rw [converted] at negated
  exact ⟨converted, negated⟩

end Field

end Thermostat
