import Thermostat.Proofs.Double.Reading

/-! The range of doubles: what a double shows that is the nearest to a decimal is far below the largest
whole number that can be written. -/
namespace Thermostat

namespace Double

/-- Bounds for the parts of every finite double, with much to spare. -/
structure InRange (mantissa : Nat) (exponent : Int) : Prop where
  mantissa_le : mantissa ≤ powerOfTen 1475
  exponent_le : exponent ≤ huge

theorem InRange.zero : InRange 0 tiny := ⟨Nat.zero_le _, by decide⟩

/-- A double whose parts are in range if it is a finite one. -/
def Ranged : Double → Prop
  | .finite _ mantissa exponent => InRange mantissa exponent
  | _ => True

/-- A quotient below 10^401 is rounded to a double in range. -/
theorem ranged_ofQuotient (negative : Bool) {num den : Nat} (below : num < powerOfTen 401 * den) :
    (ofQuotient negative num den).Ranged := by
  unfold ofQuotient
  split
  · exact .zero
  · dsimp only
    generalize place : max (leadingBit num den - (precision - 1)) tiny = q
    have low : tiny ≤ q := place ▸ Int.le_max_right _ _
    have low : (-q).toNat ≤ 1074 := by
      rw [tiny] at low
      omega
    have mantissa_le : Decimal.roundHalfEven (num * powerOfTwo (-q).toNat)
        (den * powerOfTwo q.toNat) ≤ powerOfTen 1475 := by
      have round := Decimal.roundHalfEven_le (num * powerOfTwo (-q).toNat)
        (den * powerOfTwo q.toNat)
      have quotient : num * powerOfTwo (-q).toNat / (den * powerOfTwo q.toNat) <
          powerOfTen 1475 := by
        have denominator : den ≤ den * powerOfTwo q.toNat :=
          Nat.le_mul_of_pos_right den (powerOfTwo_pos _)
        rw [show 1475 = 401 + 1074 from rfl, powerOfTen_add]
        refine Nat.div_lt_of_lt_mul ?_
        calc num * powerOfTwo (-q).toNat
            < powerOfTen 401 * den * powerOfTwo (-q).toNat :=
              Nat.mul_lt_mul_of_pos_right below (powerOfTwo_pos _)
          _ ≤ powerOfTen 401 * (den * powerOfTwo q.toNat) * powerOfTen 1074 :=
              Nat.mul_le_mul (Nat.mul_le_mul_left _ denominator) (Decimal.powerOfTwo_le low)
          _ = den * powerOfTwo q.toNat * (powerOfTen 401 * powerOfTen 1074) := by
              rw [Nat.mul_comm (powerOfTen 401), Nat.mul_assoc]
      omega
    split
    · split
      · trivial
      · exact ⟨Decimal.powerOfTwo_le (by decide), by omega⟩
    · split
      · trivial
      · exact ⟨mantissa_le, by omega⟩

theorem ranged_ofDecimal (d : Decimal) : (ofDecimal d).Ranged := by
  unfold ofDecimal
  split
  · exact .zero
  · split
    · trivial
    · split
      · exact .zero
      · exact ranged_ofQuotient d.negative (Decimal.numerator_lt (by omega))

/-- A point of the grid is at most one unit above the value. -/
theorem gridPoint?_le {closed : Bool} {value lower upper num den c : Nat}
    (found : gridPoint? closed value lower upper num den = some c) : c ≤ value * num / den + 1 := by
  unfold gridPoint? at found
  dsimp only at found
  split at found
  · split at found <;> cases found <;> omega
  · cases found
    omega
  · cases found
    omega
  · cases found

theorem gridPoint?_mul_le {closed : Bool} {value lower upper c : Nat} {exponent place : Int}
    (found : gridPoint? closed value lower upper
      (powerOfTwo exponent.toNat * powerOfTen (-place).toNat)
      (powerOfTwo (-exponent).toNat * powerOfTen place.toNat) = some c) :
    c * powerOfTen place.toNat ≤
      value * powerOfTwo exponent.toNat * powerOfTen (-place).toNat + powerOfTen place.toNat := by
  have upper := gridPoint?_le found
  rw [← Nat.mul_assoc] at upper
  generalize value * powerOfTwo exponent.toNat * powerOfTen (-place).toNat = num at upper
  have unit : powerOfTen place.toNat ≤ powerOfTwo (-exponent).toNat * powerOfTen place.toNat :=
    Nat.le_mul_of_pos_left _ (powerOfTwo_pos _)
  calc c * powerOfTen place.toNat
      ≤ (num / (powerOfTwo (-exponent).toNat * powerOfTen place.toNat) + 1) *
          powerOfTen place.toNat := Nat.mul_le_mul_right _ upper
    _ = num / (powerOfTwo (-exponent).toNat * powerOfTen place.toNat) * powerOfTen place.toNat +
          powerOfTen place.toNat := Nat.succ_mul _ _
    _ ≤ num + powerOfTen place.toNat :=
        Nat.add_le_add_right (Nat.le_trans (Nat.mul_le_mul_left _ unit) (Nat.div_mul_le_self _ _)) _

/-- The digits that are found show at most the value and one unit of the first place. -/
theorem shortestFrom_le (fuel : Nat) (closed : Bool) (value lower upper : Nat)
    (exponent place : Int) :
    ((shortestFrom fuel closed value lower upper exponent place).1 : ℚ) *
        10 ^ (shortestFrom fuel closed value lower upper exponent place).2 ≤
      (value * powerOfTwo exponent.toNat + powerOfTen place.toNat : ℕ) := by
  induction fuel generalizing place with
  | zero =>
    have le : value ≤ value * powerOfTwo exponent.toNat :=
      Nat.le_mul_of_pos_right _ (powerOfTwo_pos _)
    rw [shortestFrom, zpow_zero, mul_one, Nat.cast_le]
    omega
  | succ fuel ih =>
    unfold shortestFrom
    dsimp only
    split
    · next c found =>
      have bound := gridPoint?_mul_le found
      have pos := powerOfTen_pos (-place).toNat
      have unit : powerOfTen place.toNat ≤ powerOfTen place.toNat * powerOfTen (-place).toNat :=
        Nat.le_mul_of_pos_right _ pos
      refine le_of_mul_le_mul_right ?_ (Nat.cast_pos.mpr pos)
      rw [mul_assoc, Decimal.zpow_mul_powerOfTen]
      exact_mod_cast bound.trans (by rw [Nat.add_mul]; omega)
    · have smaller : powerOfTen (place - 1).toNat ≤ powerOfTen place.toNat :=
        Decimal.powerOfTen_le (by omega)
      exact (ih (place - 1)).trans (Nat.cast_le.mpr (Nat.add_le_add_left smaller _))

/-- The exponent of the first digit of four units of a double, which are what its text starts from. -/
def firstPlace (mantissa : Nat) (exponent : Int) : Int :=
  Decimal.leadingExponent (4 * mantissa * powerOfTwo (exponent - 2).toNat)
    (powerOfTwo (-(exponent - 2)).toNat)

/-- Dropping zeros at the end does not change what is shown. -/
theorem shortest_le (mantissa : Nat) (exponent : Int) :
    ((shortest mantissa exponent).1 : ℚ) * 10 ^ (shortest mantissa exponent).2 ≤
      (4 * mantissa * powerOfTwo (exponent - 2).toNat +
        powerOfTen (firstPlace mantissa exponent).toNat : ℕ) := by
  unfold shortest quarters firstPlace
  dsimp only
  have found := shortestFrom_le 20 (mantissa % 2 == 0) (4 * mantissa)
    (4 * mantissa - if mantissa == powerOfTwo (precision - 1) && tiny < exponent then 1 else 2)
    (4 * mantissa + 2) (exponent - 2)
    (Decimal.leadingExponent (4 * mantissa * powerOfTwo (exponent - 2).toNat)
      (powerOfTwo (-(exponent - 2)).toNat))
  generalize shortestFrom 20 _ _ _ _ _ _ = shown at found ⊢
  have zeros := congrArg (Nat.cast : ℕ → ℚ) (Decimal.stripZeros_spec 20 shown.1)
  rw [Nat.cast_mul, Decimal.powerOfTen_cast] at zeros
  rwa [← zeros, mul_right_comm, mul_assoc, ← zpow_natCast, ← zpow_add₀ (by norm_num)] at found

/-- What a double in range shows has far fewer digits than a whole number may have. -/
theorem abs_toRat_shown_lt {mantissa : Nat} {exponent : Int} (negative : Bool)
    (range : InRange mantissa exponent) :
    |(shown negative mantissa exponent).toRat| < powerOfTen 3000 := by
  have value : 4 * mantissa * powerOfTwo (exponent - 2).toNat < powerOfTen 2447 := by
    have four : 4 * mantissa < powerOfTen 1476 := by
      have := range.mantissa_le
      have := powerOfTen_pos 1475
      rw [powerOfTen_succ]
      omega
    have power : powerOfTwo (exponent - 2).toNat ≤ powerOfTen 971 := by
      have := range.exponent_le
      rw [huge] at this
      exact Decimal.powerOfTwo_le (by omega)
    rw [show 2447 = 1476 + 971 from rfl, powerOfTen_add]
    exact Nat.lt_of_lt_of_le (Nat.mul_lt_mul_of_pos_right four (powerOfTwo_pos _))
      (Nat.mul_le_mul_left _ power)
  have unit : powerOfTen (firstPlace mantissa exponent).toNat ≤ powerOfTen 2447 := by
    have first := (Decimal.leadingExponent_bounds (4 * mantissa * powerOfTwo (exponent - 2).toNat)
      (powerOfTwo (-(exponent - 2)).toNat)).2
    have digits := (Decimal.digitCount_le_iff (by decide)).mpr value
    exact Decimal.powerOfTen_le (by unfold firstPlace; omega)
  have room : powerOfTen 2448 ≤ powerOfTen 3000 := Decimal.powerOfTen_le (by decide)
  rw [powerOfTen_succ] at room
  unfold shown
  split
  · rw [Decimal.abs_toRat, Nat.cast_zero, zero_mul]
    exact Nat.cast_pos.mpr (powerOfTen_pos 3000)
  · rw [Decimal.abs_toRat]
    exact (shortest_le mantissa exponent).trans_lt (Nat.cast_lt.mpr (by omega))

end Double

end Thermostat
