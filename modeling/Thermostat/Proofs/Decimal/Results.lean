import Thermostat.Decimal.Text
import Thermostat.Proofs.Decimal.Arithmetic

/-! Results of operations as decimals: every one of them can be held, and opposite operands give opposite
results. -/
namespace Thermostat.Decimal

section Held

variable {negative : Bool} {num den : Nat} {e : ℤ} {x : ℚ} {op : Except Signal Decimal} {r : Decimal}

theorem le_exponent_roundAt (negative : Bool) (num den : Nat) (e q : ℤ) :
    q ≤ (roundAt negative num den e q).exponent := by
  unfold roundAt
  dsimp only
  split
  · dsimp only
    omega
  · exact le_rfl

/-- The last place of a result has an exponent in the range of results. -/
theorem exponent_ofQuotient (den_pos : 0 < den) (ok : ofQuotient negative num den e = .ok r) :
    tiny ≤ r.exponent ∧ (r.coefficient = 0 → r.exponent ≤ maxExponent) := by
  have limits : maxExponent = 999999 ∧ tiny = -1000026 ∧ (precision : ℤ) = 28 := by decide
  unfold ofQuotient at ok
  dsimp only at ok
  split at ok
  · cases ok
    dsimp only
    omega
  next nonzero =>
  split at ok
  · cases ok
  next held =>
  split at ok
  · cases ok
    dsimp only
    omega
  generalize place : max (leadingExponent num den + e - (precision - 1)) tiny = q at ok
  split at ok
  · next whole =>
    rw [Bool.and_eq_true, beq_iff_eq] at whole
    have value := abs_toRat_stripped negative den_pos (e - q).toNat whole.2
    have num_pos : (0 : ℚ) < num := Nat.cast_pos.mpr (Nat.pos_of_ne_zero (by simpa using nonzero))
    have unit := zpow_ten_pos e
    have pos : (0 : ℚ) < num * 10 ^ e / den := by positivity
    cases ok
    refine ⟨by dsimp only; omega, fun zero => ?_⟩
    rw [toRat_eq_zero_iff.mpr zero, abs_zero] at value
    exact absurd value pos.ne
  · split at ok
    · cases ok
    · cases ok
      have lower := le_exponent_roundAt negative num den e q
      have upper := exponent_roundAt_le negative num den e q
      omega

theorem Gives.lt (gives : Gives x op) (ok : op = .ok r) : |r.toRat| < 10 ^ (maxExponent + 1) := by
  cases gives with
  | ok value fits =>
    cases ok
    rwa [value]
  | overflow _ => cases ok

/-- What is rounded at its last place can be held. -/
theorem isHoldable_ofQuotient (den_pos : 0 < den) (ok : ofQuotient negative num den e = .ok r) :
    r.isHoldable = true := by
  have limits : leastExponent ≤ tiny ∧ maxExponent ≤ greatestExponent := by decide
  obtain ⟨lower, upper⟩ := exponent_ofQuotient den_pos ok
  unfold isHoldable
  rw [Bool.and_eq_true, decide_eq_true_eq, decide_eq_true_eq]
  refine ⟨by omega, ?_⟩
  split
  · next zero => exact (upper (beq_iff_eq.mp zero)).trans limits.2
  · next nonzero =>
    have leading := (abs_toRat_bounds (by simpa using nonzero)).1
    have size := leading.trans_lt ((gives_ofQuotient den_pos).lt ok)
    have := (zpow_lt_zpow_iff_right₀ (by norm_num)).mp size
    omega

theorem isHoldable_div {y z : Decimal} (divisor : z.coefficient ≠ 0) (ok : y.div z = .ok r) :
    r.isHoldable = true := isHoldable_ofQuotient (Nat.pos_of_ne_zero divisor) ok

end Held

section Opposite

variable {x : ℚ} {op op' : Except Signal Decimal}

/-- Computations that give opposite numbers, or fail alike. -/
inductive Opposite : Except Signal Decimal → Except Signal Decimal → Prop
  | ok {r s : Decimal} (value : s.toRat = -r.toRat) : Opposite (.ok r) (.ok s)
  | error (e : Signal) : Opposite (.error e) (.error e)

/-- Rounding does not favour a sign. -/
theorem Gives.opposite (left : Gives x op) (right : Gives (-x) op') : Opposite op op' := by
  cases left with
  | ok value fits =>
    cases right with
    | ok value' _ => exact .ok (by rw [value', value, rounded_neg])
    | overflow great =>
      rw [rounded_neg, abs_neg] at great
      exact absurd great (not_le.mpr fits)
  | overflow great =>
    cases right with
    | ok _ fits =>
      rw [rounded_neg, abs_neg] at fits
      exact absurd great (not_le.mpr fits)
    | overflow _ => exact .error .overflow

theorem Opposite.bind {next : Decimal → Except Signal Decimal} (first : Opposite op op')
    (rest : ∀ r s : Decimal, s.toRat = -r.toRat → Opposite (next r) (next s)) :
    Opposite (op >>= next) (op' >>= next) := by
  cases first with
  | ok value => exact rest _ _ value
  | error e => exact .error e

end Opposite

end Thermostat.Decimal
