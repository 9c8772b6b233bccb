import Mathlib.Algebra.Group.Nat.Defs
import Mathlib.Tactic.ByContra
import Thermostat.Decimal.Context

/-! The number of decimal digits as powers of ten bound it, and the range of tenths of whole
numbers. -/
namespace Thermostat.Decimal

/-- What is left after splitting off c digits is the quotient by 10^c; it is below the divisor, and it
is not zero unless nothing was split off. -/
private theorem dropDigits_spec (fuel : Nat) {p k : Nat} (n : Nat) (power : p = powerOfTen k)
    (room : n < p ^ 2 ^ fuel) :
    (dropDigits fuel p k n).1 < p ∧
      (dropDigits fuel p k n).1 = n / powerOfTen (dropDigits fuel p k n).2 ∧
      ((dropDigits fuel p k n).2 ≠ 0 → (dropDigits fuel p k n).1 ≠ 0) := by
  induction fuel generalizing p k with
  | zero =>
    simp only [dropDigits, powerOfTen_zero, Nat.div_one, ne_eq, not_true_eq_false, false_implies,
      and_true]
    simpa using room
  | succ fuel ih =>
    unfold dropDigits
    by_cases small : n < p
    · simp [small, powerOfTen_zero]
    · have pos : 0 < p := power ▸ powerOfTen_pos k
      have square : p * p = powerOfTen (2 * k) := by rw [Nat.two_mul, powerOfTen_add, power]
      have room' : n < (p * p) ^ 2 ^ fuel := by
        rwa [← Nat.pow_two, ← Nat.pow_mul, ← Nat.pow_succ']
      obtain ⟨below, quotient, kept⟩ := ih square room'
      simp only [if_neg small]
      generalize dropDigits fuel (p * p) (2 * k) n = split at below quotient kept
      obtain ⟨m, c⟩ := split
      by_cases done : m < p
      · simp only [if_pos done]
        exact ⟨done, quotient, kept⟩
      · simp only [if_neg done]
        refine ⟨Nat.div_lt_of_lt_mul below, ?_, fun _ => ?_⟩
        · rw [powerOfTen_add, ← Nat.div_div_eq_div_mul, ← power]
          exact congrArg (· / p) quotient
        · have := Nat.div_pos (Nat.le_of_not_lt done) pos
          omega

private theorem digitCount_spec (n : Nat) :
    ∃ c, digitCount n = c + 1 ∧ n / powerOfTen c < 10 ∧ (c ≠ 0 → n / powerOfTen c ≠ 0) := by
  have room : n < 10 ^ 2 ^ (n.log2 + 1) := by
    calc n < 2 ^ (n.log2 + 1) := Nat.lt_log2_self
      _ ≤ 10 ^ (n.log2 + 1) := Nat.pow_le_pow_left (by decide) _
      _ ≤ 10 ^ 2 ^ (n.log2 + 1) := Nat.pow_le_pow_right (by decide) (Nat.le_of_lt Nat.lt_two_pow_self)
  obtain ⟨below, quotient, kept⟩ := dropDigits_spec (n.log2 + 1) (k := 1) n rfl room
  rw [quotient] at below kept
  exact ⟨_, rfl, below, kept⟩

theorem digitCount_pos (n : Nat) : 0 < digitCount n := Nat.succ_pos _

theorem lt_powerOfTen_digitCount (n : Nat) : n < powerOfTen (digitCount n) := by
  obtain ⟨c, count, below, -⟩ := digitCount_spec n
  rw [count, powerOfTen_succ, Nat.mul_comm]
  exact (Nat.div_lt_iff_lt_mul (powerOfTen_pos c)).mp below

theorem powerOfTen_le_of_ne_zero {n : Nat} (ne : n ≠ 0) : powerOfTen (digitCount n - 1) ≤ n := by
  obtain ⟨c, count, -, kept⟩ := digitCount_spec n
  rw [count, Nat.add_sub_cancel]
  by_cases zero : c = 0
  · rw [zero, powerOfTen_zero]
    omega
  · exact Nat.le_of_not_lt fun lt => kept zero (Nat.div_eq_of_lt lt)

theorem powerOfTen_le {j k : Nat} (le : j ≤ k) : powerOfTen j ≤ powerOfTen k :=
  Nat.pow_le_pow_right (by decide) le

theorem powerOfTwo_le {j k : Nat} (le : j ≤ k) : powerOfTwo j ≤ powerOfTen k :=
  Nat.le_trans (Nat.pow_le_pow_left (by decide) j) (powerOfTen_le le)

theorem digitCount_le_iff {n k : Nat} (pos : 0 < k) : digitCount n ≤ k ↔ n < powerOfTen k := by
  constructor
  · intro le
    exact Nat.lt_of_lt_of_le (lt_powerOfTen_digitCount n) (powerOfTen_le le)
  · intro lt
    by_cases zero : n = 0
    · subst zero
      exact pos
    · have lower := powerOfTen_le_of_ne_zero zero
      by_contra more
      have := powerOfTen_le (j := k) (k := digitCount n - 1) (by omega)
      omega

/-- The digits that are counted are those that are written. -/
theorem length_toDigits (n : Nat) : (Nat.toDigits 10 n).length = digitCount n := by
  have same {k : Nat} (pos : 0 < k) : (Nat.toDigits 10 n).length ≤ k ↔ digitCount n ≤ k :=
    (Nat.length_toDigits_le_iff (by decide) pos).trans (digitCount_le_iff pos).symm
  have written : 0 < (Nat.toDigits 10 n).length := List.length_pos_iff.mpr Nat.toDigits_ne_nil
  have upper := (same (digitCount_pos n)).mpr (Nat.le_refl _)
  have lower := (same written).mp (Nat.le_refl _)
  omega

theorem numerator_lt {d : Decimal} {k : Nat} (adjusted : d.adjusted < k) :
    d.coefficient * powerOfTen d.exponent.toNat <
      powerOfTen k * powerOfTen (-d.exponent).toNat := by
  unfold Decimal.adjusted at adjusted
  have digits := lt_powerOfTen_digitCount d.coefficient
  have scaled := Nat.mul_lt_mul_of_pos_right digits (powerOfTen_pos d.exponent.toNat)
  rw [← powerOfTen_add] at scaled ⊢
  exact Nat.lt_of_lt_of_le scaled (powerOfTen_le (by omega))

theorem stripZeros_spec (fuel n : Nat) :
    (stripZeros fuel n).1 * powerOfTen (stripZeros fuel n).2 = n := by
  induction fuel generalizing n with
  | zero => exact Nat.mul_one n
  | succ fuel ih =>
    unfold stripZeros
    split
    · next multiple =>
      have whole := Nat.div_mul_cancel (Nat.dvd_of_mod_eq_zero (beq_iff_eq.mp multiple))
      dsimp only
      rw [powerOfTen_succ, ← Nat.mul_assoc, ih, whole]
    · exact Nat.mul_one n

theorem leadingExponent_bounds (num den : Nat) :
    (digitCount num : Int) - digitCount den - 1 ≤ leadingExponent num den ∧
      leadingExponent num den ≤ (digitCount num : Int) - digitCount den := by
  unfold leadingExponent
  dsimp only
  split <;> omega

theorem roundHalfEven_le (num den : Nat) : roundHalfEven num den ≤ num / den + 1 := by
  unfold roundHalfEven
  dsimp only
  split <;> omega

/-- What is rounded at a place of the quotient by ten has a leading digit not far from that of the
dividend. -/
private theorem adjusted_roundAt_le (negative : Bool) (num den : Nat) {q : Int} (low : -31 ≤ q) :
    (roundAt negative num den 0 q).adjusted ≤ max (q + digitCount num + 31) (q + 28) := by
  unfold roundAt inUnits
  dsimp only
  split
  · have count : digitCount (powerOfTen (precision - 1)) ≤ 28 :=
      (digitCount_le_iff (by decide)).mpr (Nat.pow_lt_pow_right (by decide) (by decide))
    simp only [adjusted]
    omega
  · have upper := roundHalfEven_le (num * powerOfTen (0 - q).toNat) (den * powerOfTen (q - 0).toNat)
    have quotient := Nat.div_le_self (num * powerOfTen (0 - q).toNat) (den * powerOfTen (q - 0).toNat)
    have scaled : num * powerOfTen (0 - q).toNat ≤ num * powerOfTen 31 :=
      Nat.mul_le_mul_left _ (powerOfTen_le (by omega))
    have lt := Nat.mul_lt_mul_of_pos_right (lt_powerOfTen_digitCount num) (powerOfTen_pos 31)
    rw [← powerOfTen_add] at lt
    have count : digitCount (roundHalfEven (num * powerOfTen (0 - q).toNat)
        (den * powerOfTen (q - 0).toNat)) ≤ digitCount num + 32 := by
      refine (digitCount_le_iff (by omega)).mpr ?_
      rw [show digitCount num + 32 = (digitCount num + 31) + 1 from rfl, powerOfTen_succ]
      omega
    simp only [adjusted]
    omega

/-- What fits into units of a place has no more than 28 digits. -/
theorem digitCount_quantize {x y : Decimal} {place : Int} (ok : x.quantize place = .ok y) :
    digitCount y.coefficient ≤ precision := by
  have one : digitCount 0 ≤ precision := by decide
  unfold quantize at ok
  split at ok
  · cases ok
    exact one
  · dsimp only at ok
    split at ok
    · cases ok
    · split at ok
      · cases ok
        exact one
      · split at ok
        · cases ok
        · next fits =>
          cases ok
          exact Nat.le_of_not_lt fits

/-- A whole number that is not enormous has a tenth. -/
theorem div_ten (n : Int) (room : (digitCount n.natAbs : Int) ≤ maxExponent / 4) :
    ∃ d, (ofInt n).div (ofInt 10) = .ok d := by
  have bounds := leadingExponent_bounds n.natAbs 10
  have two : digitCount 10 = 2 := by decide
  have pos := digitCount_pos n.natAbs
  have limits : maxExponent = 999999 ∧ tiny = -1000026 ∧ (precision : Int) = 28 := by decide
  unfold div ofQuotient ofInt
  dsimp only
  rw [show (10 : Int).natAbs = 10 from rfl]
  split
  · exact ⟨_, rfl⟩
  · rw [if_neg (by omega)]
    split
    · exact ⟨_, rfl⟩
    · split
      · exact ⟨_, rfl⟩
      · have := adjusted_roundAt_le (decide (n < 0) != decide ((10 : Int) < 0)) n.natAbs 10
          (q := max (leadingExponent n.natAbs 10 + (0 - 0) - (precision - 1)) tiny) (by omega)
        rw [show ((0 : Int) - 0) = 0 from rfl] at *
        rw [if_neg (by omega)]
        exact ⟨_, rfl⟩

end Thermostat.Decimal
