import Mathlib.Tactic.FieldSimp
import Thermostat.Double.Text
import Thermostat.Proofs.Decimal.Reading

/-! Doubles read back: the text of a finite double stands for the number that its shortest digits
show. -/
namespace Thermostat

namespace Double

open Numeral

/-- The decimal that a finite double is written as. -/
def shown (negative : Bool) (mantissa : Nat) (exponent : Int) : Decimal :=
  if mantissa = 0 then ⟨negative, 0, 0⟩
  else ⟨negative, (shortest mantissa exponent).1, (shortest mantissa exponent).2⟩

/-- Behind a coefficient that is padded up to the point stands a zero. -/
theorem form_padded (digits : List Char) (hd : ∀ c ∈ digits, c.isDigit = true) (ne : digits ≠ [])
    (k : Nat) :
    Form (digits ++ List.replicate k '0' ++ ['.', '0'])
      (Nat.ofDigitChars 10 digits 0 * powerOfTen (k + 1)) (-1) := by
  have zeros : ∀ c ∈ digits ++ List.replicate k '0', c.isDigit = true := by
    intro c mem
    rcases List.mem_append.mp mem with digit | zero
    · exact hd c digit
    · rw [List.eq_of_mem_replicate zero]
      decide
  have form := form_point _ ['0'] zeros (by simp) (List.append_ne_nil_of_left_ne_nil ne _)
  have value : Nat.ofDigitChars 10 (digits ++ List.replicate k '0' ++ ['0']) 0 =
      Nat.ofDigitChars 10 digits 0 * powerOfTen (k + 1) := by
    rw [List.append_assoc, ← List.replicate_succ', Nat.ofDigitChars_append,
      Nat.ofDigitChars_replicate_zero, Nat.mul_comm]
    rfl
  rwa [value] at form

/-- Zeros up to the point and one behind it do not change the number. -/
theorem held?_padded (negative : Bool) {c k : Nat} (short : (k : Int) + Decimal.digitCount c - 1 < 16) :
    (Decimal.mk negative (c * powerOfTen (k + 1)) (-1)).held? = (Decimal.mk negative c k).held? := by
  have pos := Decimal.digitCount_pos c
  have digits : Decimal.digitCount (c * powerOfTen (k + 1)) ≤ Decimal.digitCount c + (k + 1) := by
    rw [Decimal.digitCount_le_iff (by omega), powerOfTen_add _ (k + 1)]
    exact Nat.mul_lt_mul_of_pos_right (Decimal.lt_powerOfTen_digitCount c) (powerOfTen_pos _)
  have left : (Decimal.mk negative (c * powerOfTen (k + 1)) (-1)).isHoldable = true := by
    refine Decimal.isHoldable_of_bounds ?_ ?_ ?_ <;> simp only [Decimal.adjusted] <;> omega
  have right : (Decimal.mk negative c k).isHoldable = true := by
    refine Decimal.isHoldable_of_bounds ?_ ?_ ?_ <;> simp only [Decimal.adjusted] <;> omega
  have value : (Decimal.mk negative (c * powerOfTen (k + 1)) (-1)).toRat =
      (Decimal.mk negative c k).toRat := by
    simp only [Decimal.toRat, Decimal.sign]
    push_cast
    rw [Decimal.powerOfTen_cast, pow_succ, zpow_natCast]
    field_simp
  rw [Decimal.held?, Decimal.held?, left, right, value]

theorem form_writePositional {c : Nat} (negative : Bool) {place : Int}
    (short : place + Decimal.digitCount c - 1 < 16) :
    ∃ c' e, Form (writePositional (toString c).toList place) c' e ∧
      (Decimal.mk negative c' e).held? = (Decimal.mk negative c place).held? := by
  have digits : ∀ x ∈ (toString c).toList, x.isDigit = true := Decimal.isDigit_of_mem_digits
  have some := Decimal.digits_ne_nil c
  unfold writePositional
  split
  · next nonneg =>
    obtain ⟨k, rfl⟩ := Int.eq_ofNat_of_zero_le nonneg
    have form := form_padded _ digits some k
    rw [Decimal.ofDigitChars_digits] at form
    exact ⟨_, _, form, held?_padded negative short⟩
  · next neg =>
    have form := Decimal.form_writePositional digits some (e := place) (by omega)
    rw [Decimal.ofDigitChars_digits] at form
    exact ⟨_, _, form, rfl⟩

theorem form_writeScientific {c : Nat} {place : Int} :
    Form (writeScientific (toString c).toList (place + (toString c).toList.length - 1)) c place := by
  obtain ⟨d, ds, digits⟩ := List.exists_cons_of_ne_nil (Decimal.digits_ne_nil c)
  have each : ∀ x ∈ d :: ds, x.isDigit = true := digits ▸ Decimal.isDigit_of_mem_digits
  have some : (Text.padded 2 (place + (d :: ds).length - 1).natAbs).toList ≠ [] := by
    rw [Text.toList_padded]
    exact List.append_ne_nil_of_right_ne_nil _ Nat.toDigits_ne_nil
  have form := form_exponent each (Or.inl rfl) (place + (d :: ds).length - 1)
    (fun x mem => Text.isDigit_of_mem_padded mem) some (Text.ofDigitChars_padded _ _)
  have value := Decimal.ofDigitChars_digits c
  have exponent : place + (d :: ds).length - 1 - ds.length = place := by
    rw [List.length_cons]
    omega
  rw [digits] at value
  rw [value, exponent] at form
  rw [digits]
  cases ds <;> exact form

/-- The text of a finite double stands for the number that its digits show. -/
theorem number_write (negative : Bool) (mantissa : Nat) (exponent : Int) :
    (Numeral.read? (write (.finite negative mantissa exponent))).bind Numeral.toRat? =
      (shown negative mantissa exponent).held? := by
  obtain ⟨c, e, form, value⟩ : ∃ c e, Form
      (if mantissa == 0 then ['0', '.', '0']
      else
        let digits := (toString (shortest mantissa exponent).1).toList
        let leading := (shortest mantissa exponent).2 + digits.length - 1
        if -4 ≤ leading && leading < 16 then writePositional digits (shortest mantissa exponent).2
        else writeScientific digits leading) c e ∧
      (Decimal.mk negative c e).held? = (shown negative mantissa exponent).held? := by
    unfold shown
    split
    · next zero =>
      have form := form_padded ['0'] (by simp) (List.cons_ne_nil '0' []) 0
      rw [if_pos (beq_iff_eq.mp zero)]
      exact ⟨_, _, form, held?_padded negative (by decide)⟩
    · next other =>
      have some : ¬ mantissa = 0 := by simpa using other
      rw [if_neg some]
      dsimp only
      split
      · next short =>
        rw [Decimal.length_digits, Bool.and_eq_true, decide_eq_true_eq, decide_eq_true_eq] at short
        exact form_writePositional negative short.2
      · exact ⟨_, _, form_writeScientific, rfl⟩
  rw [← value, ← form.number negative]
  rfl

end Double

end Thermostat
