import Thermostat.Field
import Thermostat.Proofs.Decimal.Whole
import Thermostat.Proofs.Double.Reading
import Thermostat.Proofs.Steps

/-! The numbers that values are, and the whole numbers among them. -/
namespace Thermostat

/-- The number that a value is: a float is what its digits show, a decimal is one that can be held, and a
number of another kind is what its text is read as, if that can be written. Booleans and texts are no
numbers. -/
def Value.number? : Value → Option ℚ
  | .int n => some n
  | .float (.finite negative mantissa exponent) => (Double.shown negative mantissa exponent).held?
  | .decimal (.finite d) => d.held?
  | .number x =>
    if x.spelled.all isShort then (Numeral.read? x.plain).bind Numeral.toRat? else Option.none
  | _ => Option.none

/-- The text that a number shows which is no integer. -/
inductive Value.Shows : Value → String → Prop
  | float (x : Double) : Shows (.float x) x.write
  | decimal (x : Numeral) : Shows (.decimal x) x.write
  | number {x : OtherNumber} (short : x.spelled.all isShort = true) : Shows (.number x) x.plain

/-- The number that such a value is, is the one that its text shows. -/
theorem Value.Shows.number?_eq {v : Value} {s : String} (shown : v.Shows s) :
    v.number? = (Numeral.read? s).bind Numeral.toRat? := by
  cases shown with
  | float x =>
    cases x with
    | finite negative mantissa exponent => exact (Double.number_write negative mantissa exponent).symm
    | infinite negative =>
      have word : Numeral.read? (Double.infinite negative).write = some (.infinity negative) := by
        cases negative <;> decide
      rw [word]
      rfl
    | notANumber =>
      have word : Numeral.read? Double.notANumber.write = some (.notANumber false false 0) := by decide
      rw [word]
      rfl
  | decimal x =>
    cases x with
    | finite d => exact (Decimal.number_write d).symm
    | infinity negative =>
      have word : Numeral.read? (Numeral.infinity negative).write = some (.infinity negative) := by
        cases negative <;> decide
      rw [word]
      rfl
    | notANumber negative signaling payload =>
      exact (Numeral.number_notANumber negative signaling payload).symm
  | number short => exact if_pos short

namespace Field

variable {parameter : Text}

/-- The decimal that is read for a value from its text. -/
def decimalOf (v : Value) (parameter : Text) (s : String) : Except Fault Decimal :=
  match Numeral.read? s with
  | none => refuse (.notNumeric v parameter)
  | some (.finite d) => .ok d
  | some _ => refuse (.notFinite v parameter)

theorem toDecimal_of_plain {v : Value} {s : String} (plain : v.plain = .ok (s : Text))
    (something : v ≠ .none) (number : ∀ b, v ≠ .bool b) :
    toDecimal v parameter = decimalOf v parameter s := by
  unfold toDecimal decimalOf
  split
  · exact absurd rfl (number _)
  · exact absurd rfl something
  · rw [plain]
    dsimp only
    rw [Text.toString?_ofString]
    rfl

theorem decimalOf_eq_ok_iff {v : Value} {s : String} {d : Decimal} :
    decimalOf v parameter s = .ok d ↔ Numeral.read? s = some (.finite d) := by
  unfold decimalOf
  cases Numeral.read? s with
  | none => simp [refuse]
  | some numeral => cases numeral <;> simp [refuse]

theorem toDecimal_shown {v : Value} {s : String} (shown : v.Shows s) :
    toDecimal v parameter = decimalOf v parameter s := by
  cases shown with
  | float x => exact toDecimal_of_plain rfl (by simp) (by simp)
  | decimal x => exact toDecimal_of_plain rfl (by simp) (by simp)
  | number short => exact toDecimal_of_plain (if_pos short) (by simp) (by simp)

/-- A decimal that can be held is read as it is, in every part. -/
theorem toDecimal_decimal {d : Decimal} (holdable : d.isHoldable = true) :
    toDecimal (.decimal (.finite d)) parameter = .ok d := by
  rw [toDecimal_shown (.decimal (.finite d)), decimalOf_eq_ok_iff]
  exact (Decimal.read?_write d).trans (if_pos holdable)

/-- Whatever is read for a value can be held. -/
theorem isHoldable_of_toDecimal {v : Value} {d : Decimal} (read : toDecimal v parameter = .ok d) :
    d.isHoldable = true := by
  unfold toDecimal at read
  split at read
  · cases read
  · cases read
  split at read
  · cases read
  · cases read
  split at read
  · cases read
  · next numeral =>
    cases read
    obtain ⟨s, -, finite⟩ := Option.bind_eq_some_iff.mp numeral
    exact Numeral.isHoldable_of_read? finite
  · cases read

/-- The whole number that a decimal is, where it was read for a value. -/
def wholeOf (v : Value) (parameter : Text) (d : Decimal) : Except Fault Int :=
  match d.toInt? with
  | some n => .ok n
  | none => refuse (.notWhole v parameter)

theorem wholeOf_eq_ok_iff {v : Value} {d : Decimal} {n : Int} :
    wholeOf v parameter d = .ok n ↔ d.toRat = n := by
  rw [← Decimal.toInt?_eq_some_iff]
  unfold wholeOf
  cases d.toInt? <;> simp [refuse]

/-- The steps that are taken for a number which is no integer. -/
theorem requireInt_shown {v : Value} {s : String} (shown : v.Shows s) :
    requireInt v parameter = decimalOf v parameter s >>= wholeOf v parameter := by
  rw [← toDecimal_shown shown]
  cases shown <;> rfl

/-- A number which is no integer is taken for a whole number just if the decimal that it shows is that
number. -/
theorem requireInt_shown_iff {v : Value} {s : String} (shown : v.Shows s) {n : Int} :
    requireInt v parameter = .ok n ↔ ∃ d, Numeral.read? s = some (.finite d) ∧ d.toRat = n := by
  rw [requireInt_shown shown, bind_eq_ok_iff]
  simp only [decimalOf_eq_ok_iff, wholeOf_eq_ok_iff]

/-- A value is taken for a whole number just if it is that number. -/
theorem requireInt_eq_ok_iff {v : Value} {n : Int} :
    requireInt v parameter = .ok n ↔ v.number? = some (n : ℚ) := by
  have taken {s : String} (shown : v.Shows s) :
      requireInt v parameter = .ok n ↔ v.number? = some (n : ℚ) := by
    rw [requireInt_shown_iff shown, shown.number?_eq, Numeral.bind_toRat?_eq_some_iff]
  cases v with
  | int m =>
    simp only [requireInt, Value.number?, Except.ok.injEq, Option.some.injEq, Int.cast_inj]
  | float x => exact taken (.float x)
  | decimal x => exact taken (.decimal x)
  | number x =>
    by_cases short : x.spelled.all isShort = true
    · exact taken (.number short)
    · have unwritten : requireInt (.number x) parameter = .error .unwritable := by
        simp only [requireInt, toDecimal, Value.plain, if_neg short]
        rfl
      rw [unwritten, Value.number?, if_neg short]
      exact iff_of_false nofun nofun
  | _ => exact iff_of_false (fun ok => by cases ok) (fun same => by cases same)

end Field

end Thermostat
