import Thermostat.Proofs.Field
import Thermostat.Proofs.Hold.Reported
import Thermostat.Proofs.Value.Exact

/-! Whole numbers are taken from numbers of all kinds as they are, whatever the number of their digits,
and from nothing else. -/
namespace Thermostat

namespace Value

/-- Whether a value is a number by its kind. Booleans are not, and no text is. -/
def isNumber : Value → Bool
  | .int _ => true
  | .float _ => true
  | .decimal _ => true
  | .number _ => true
  | _ => false

/-- The whole numbers in a number that shows a text can be written out. -/
theorem Shows.short {v : Value} {s : String} (shown : v.Shows s) : v.Short := by
  cases shown with
  | float x => nofun
  | decimal x => nofun
  | number short =>
    rintro n (_ | mem)
    exact isShort_iff.mp (List.all_eq_true.mp short n mem)

end Value

theorem refuse_eq {α : Type} {r : Rejection} (worded : ∃ t, r.message = .ok t) :
    (refuse r : Except Fault α) = .error (.rejected r) := by
  obtain ⟨t, worded⟩ := worded
  rw [refuse, Fault.ofRejection, worded]

namespace Field

variable {v : Value} {s : String} {parameter : Text}

/-- How a number that is no whole number is refused, by what its text is read as. -/
def refusal (v : Value) (parameter : Text) : Option Numeral → Rejection
  | some (.finite _) => .notWhole v parameter
  | some _ => .notFinite v parameter
  | none => .notNumeric v parameter

theorem refuse_refusal {α : Type} (shown : v.Shows s) (read : Option Numeral) :
    (refuse (refusal v parameter read) : Except Fault α) =
      .error (.rejected (refusal v parameter read)) := by
  apply refuse_eq
  unfold refusal
  split <;> exact exists_expected _ shown.short

theorem wholeOf_refused {d : Decimal} (nothing : ∀ n, wholeOf v parameter d ≠ .ok n) :
    wholeOf v parameter d = refuse (.notWhole v parameter) := by
  unfold wholeOf at nothing ⊢
  cases whole : d.toInt? with
  | none => rfl
  | some n => exact absurd (by rw [whole]) (nothing n)

/-- A text that is read as no finite decimal is refused before anything is rounded. -/
theorem decimalOf_refused (shown : v.Shows s) (other : ∀ d, Numeral.read? s ≠ some (.finite d)) :
    decimalOf v parameter s = .error (.rejected (refusal v parameter (Numeral.read? s))) := by
  unfold decimalOf
  cases read : Numeral.read? s with
  | none => exact refuse_refusal shown none
  | some numeral =>
    cases numeral with
    | finite d => exact absurd read (other d)
    | infinity b => exact refuse_refusal shown (some (.infinity b))
    | notANumber b c n => exact refuse_refusal shown (some (.notANumber b c n))

/-- A number that is no whole number is refused by what its text is read as. -/
theorem requireInt_refused (shown : v.Shows s) (nothing : ∀ n, requireInt v parameter ≠ .ok n) :
    requireInt v parameter = .error (.rejected (refusal v parameter (Numeral.read? s))) := by
  rw [requireInt_shown shown] at nothing ⊢
  by_cases finite : ∃ d, Numeral.read? s = some (.finite d)
  · obtain ⟨d, finite⟩ := finite
    have read : decimalOf v parameter s = .ok d := decimalOf_eq_ok_iff.mpr finite
    rw [read] at nothing ⊢
    rw [finite]
    exact (wholeOf_refused nothing).trans (refuse_refusal shown (some (.finite d)))
  · rw [decimalOf_refused shown (not_exists.mp finite)]
    rfl

/-- What is no number by its kind is refused as such. -/
theorem requireInt_other (other : v.isNumber = false) (short : v.Short) :
    requireInt v parameter = .error (.rejected (.notInteger v parameter)) := by
  have refused : requireInt v parameter = refuse (.notInteger v parameter) := by
    cases v with
    | int _ | float _ | decimal _ | number _ => cases other
    | _ => rfl
  rw [refused]
  exact refuse_eq (exists_expected _ short)

/-- Whole numbers are taken exactly. An integer is taken as it is. Any other number, be it a float, a
decimal or of a further kind, is taken for a whole number just if the finite decimal that it shows is
that number, however many digits it has, and is refused otherwise: as no whole number if it shows a finite
decimal, else as not finite or not numeric. So whatever is taken is the number that the value is. What is
no number by its kind is refused, be it a boolean or a numeric text, if the whole numbers in it can be
written out. Every refusal names the parameter. -/
theorem requireInt_exact (parameter : Text) :
    (∀ n : Int, requireInt (.int n) parameter = .ok n) ∧
      (∀ (v : Value) (s : String), v.Shows s →
        (∀ n : Int, requireInt v parameter = .ok n ↔
          ∃ d, Numeral.read? s = some (.finite d) ∧ d.toRat = n) ∧
        ((∀ n : Int, requireInt v parameter ≠ .ok n) →
          requireInt v parameter = .error (.rejected (refusal v parameter (Numeral.read? s))))) ∧
      (∀ (v : Value) (n : Int), requireInt v parameter = .ok n ↔ v.number? = some (n : ℚ)) ∧
      (∀ v : Value, v.isNumber = false → v.Short →
        requireInt v parameter = .error (.rejected (.notInteger v parameter))) ∧
      ∀ (v : Value) (r : Rejection), requireInt v parameter = .error (.rejected r) →
        r.parameter = some parameter := by
  refine ⟨fun n => rfl, ?_, ?_, ?_, ?_⟩
  · intro v s shown
    exact ⟨fun n => requireInt_shown_iff shown, requireInt_refused shown⟩
  · intro v n
    exact requireInt_eq_ok_iff
  · intro v other short
    exact requireInt_other other short
  · intro v r refused
    exact requireInt_concerns v _ refused r rfl

/-- A decimal of 32 digits with a zero behind the point, one that 28 digits would round to a whole number,
a float in exponent notation, no number, and a numeric text. -/
theorem requireInt_exact_long :
    requireInt (.decimal (.finite ⟨false, 10 ^ 31, -1⟩)) "holdHours" = .ok (10 ^ 30) ∧
      requireInt (.decimal (.finite ⟨false, 10 ^ 31 + 5, -1⟩)) "holdHours" =
        .error (.rejected (.notWhole (.decimal (.finite ⟨false, 10 ^ 31 + 5, -1⟩)) "holdHours")) ∧
      requireInt (.float (.finite false 4768371582031250 21)) "holdHours" = .ok (10 ^ 22) ∧
      requireInt (.float .notANumber) "holdHours" =
        .error (.rejected (.notFinite (.float .notANumber) "holdHours")) ∧
      requireInt (.text (.text "5")) "holdHours" =
        .error (.rejected (.notInteger (.text (.text "5")) "holdHours")) := by
  obtain ⟨-, shown, -, others, -⟩ := requireInt_exact "holdHours"
  have read (d : Decimal) (holdable : d.isHoldable = true) :
      Numeral.read? (Numeral.finite d).write = some (.finite d) :=
    (Decimal.read?_write d).trans (if_pos holdable)
  refine ⟨?_, ?_, ?_, ?_, others _ rfl nofun⟩
  · have whole : (⟨false, 10 ^ 31, -1⟩ : Decimal).toRat = ((10 ^ 30 : ℤ) : ℚ) :=
      Decimal.toInt?_eq_some_iff.mp (by decide)
    exact ((shown _ _ (.decimal _)).1 _).mpr ⟨_, read _ (by decide), whole⟩
  · have half := read ⟨false, 10 ^ 31 + 5, -1⟩ (by decide)
    have fraction : (⟨false, 10 ^ 31 + 5, -1⟩ : Decimal).toInt? = none := by decide
    obtain ⟨taken, refused⟩ := shown _ _ (.decimal (.finite ⟨false, 10 ^ 31 + 5, -1⟩))
    rw [half] at refused
    apply refused
    intro n ok
    obtain ⟨d, same, value⟩ := (taken n).mp ok
    rw [half] at same
    cases same
    rw [Decimal.toInt?_eq_some_iff.mpr value] at fraction
    cases fraction
  · have power : Numeral.read? (Double.finite false 4768371582031250 21).write =
        some (.finite ⟨false, 1, 22⟩) := by decide +kernel
    have whole : (⟨false, 1, 22⟩ : Decimal).toRat = ((10 ^ 22 : ℤ) : ℚ) :=
      Decimal.toInt?_eq_some_iff.mp (by decide)
    exact ((shown _ _ (.float _)).1 _).mpr ⟨_, power, whole⟩
  · have word : Numeral.read? Double.notANumber.write = some (.notANumber false false 0) := by decide
    obtain ⟨taken, refused⟩ := shown _ _ (.float .notANumber)
    rw [word] at refused
    apply refused
    intro n ok
    obtain ⟨d, same, -⟩ := (taken n).mp ok
    rw [word] at same
    cases same

end Field

/-- A fraction in lowest terms. One with the denominator one is spelled as its numerator. -/
def OtherNumber.fraction (q : ℚ) : OtherNumber where
  typeName := "Fraction"
  plain := if q.den = 1 then toString q.num else toString q.num ++ "/" ++ toString q.den
  literal := "Fraction(" ++ toString q.num ++ ", " ++ toString q.den ++ ")"
  spelled := [q.num, q.den]
  isZero := q.num == 0

namespace Field

variable {q : ℚ} {parameter : Text}

/-- A text with a stroke in it is no decimal. -/
theorem read?_fraction (proper : q.den ≠ 1) : Numeral.read? (OtherNumber.fraction q).plain = none := by
  have form := Numeral.read?_stroke (decide (q.num < 0))
    (Decimal.isDigit_of_mem_digits (n := q.num.natAbs)) (Decimal.isDigit_of_mem_digits (n := q.den))
    (Decimal.digits_ne_nil _)
  have text : (OtherNumber.fraction q).plain = toString q.num ++ "/" ++ toString q.den :=
    if_neg proper
  have stroke : "/".toList = ['/'] := rfl
  refine (congrArg Numeral.read? (text.trans ?_)).trans form
  rw [← String.toList_inj, String.toList_append, String.toList_append, stroke, String.toList_ofList,
    toList_toString_int, List.append_assoc]
  by_cases negative : q.num < 0 <;> simp [negative]

theorem read?_fraction_whole (whole : q.den = 1) (short : ShortInt q.num) :
    Numeral.read? (OtherNumber.fraction q).plain = some (.finite (.ofInt q.num)) := by
  have text : (OtherNumber.fraction q).plain = toString q.num := if_pos whole
  rw [text, ← Decimal.write_ofInt, Decimal.read?_write, if_pos (Decimal.isHoldable_ofInt short)]

/-- A fraction is taken for a whole number just if it is one. Any other is refused, since its text is no
decimal. -/
theorem requireInt_fraction (short : (Value.number (.fraction q)).Short) :
    (∀ n : Int, requireInt (.number (.fraction q)) parameter = .ok n ↔ q = n) ∧
      (q.den ≠ 1 → requireInt (.number (.fraction q)) parameter =
        .error (.rejected (.notNumeric (.number (.fraction q)) parameter))) := by
  have shown : (Value.number (.fraction q)).Shows (OtherNumber.fraction q).plain :=
    .number short.all_isShort
  by_cases whole : q.den = 1
  · have read := read?_fraction_whole whole (short q.num (.number List.mem_cons_self))
    refine ⟨fun n => ?_, fun proper => absurd whole proper⟩
    rw [requireInt_shown_iff shown, read]
    have value : (q.num : ℚ) = q := Rat.coe_int_num_of_den_eq_one whole
    simp [Decimal.toRat_ofInt, value]
  · have nothing : ∀ n : Int, requireInt (.number (.fraction q)) parameter ≠ .ok n := by
      intro n ok
      obtain ⟨d, read, -⟩ := (requireInt_shown_iff shown).mp ok
      rw [read?_fraction whole] at read
      cases read
    refine ⟨fun n => iff_of_false (nothing n) ?_, fun _ => ?_⟩
    · rintro rfl
      exact whole rfl
    · rw [requireInt_refused shown nothing, read?_fraction whole]
      rfl

/-- A fraction that is a whole number is taken as it, although it is no integer, float or decimal. -/
theorem requireInt_takes_fraction :
    requireInt (.number (.fraction (4 / 2))) "holdHours" = .ok 2 ∧
      ¬ ∀ v : Value, v.Short → (∀ n, v ≠ .int n) → (∀ x, v ≠ .float x) → (∀ x, v ≠ .decimal x) →
        ∃ r, requireInt v "holdHours" = .error (.rejected r) := by
  have two : (4 / 2 : ℚ) = (2 : ℤ) := by norm_num
  have short : (Value.number (.fraction (4 / 2))).Short := by
    rw [two]
    rintro n (_ | mem)
    have each : ∀ n ∈ (OtherNumber.fraction (2 : ℤ)).spelled, isShort n = true := by decide
    exact isShort_iff.mp (each n mem)
  have taken : requireInt (.number (.fraction (4 / 2))) "holdHours" = .ok 2 :=
    ((requireInt_fraction short).1 2).mpr two
  refine ⟨taken, fun refused => ?_⟩
  obtain ⟨r, no⟩ := refused _ short nofun nofun nofun
  rw [taken] at no
  cases no

end Field

end Thermostat
