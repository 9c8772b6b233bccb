import Thermostat.Proofs.Temperature
import Thermostat.Proofs.Text.Append
import Thermostat.Proofs.Text.Trim
import Thermostat.Proofs.Text.Whole
import Thermostat.Proofs.Value.Number
import Thermostat.Proofs.Value.Writable

/-! Numbers that are read as they are: decimals and whole numbers in every part, texts whatever white
space is around them, and what was read once again in the same way. -/
namespace Thermostat

theorem Text.whole_of_isBlankText {t : Text} (blank : isBlankText t = true) : t.Whole := by
  intro p mem
  have inside := isBlankText_iff.mp blank p mem
  cases p with
  | char c => rfl
  | half n =>
    -- White space ends far below the halves.
    obtain ⟨r, range, low, high⟩ := inRanges_iff.mp inside
    have ends : ∀ r ∈ blankRanges, r.2 < CodePoint.firstHalf := by decide
    have below := ends r range
    change CodePoint.firstHalf + n.val ≤ r.2 at high
    omega

theorem Text.exists_string_of_isBlankText {t : Text} (blank : isBlankText t = true) :
    ∃ s : String, t = ofString s ∧ ∀ c ∈ s.toList, isBlank c = true := by
  obtain ⟨s, -, rfl⟩ := (whole_of_isBlankText blank).exists_toString?
  refine ⟨s, rfl, fun c mem => ?_⟩
  exact isBlankText_iff.mp blank (.char c) (List.mem_map.mpr ⟨c, mem, rfl⟩)

theorem Numeral.read?_around {before after : String} (front : ∀ c ∈ before.toList, Text.isBlank c = true)
    (back : ∀ c ∈ after.toList, Text.isBlank c = true) (s : String) :
    Numeral.read? (before ++ s ++ after) = Numeral.read? s := by
  unfold Numeral.read?
  rw [String.toList_append, String.toList_append, Text.trimChars_around front back]

theorem toList_toString_int (n : Int) : (toString n).toList =
    if n < 0 then '-' :: (toString n.natAbs).toList else (toString n.natAbs).toList := by
  cases n with
  | ofNat m =>
    have sign : ¬ Int.ofNat m < 0 := Int.not_lt.mpr (Int.natCast_nonneg m)
    rw [if_neg sign]
    rfl
  | negSucc m =>
    rw [if_pos (Int.negSucc_lt_zero m)]
    simp [Int.repr]

/-- Whole numbers are written as decimals without places. -/
theorem Decimal.write_ofInt (n : Int) : (Decimal.ofInt n).write = toString n := by
  have positional : (Decimal.ofInt n).exponent ≤ 0 ∧ -6 ≤ (Decimal.ofInt n).adjusted := by
    have pos := digitCount_pos n.natAbs
    simp only [ofInt, adjusted]
    omega
  unfold write
  rw [decide_eq_true positional.1, decide_eq_true positional.2, ← String.toList_inj,
    toList_toString_int]
  simp [ofInt, writePositional]

theorem Decimal.isHoldable_ofInt {n : Int} (short : ShortInt n) : (ofInt n).isHoldable = true := by
  have limits : leastExponent ≤ 0 ∧ 0 ≤ greatestExponent ∧ (maxDigits : Int) ≤ greatestExponent := by
    decide
  have exponent : (ofInt n).exponent = 0 := rfl
  have leading : (ofInt n).adjusted ≤ maxDigits := by
    unfold ShortInt at short
    simp only [adjusted, ofInt]
    omega
  unfold isHoldable
  rw [Bool.and_eq_true, decide_eq_true_eq, decide_eq_true_eq]
  constructor
  · omega
  · split <;> omega

theorem shortInt_iff {n : Int} : ShortInt n ↔ n.natAbs < 10 ^ maxDigits := by
  have power (k : Nat) : powerOfTen k = 10 ^ k := rfl
  have some : 0 < maxDigits := by decide
  rw [ShortInt, Decimal.digitCount_le_iff some, power]

namespace Field

variable {parameter : Text}

theorem toDecimal_decimal_iff {d : Decimal} :
    toDecimal (.decimal (.finite d)) parameter = .ok d ↔ d.isHoldable = true :=
  ⟨isHoldable_of_toDecimal, toDecimal_decimal⟩

theorem toDecimal_int {n : Int} (short : ShortInt n) :
    toDecimal (.int n) parameter = .ok (.ofInt n) := by
  have plain : (Value.int n).plain = .ok ((Decimal.ofInt n).write : Text) := by
    rw [Decimal.write_ofInt]
    simp [Value.plain, Value.literal?, short.intText?]
  rw [toDecimal_of_plain plain (by simp) (by simp), decimalOf_eq_ok_iff, Decimal.read?_write,
    if_pos (Decimal.isHoldable_ofInt short)]

/-- A text is read as a decimal just if it is one, white space around it apart. -/
theorem toDecimal_text_eq_ok_iff {t : Text} {d : Decimal} :
    toDecimal (.text (.text t)) parameter = .ok d ↔
      ∃ s : String, t = s ∧ Numeral.read? s = some (.finite d) := by
  constructor
  · intro read
    unfold toDecimal at read
    dsimp only [Value.plain, Label.plain] at read
    split at read
    · cases read
    · next numeral =>
      cases read
      obtain ⟨s, string, finite⟩ := Option.bind_eq_some_iff.mp numeral
      exact ⟨s, Text.toString?_eq_some_iff.mp string, finite⟩
    · cases read
  · rintro ⟨s, rfl, finite⟩
    rw [toDecimal_of_plain (v := .text (.text s)) (s := s) rfl (by simp) (by simp), decimalOf_eq_ok_iff]
    exact finite

/-- White space around a text makes no difference to the decimal that it is. -/
theorem toDecimal_around {before after : Text} (front : Text.isBlankText before = true)
    (back : Text.isBlankText after = true) {t : Text} {d : Decimal} :
    toDecimal (.text (.text (before ++ t ++ after))) parameter = .ok d ↔
      toDecimal (.text (.text t)) parameter = .ok d := by
  obtain ⟨b, rfl, front'⟩ := Text.exists_string_of_isBlankText front
  obtain ⟨a, rfl, back'⟩ := Text.exists_string_of_isBlankText back
  rw [toDecimal_text_eq_ok_iff, toDecimal_text_eq_ok_iff]
  constructor
  · rintro ⟨s, around, finite⟩
    have whole : t.Whole := by
      intro p mem
      have inside : p ∈ (Text.ofString b ++ t ++ Text.ofString a).points :=
        List.mem_append_left _ (List.mem_append_right _ mem)
      rw [around] at inside
      exact Text.whole_ofString s p inside
    obtain ⟨s', -, rfl⟩ := whole.exists_toString?
    rw [← Text.ofString_append, ← Text.ofString_append] at around
    have same : b ++ s' ++ a = s := Text.ofString_inj.mp around
    rw [← same, Numeral.read?_around front' back'] at finite
    exact ⟨s', rfl, finite⟩
  · rintro ⟨s, rfl, finite⟩
    refine ⟨b ++ s ++ a, ?_, ?_⟩
    · rw [Text.ofString_append, Text.ofString_append]
    · rw [Numeral.read?_around front' back']
      exact finite

/-- A decimal that was read for a value is read again from itself and from its text. -/
theorem toDecimal_again {v : Value} {d : Decimal} (again : Text)
    (read : toDecimal v parameter = .ok d) :
    toDecimal (.decimal (.finite d)) again = .ok d ∧
      toDecimal (.text (.text d.write)) again = .ok d := by
  have holdable := isHoldable_of_toDecimal read
  constructor
  · exact toDecimal_decimal holdable
  · apply toDecimal_text_eq_ok_iff.mpr
    refine ⟨d.write, rfl, ?_⟩
    rw [Decimal.read?_write, if_pos holdable]

/-- Decimals are read for values exactly and stably. A decimal is read in every part, down to the sign
and the places of a zero, just if it lies in the range that can be held (no other decimal exists). A
whole number is read as itself if it has no more digits than are written out. White space around a
text makes no difference. What was read for any value, for any parameter, is read again from itself
and from its text. -/
theorem toDecimal_stable (parameter again : Text) :
    (∀ d : Decimal, toDecimal (.decimal (.finite d)) parameter = .ok d ↔ d.isHoldable = true) ∧
      (∀ n : Int, n.natAbs < 10 ^ maxDigits →
        toDecimal (.int n) parameter = .ok (.ofInt n) ∧ (Decimal.ofInt n).toRat = n) ∧
      (∀ before t after : Text, Text.isBlankText before = true → Text.isBlankText after = true →
        ∀ d : Decimal, toDecimal (.text (.text (before ++ t ++ after))) parameter = .ok d ↔
          toDecimal (.text (.text t)) parameter = .ok d) ∧
      ∀ (v : Value) (d : Decimal), toDecimal v parameter = .ok d →
        toDecimal (.decimal (.finite d)) again = .ok d ∧
          toDecimal (.text (.text d.write)) again = .ok d := by
  refine ⟨?_, ?_, ?_, ?_⟩
  · intro d
    exact toDecimal_decimal_iff
  · intro n few
    exact ⟨toDecimal_int (shortInt_iff.mpr few), Decimal.toRat_ofInt n⟩
  · intro before t after front back d
    exact toDecimal_around front back
  · intro v d read
    exact toDecimal_again again read

/-- A negative zero, a negative number and a text in exponent notation with a tabulator before it and
a wide space behind it. -/
theorem toDecimal_stable_zero :
    toDecimal (.decimal (.finite ⟨true, 0, -12⟩)) "degrees" = .ok ⟨true, 0, -12⟩ ∧
      toDecimal (.text (.text "-0E-12")) "hours" = .ok ⟨true, 0, -12⟩ ∧
      toDecimal (.int (-1200)) "degrees" = .ok ⟨true, 1200, 0⟩ ∧
      toDecimal (.text (.text ("\t" ++ "1_2e3" ++ "\u3000"))) "degrees" = .ok ⟨false, 12, 3⟩ := by
  obtain ⟨decimals, wholes, around, again⟩ := toDecimal_stable "degrees" "hours"
  have zero : toDecimal (.decimal (.finite ⟨true, 0, -12⟩)) "degrees" = .ok ⟨true, 0, -12⟩ :=
    (decimals ⟨true, 0, -12⟩).mpr (by decide)
  have few : (-1200 : Int).natAbs < 10 ^ maxDigits :=
    calc (-1200 : Int).natAbs < 10 ^ 4 := by decide
      _ ≤ 10 ^ maxDigits := Nat.pow_le_pow_right (by decide) (by decide)
  have bare : toDecimal (.text (.text "1_2e3")) "degrees" = .ok ⟨false, 12, 3⟩ :=
    toDecimal_text_eq_ok_iff.mpr ⟨"1_2e3", rfl, by decide⟩
  refine ⟨zero, ?_, (wholes (-1200) few).1, ?_⟩
  · exact (again _ _ zero).2
  · exact (around "\t" "1_2e3" "\u3000" (by decide) (by decide) ⟨false, 12, 3⟩).mpr bare

end Field

end Thermostat
