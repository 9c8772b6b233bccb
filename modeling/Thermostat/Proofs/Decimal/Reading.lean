import Thermostat.Decimal.Text
import Thermostat.Proofs.Decimal.Number
import Thermostat.Proofs.Text.Digits
import Thermostat.Proofs.Text.Trim

/-! Numeric texts read back: a decimal that can be held is read from its text as it was. -/
namespace Thermostat

namespace Numeral

/-- The characters of written numbers that are no digits. -/
def marks : List Char := ['.', '-', '+', '/', 'e', 'E', 's', 'N', 'a']

def isPlain (c : Char) : Bool := c.isDigit || marks.contains c

theorem isPlain_iff {c : Char} : isPlain c = true ↔ c.isDigit = true ∨ c ∈ marks := by
  rw [isPlain, Bool.or_eq_true, List.contains_iff_mem]

theorem digitValue?_of_isDigit {c : Char} (digit : c.isDigit = true) :
    Text.digitValue? c = some (c.toNat - 48) := by
  obtain ⟨lower, upper⟩ := Text.toNat_of_isDigit digit
  simp [Text.digitValue?, Text.zeroDigits, lower, show c.toNat < 58 by omega]

theorem not_isBlank_of_isPlain {c : Char} (plain : isPlain c = true) : Text.isBlank c = false := by
  rcases isPlain_iff.mp plain with digit | mark
  · exact Text.not_isBlank_of_isDigit digit
  · have each : marks.all (Text.isBlank · == false) = true := by decide
    exact beq_iff_eq.mp (List.all_eq_true.mp each c mark)

theorem trimChars_of_isPlain {cs : List Char} (plain : ∀ c ∈ cs, isPlain c = true) :
    Text.trimChars cs = cs := by
  have front : cs.dropWhile Text.isBlank = cs :=
    Text.dropWhile_eq_self fun c head => not_isBlank_of_isPlain (plain c (List.mem_of_head? head))
  rw [Text.trimChars, front]
  exact Text.dropEnd_eq_self fun c last =>
    not_isBlank_of_isPlain (plain c (List.mem_of_getLast? last))

theorem toAscii_of_isPlain {cs : List Char} (plain : ∀ c ∈ cs, isPlain c = true) :
    toAscii cs = cs := by
  have keep : ∀ c ∈ cs, (c != '_') = true := by
    intro c mem
    rw [bne_iff_ne]
    rintro rfl
    exact absurd (plain _ mem) (by decide)
  unfold toAscii
  rw [List.filter_eq_self.mpr keep]
  refine (List.map_congr_left fun c mem => ?_).trans (List.map_id cs)
  rcases isPlain_iff.mp (plain c mem) with digit | mark
  · obtain ⟨lower, upper⟩ := Text.toNat_of_isDigit digit
    rw [digitValue?_of_isDigit digit]
    change Char.ofNat (48 + (c.toNat - 48)) = c
    rw [Nat.add_sub_cancel' lower, Char.ofNat_toNat]
  · have each : marks.all (Text.digitValue? · == none) = true := by decide
    rw [beq_iff_eq.mp (List.all_eq_true.mp each c mark)]
    rfl

/-- A point with the digits behind it, where there are any. -/
def point : List Char → List Char
  | [] => []
  | ds => '.' :: ds

@[simp] theorem point_nil : point [] = [] := rfl

@[simp] theorem point_cons (d : Char) (ds : List Char) : point (d :: ds) = '.' :: d :: ds := rfl

theorem head?_not_isDigit_point (ds : List Char) {rest : List Char}
    (next : rest.head?.all (fun c => !c.isDigit) = true) :
    (point ds ++ rest).head?.all (fun c => !c.isDigit) = true := by
  cases ds with
  | nil => exact next
  | cons d ds => rfl

/-- Digits, a point with more of them where there are any, and what is no part of either. -/
theorem readFinite_append (negative : Bool) (whole fraction rest : List Char)
    (hw : ∀ c ∈ whole, c.isDigit = true) (hf : ∀ c ∈ fraction, c.isDigit = true) (ne : whole ≠ [])
    (next : rest.head?.all (fun c => !c.isDigit) = true) (noPoint : rest.head? ≠ some '.') :
    readFinite negative (whole ++ point fraction ++ rest) =
      (readExponent rest).map fun e =>
        ⟨negative, Nat.ofDigitChars 10 (whole ++ fraction) 0, e - fraction.length⟩ := by
  have some : (whole.filterMap Text.asciiDigit?).isEmpty = false := by
    rw [List.isEmpty_eq_false_iff, ← List.length_pos_iff, Text.length_filterMap_asciiDigit? hw]
    exact List.length_pos_iff.mpr ne
  have digits : ∀ c ∈ whole ++ fraction, c.isDigit = true := by
    intro c mem
    exact (List.mem_append.mp mem).elim (hw c) (hf c)
  have number := Text.ofDigits_filterMap digits
  rw [List.filterMap_append] at number
  have front := Text.spanDigits_append hw (head?_not_isDigit_point fraction next)
  have length := Text.length_filterMap_asciiDigit? hf
  rw [List.append_assoc]
  unfold readFinite
  rw [front]
  dsimp only
  cases fraction with
  | nil =>
    rw [point_nil, List.nil_append]
    split
    · exact absurd rfl noPoint
    · simp only [some, Bool.false_and, Bool.false_eq_true, if_false, ← number, List.filterMap_nil,
        List.length_nil]
  | cons d fraction =>
    rw [point_cons, List.cons_append]
    split
    · next more same =>
      cases same
      simp only [Text.spanDigits_append hf next, some, Bool.false_and, Bool.false_eq_true, if_false,
        number, length]
    · next other => exact absurd rfl (other _)

/-- A mark, a sign and digits are read as an exponent. -/
theorem readExponent_written {mark : Char} (isMark : mark = 'e' ∨ mark = 'E') (e : Int)
    {ds : List Char} (digits : ∀ c ∈ ds, c.isDigit = true) (ne : ds ≠ [])
    (value : Nat.ofDigitChars 10 ds 0 = e.natAbs) :
    readExponent (mark :: (if e < 0 then '-' else '+') :: ds) = some e := by
  have marked : (mark == 'e' || mark == 'E') = true := by
    rcases isMark with rfl | rfl <;> rfl
  have sign : splitSign ((if e < 0 then '-' else '+') :: ds) = (decide (e < 0), ds) := by
    split
    · next neg => rw [decide_eq_true neg]; rfl
    · next nonneg => rw [decide_eq_false nonneg]; rfl
  have span := Text.spanDigits_of_digits digits
  have some : (ds.filterMap Text.asciiDigit?).isEmpty = false := by
    rw [List.isEmpty_eq_false_iff, ← List.length_pos_iff, Text.length_filterMap_asciiDigit? digits]
    exact List.length_pos_iff.mpr ne
  unfold readExponent
  dsimp only
  rw [if_pos marked, sign]
  dsimp only
  rw [span]
  simp only [some, List.isEmpty_nil, Bool.not_true, Bool.or_self, Bool.false_eq_true, if_false,
    Text.ofDigits_filterMap digits, value, decide_eq_true_eq, Option.some.injEq]
  split <;> omega

/-- A text without a sign that reads as a coefficient and an exponent. -/
structure Form (body : List Char) (coefficient : Nat) (exponent : Int) : Prop where
  plain : ∀ c ∈ body, isPlain c = true
  digit : ∃ c cs, body = c :: cs ∧ c.isDigit = true
  read (negative : Bool) : readFinite negative body = some ⟨negative, coefficient, exponent⟩

theorem isPlain_of_isDigit {c : Char} (digit : c.isDigit = true) : isPlain c = true := by
  simp [isPlain, digit]

theorem isPlain_of_mem_point {ds : List Char} (digits : ∀ c ∈ ds, c.isDigit = true) :
    ∀ c ∈ point ds, isPlain c = true := by
  cases ds with
  | nil => nofun
  | cons d ds =>
    rw [point_cons, List.forall_mem_cons]
    exact ⟨rfl, fun c mem => isPlain_of_isDigit (digits c mem)⟩

/-- Digits, and a point with more of them where there are any. -/
theorem form_point (whole fraction : List Char) (hw : ∀ c ∈ whole, c.isDigit = true)
    (hf : ∀ c ∈ fraction, c.isDigit = true) (ne : whole ≠ []) :
    Form (whole ++ point fraction) (Nat.ofDigitChars 10 (whole ++ fraction) 0) (-fraction.length) := by
  refine ⟨?_, ?_, fun negative => ?_⟩
  · rw [List.forall_mem_append]
    exact ⟨fun c mem => isPlain_of_isDigit (hw c mem), isPlain_of_mem_point hf⟩
  · obtain ⟨c, cs, rfl⟩ := List.exists_cons_of_ne_nil ne
    exact ⟨c, _, rfl, hw c List.mem_cons_self⟩
  · have form := readFinite_append negative whole fraction [] hw hf ne rfl nofun
    rw [List.append_nil] at form
    rw [form]
    simp [readExponent]

/-- One digit, a point with more of them where there are any, and an exponent. -/
theorem form_exponent {d : Char} {ds xs : List Char} {mark : Char}
    (digits : ∀ c ∈ d :: ds, c.isDigit = true) (isMark : mark = 'e' ∨ mark = 'E') (e : Int)
    (hx : ∀ c ∈ xs, c.isDigit = true) (ne : xs ≠ [])
    (value : Nat.ofDigitChars 10 xs 0 = e.natAbs) :
    Form (d :: point ds ++ mark :: (if e < 0 then '-' else '+') :: xs)
      (Nat.ofDigitChars 10 (d :: ds) 0) (e - ds.length) := by
  obtain ⟨first, rest⟩ := List.forall_mem_cons.mp digits
  refine ⟨?_, ⟨d, _, rfl, first⟩, fun negative => ?_⟩
  · rw [List.cons_append, List.forall_mem_cons, List.forall_mem_append, List.forall_mem_cons,
      List.forall_mem_cons]
    refine ⟨isPlain_of_isDigit first, isPlain_of_mem_point rest, ?_, ?_,
      fun c mem => isPlain_of_isDigit (hx c mem)⟩
    · rcases isMark with rfl | rfl <;> rfl
    · split <;> rfl
  · have next : (mark :: (if e < 0 then '-' else '+') :: xs).head?.all (fun c => !c.isDigit) = true := by
      rcases isMark with rfl | rfl <;> rfl
    have noPoint : (mark :: (if e < 0 then '-' else '+') :: xs).head? ≠ some '.' := by
      rcases isMark with rfl | rfl <;> simp
    have form := readFinite_append negative [d] ds _ (by simpa using first) rest nofun next noPoint
    rw [readExponent_written isMark e hx ne value] at form
    exact form

/-- No sign stands in front of a digit. -/
theorem splitSign_of_isDigit {x : Char} (digit : x.isDigit = true) (xs : List Char) (negative : Bool) :
    splitSign (if negative then '-' :: x :: xs else x :: xs) = (negative, x :: xs) := by
  cases negative with
  | true => rfl
  | false =>
    unfold splitSign
    split
    · next same => exact absurd (List.cons.inj same).1 (Text.ne_of_isDigit digit rfl)
    · next same => exact absurd (List.cons.inj same).1 (Text.ne_of_isDigit digit rfl)
    · rfl

theorem toLower_of_isDigit {x : Char} (digit : x.isDigit = true) : x.toLower = x := by
  obtain ⟨-, upper⟩ := Text.toNat_of_isDigit digit
  unfold Char.toLower
  rw [dif_neg]
  rw [ge_iff_le, UInt32.le_iff_toNat_le]
  exact fun capital => by
    have : 65 ≤ x.toNat := capital.1
    omega

/-- What begins with a digit is read as a number, and as no word. -/
theorem read?_of_isDigit {x : Char} {xs : List Char} (digit : x.isDigit = true)
    (plain : ∀ c ∈ x :: xs, isPlain c = true) (negative : Bool) :
    Numeral.read? (String.ofList (if negative then '-' :: x :: xs else x :: xs)) =
      (readFinite negative (x :: xs)).bind fun d =>
        if d.isHoldable then some (.finite d) else none := by
  have plain : ∀ c ∈ (if negative then '-' :: x :: xs else x :: xs), isPlain c = true := by
    split
    · exact List.forall_mem_cons.mpr ⟨rfl, plain⟩
    · exact plain
  have sign := splitSign_of_isDigit digit xs negative
  have lower : lowerAscii (x :: xs) = x :: lowerAscii xs := by
    rw [lowerAscii, List.map_cons, toLower_of_isDigit digit]
    rfl
  have word {t ys : List Char} {y : Char} (letter : y.isDigit = false) :
      (x :: t == y :: ys) = false := by
    rw [beq_eq_false_iff_ne]
    exact fun same => Text.ne_of_isDigit digit letter (List.cons.inj same).1
  have inf (t : List Char) : (x :: t == "inf".toList) = false := word rfl
  have infinity (t : List Char) : (x :: t == "infinity".toList) = false := word rfl
  have nan (t : List Char) : (x :: t == "nan".toList) = false := word rfl
  have snan (t : List Char) : (x :: t == "snan".toList) = false := word rfl
  unfold Numeral.read?
  rw [String.toList_ofList, trimChars_of_isPlain plain, toAscii_of_isPlain plain]
  unfold readAscii
  simp only [sign, lower, List.take_succ_cons, inf, infinity, nan, snan, Bool.or_self,
    Bool.false_eq_true, if_false]
  cases readFinite negative (x :: xs) <;> rfl

theorem Form.read? {body : List Char} {c : Nat} {e : Int} (form : Form body c e) (negative : Bool) :
    Numeral.read? (String.ofList (if negative then '-' :: body else body)) =
      if (Decimal.mk negative c e).isHoldable then some (.finite ⟨negative, c, e⟩) else none := by
  have finite := form.read negative
  obtain ⟨x, xs, rfl, digit⟩ := form.digit
  rw [read?_of_isDigit digit form.plain, finite, Option.bind_some]

/-- Two numbers with a stroke between them are no decimal. -/
theorem read?_stroke (negative : Bool) {above below : List Char}
    (digits : ∀ c ∈ above, c.isDigit = true) (digits' : ∀ c ∈ below, c.isDigit = true)
    (ne : above ≠ []) :
    Numeral.read? (String.ofList
      (if negative then '-' :: (above ++ '/' :: below) else above ++ '/' :: below)) = none := by
  have plain : ∀ c ∈ above ++ '/' :: below, isPlain c = true := by
    rw [List.forall_mem_append, List.forall_mem_cons]
    exact ⟨fun c mem => isPlain_of_isDigit (digits c mem), rfl,
      fun c mem => isPlain_of_isDigit (digits' c mem)⟩
  have finite := readFinite_append negative above [] ('/' :: below) digits nofun ne rfl (by simp)
  have exponent : readExponent ('/' :: below) = none := rfl
  rw [point_nil, List.append_nil, exponent, Option.map_none] at finite
  obtain ⟨x, xs, rfl⟩ := List.exists_cons_of_ne_nil ne
  rw [List.cons_append] at plain finite ⊢
  rw [read?_of_isDigit (digits x List.mem_cons_self) plain, finite, Option.bind_none]

end Numeral

section Forms

variable {digits : List Char} (hd : ∀ c ∈ digits, c.isDigit = true) (ne : digits ≠ [])
include hd ne

open Numeral

/-- The point stands where the exponent says, behind zeros where there are too few digits. -/
theorem Decimal.form_writePositional {e : Int} (le : e ≤ 0) :
    Form (Decimal.writePositional digits e) (Nat.ofDigitChars 10 digits 0) e := by
  obtain ⟨k, rfl⟩ : ∃ k : Nat, e = -k := ⟨(-e).toNat, by omega⟩
  have places : (- -(k : Int)).toNat = k := by omega
  unfold Decimal.writePositional
  simp only [places, beq_iff_eq]
  split
  · next zero =>
    have form := form_point digits [] hd nofun ne
    rw [point_nil, List.append_nil] at form
    rwa [zero]
  split
  · next few =>
    have front : digits.take (digits.length - k) ≠ [] := by
      rw [ne_eq, List.take_eq_nil_iff, not_or]
      exact ⟨by omega, ne⟩
    have length : (digits.drop (digits.length - k)).length = k := by
      rw [List.length_drop]
      omega
    have some : digits.drop (digits.length - k) ≠ [] := by
      rw [← List.length_pos_iff, length]
      omega
    have form := form_point (digits.take (digits.length - k)) (digits.drop (digits.length - k))
      (fun c mem => hd c (List.mem_of_mem_take mem)) (fun c mem => hd c (List.mem_of_mem_drop mem))
      front
    obtain ⟨d, ds, fraction⟩ := List.exists_cons_of_ne_nil some
    rwa [List.take_append_drop, length, fraction, point_cons, ← fraction] at form
  · next many =>
    have zeros : ∀ c ∈ List.replicate (k - digits.length) '0' ++ digits, c.isDigit = true := by
      intro c mem
      rcases List.mem_append.mp mem with zero | digit
      · rw [List.eq_of_mem_replicate zero]
        decide
      · exact hd c digit
    have value : Nat.ofDigitChars 10 (['0'] ++ (List.replicate (k - digits.length) '0' ++ digits)) 0 =
        Nat.ofDigitChars 10 digits 0 := by
      rw [Nat.ofDigitChars_append, Nat.ofDigitChars_append, Nat.ofDigitChars_replicate_zero]
      rfl
    have length : (List.replicate (k - digits.length) '0' ++ digits).length = k := by
      rw [List.length_append, List.length_replicate]
      omega
    have some : List.replicate (k - digits.length) '0' ++ digits ≠ [] :=
      List.append_ne_nil_of_right_ne_nil _ ne
    have form := form_point ['0'] _ (by simp) zeros nofun
    obtain ⟨d, ds, tail⟩ := List.exists_cons_of_ne_nil some
    rwa [value, length, tail, point_cons, ← tail] at form

theorem Decimal.form_writeScientific (e : Int) :
    Form (Decimal.writeScientific digits e) (Nat.ofDigitChars 10 digits 0)
      (e - (digits.length - 1)) := by
  obtain ⟨d, ds, rfl⟩ := List.exists_cons_of_ne_nil ne
  have form := form_exponent hd (Or.inr rfl) e (fun c mem => Text.isDigit_of_mem_toDigits mem)
    Nat.toDigits_ne_nil Nat.ofDigitChars_ten_toDigits
  rw [← Text.toList_toString] at form
  cases ds <;> simpa [Decimal.writeScientific] using form

end Forms

theorem Decimal.isDigit_of_mem_digits {n : Nat} : ∀ c ∈ (toString n).toList, c.isDigit = true := by
  intro c mem
  rw [Text.toList_toString] at mem
  exact Text.isDigit_of_mem_toDigits mem

theorem Decimal.digits_ne_nil (n : Nat) : (toString n).toList ≠ [] := by
  rw [Text.toList_toString]
  exact Nat.toDigits_ne_nil

theorem Decimal.length_digits (n : Nat) : (toString n).toList.length = digitCount n := by
  rw [Text.toList_toString, length_toDigits]

theorem Decimal.ofDigitChars_digits (n : Nat) : Nat.ofDigitChars 10 (toString n).toList 0 = n := by
  rw [Text.toList_toString, Nat.ofDigitChars_ten_toDigits]

/-- A decimal that can be held is read from its text as it was; another is no number in text. -/
theorem Decimal.read?_write (d : Decimal) :
    Numeral.read? d.write = if d.isHoldable then some (.finite d) else none := by
  have positional {e : Int} (le : e ≤ 0) := form_writePositional
    (isDigit_of_mem_digits (n := d.coefficient)) (digits_ne_nil _) le
  have scientific := form_writeScientific
    (isDigit_of_mem_digits (n := d.coefficient)) (digits_ne_nil _) d.adjusted
  rw [ofDigitChars_digits, length_digits] at scientific
  simp only [ofDigitChars_digits] at positional
  have exponent : d.adjusted - (digitCount d.coefficient - 1) = d.exponent := by
    unfold adjusted
    omega
  rw [exponent] at scientific
  have form : Numeral.Form
      (if d.exponent ≤ 0 && -6 ≤ d.adjusted then
        writePositional (toString d.coefficient).toList d.exponent
      else writeScientific (toString d.coefficient).toList d.adjusted) d.coefficient d.exponent := by
    split
    · next few =>
      rw [Bool.and_eq_true, decide_eq_true_eq] at few
      exact positional few.1
    · exact scientific
  exact form.read? d.negative

/-- No other decimal is read from a text than one that can be held. -/
theorem Numeral.isHoldable_of_read? {s : String} {d : Decimal}
    (read : Numeral.read? s = some (.finite d)) : d.isHoldable = true := by
  unfold Numeral.read? Numeral.readAscii at read
  dsimp only at read
  split at read
  · cases read
  split at read
  · obtain ⟨_, -, same⟩ := Option.map_eq_some_iff.mp read
    cases same
  split at read
  · obtain ⟨_, -, same⟩ := Option.map_eq_some_iff.mp read
    cases same
  split at read
  · split at read
    · next holdable =>
      cases read
      exact holdable
    · cases read
  · cases read

/-- The number that a decimal stands for, if it can be held. -/
def Decimal.held? (d : Decimal) : Option ℚ := if d.isHoldable then some d.toRat else none

/-- The number that a numeral is, if it is finite. -/
def Numeral.toRat? : Numeral → Option ℚ
  | .finite d => some d.toRat
  | _ => none

theorem Numeral.bind_toRat?_eq_some_iff {s : String} {q : ℚ} :
    (Numeral.read? s).bind Numeral.toRat? = some q ↔
      ∃ d, Numeral.read? s = some (.finite d) ∧ d.toRat = q := by
  cases Numeral.read? s with
  | none => simp
  | some numeral => cases numeral <;> simp [Numeral.toRat?]

theorem Numeral.Form.number {body : List Char} {c : Nat} {e : Int} (form : Numeral.Form body c e)
    (negative : Bool) :
    (Numeral.read? (String.ofList (if negative then '-' :: body else body))).bind Numeral.toRat? =
      (Decimal.mk negative c e).held? := by
  rw [form.read?, Decimal.held?]
  split <;> rfl

theorem Decimal.number_write (d : Decimal) :
    (Numeral.read? d.write).bind Numeral.toRat? = d.held? := by
  rw [read?_write, held?]
  split <;> rfl

theorem Decimal.isHoldable_neg (d : Decimal) : d.neg.isHoldable = d.isHoldable := rfl

theorem Decimal.isHoldable_of_bounds {d : Decimal} (lower : -400 ≤ d.exponent)
    (upper : d.exponent ≤ 400) (leading : d.adjusted ≤ 400) : d.isHoldable = true := by
  have limits : leastExponent ≤ -400 ∧ 400 ≤ greatestExponent := by decide
  unfold isHoldable
  rw [Bool.and_eq_true, decide_eq_true_eq, decide_eq_true_eq]
  refine ⟨by omega, ?_⟩
  split <;> omega

/-- What is no number is read as none, whatever its payload. -/
theorem Numeral.number_notANumber (negative signaling : Bool) (payload : Nat) :
    (Numeral.read? (write (.notANumber negative signaling payload))).bind Numeral.toRat? = none := by
  have nothing (signaling : Bool) (payload? : Option Nat) :
      (payload?.map (Numeral.notANumber negative signaling)).bind Numeral.toRat? = none := by
    cases payload? <;> rfl
  obtain ⟨digits, written, plain⟩ : ∃ digits : List Char,
      (if payload == 0 then "" else toString payload) = String.ofList digits ∧
        ∀ c ∈ digits, isPlain c = true := by
    split
    · exact ⟨[], rfl, nofun⟩
    · refine ⟨(toString payload).toList, String.ofList_toList.symm, fun c mem => ?_⟩
      exact isPlain_of_isDigit (Decimal.isDigit_of_mem_digits c mem)
  have text : write (.notANumber negative signaling payload) =
      String.ofList ((if negative then ['-'] else []) ++
        (if signaling then ['s', 'N', 'a', 'N'] else ['N', 'a', 'N']) ++ digits) := by
    unfold write
    dsimp only
    rw [written, ← String.toList_inj]
    cases negative <;> cases signaling <;> simp
  have each : ∀ c ∈ (if negative then ['-'] else []) ++
      (if signaling then ['s', 'N', 'a', 'N'] else ['N', 'a', 'N']) ++ digits, isPlain c = true := by
    rw [List.forall_mem_append]
    refine ⟨List.all_eq_true.mp ?_, plain⟩
    cases negative <;> cases signaling <;> decide
  unfold Numeral.read?
  rw [text, String.toList_ofList, trimChars_of_isPlain each, toAscii_of_isPlain each]
  cases negative <;> cases signaling <;> exact nothing _ _

end Thermostat
