import Mathlib.Data.List.Induction
import Thermostat.Json.Reader
import Thermostat.Proofs.Decimal.Digits
import Thermostat.Proofs.Json.Text
import Thermostat.Proofs.Text.Digits

/-! Numbers in structured text: those that are read have no more digits than are allowed, and whole
numbers are read from their digits as they were. -/
namespace Thermostat

namespace Text

theorem ofDigits_lt {ds : List Nat} (small : ∀ d ∈ ds, d < 10) :
    ofDigits ds < powerOfTen ds.length := by
  induction ds using List.reverseRecOn with
  | nil => decide
  | append_singleton ds d ih =>
    rw [List.forall_mem_append] at small
    have front := ih small.1
    have last := small.2 d (List.mem_singleton_self d)
    rw [ofDigits_concat, List.length_append, List.length_singleton, powerOfTen_succ]
    omega

theorem lt_ten_of_asciiDigit? {c : Char} {d : Nat} (digit : asciiDigit? c = some d) : d < 10 := by
  unfold asciiDigit? at digit
  split at digit
  · next isDigit =>
    cases digit
    have upper : c.toNat ≤ 57 := by
      simp only [Char.isDigit, Bool.and_eq_true, decide_eq_true_eq, UInt32.le_iff_toNat_le] at isDigit
      exact isDigit.2
    change c.toNat - 48 < 10
    omega
  · cases digit

end Text

namespace Json

theorem digitsValue_lt (ds : List Char) : digitsValue ds < powerOfTen ds.length := by
  have small : ∀ d ∈ ds.filterMap Text.asciiDigit?, d < 10 := by
    intro d mem
    obtain ⟨c, -, digit⟩ := List.mem_filterMap.mp mem
    exact Text.lt_ten_of_asciiDigit? digit
  exact Nat.lt_of_lt_of_le (Text.ofDigits_lt small)
    (Decimal.powerOfTen_le (List.length_filterMap_le _ _))

/-- The sign of a number and what stands behind it. -/
def splitMinus (ps : List CodePoint) : Bool × List CodePoint :=
  match ps with
  | .char '-' :: rest => (true, rest)
  | _ => (false, ps)

/-- A number from behind its sign on. -/
def readUnsigned (limit : Option Nat) (negative : Bool) (body ps : List CodePoint) :
    Except Stop (Value × List CodePoint) :=
  let (whole, rest) := spanWhole body
  if whole.isEmpty then stopAt .expectedValue ps
  else
    let (fraction, rest) := spanFraction rest
    let (exponent, rest) := spanExponent rest
    if fraction.isEmpty && exponent.isEmpty then
      if limit.any (· < whole.length) then .error (.longNumber whole.length)
      else
        let n : Int := digitsValue whole
        .ok (.int (if negative then -n else n), rest)
    else
      match Numeral.readFinite negative (whole ++ fraction ++ exponent) with
      | some d => .ok (.float (.ofDecimal d), rest)
      | none => stopAt .expectedValue ps

theorem readNumber_eq (limit : Option Nat) (ps : List CodePoint) :
    readNumber limit ps = readUnsigned limit (splitMinus ps).1 (splitMinus ps).2 ps := rfl

variable {limit : Nat} {v : Value} {ps rest : List CodePoint}

/-- A number is a whole number that is not too long, or the double nearest to its decimal. -/
theorem readNumber_cases (read : readNumber (some limit) ps = .ok (v, rest)) :
    (∃ n, v = .int n ∧ Decimal.digitCount n.natAbs ≤ limit) ∨
      ∃ d, v = .float (.ofDecimal d) := by
  rw [readNumber_eq] at read
  generalize (splitMinus ps).1 = negative, (splitMinus ps).2 = body at read
  unfold readUnsigned at read
  dsimp only at read
  generalize (spanWhole body).1 = whole, (spanWhole body).2 = more at read
  split at read
  · cases read
  · next some =>
    split at read
    · split at read
      · cases read
      · next short =>
        cases read
        refine Or.inl ⟨_, rfl, ?_⟩
        have le : whole.length ≤ limit := by simpa using short
        have pos : 0 < whole.length := List.length_pos_iff.mpr (by simpa using some)
        have same : (if negative then -(digitsValue whole : Int) else digitsValue whole).natAbs =
            digitsValue whole := by
          split <;> omega
        rw [same]
        exact Nat.le_trans ((Decimal.digitCount_le_iff pos).mpr (digitsValue_lt whole)) le
    · split at read
      · cases read
        exact Or.inr ⟨_, rfl⟩
      · cases read

/-- What follows is a comma or the end of a line, if anything does. -/
def Ends (rest : List CodePoint) : Prop :=
  ∀ p, rest.head? = some p → p = .char ',' ∨ p = .char '\n'

theorem Ends.comma (ps : List CodePoint) : Ends (.char ',' :: ps) := by
  intro p head
  cases head
  exact Or.inl rfl

theorem Ends.line (ps : List CodePoint) : Ends (.char '\n' :: ps) := by
  intro p head
  cases head
  exact Or.inr rfl

theorem spanDigits_append {ds : List Char} {rest : List CodePoint}
    (digits : ∀ c ∈ ds, c.isDigit = true) (ends : Ends rest) :
    spanDigits (ds.map .char ++ rest) = (ds, rest) := by
  have each : ∀ p ∈ ds.map CodePoint.char, p.satisfies Char.isDigit = true := by
    intro p mem
    obtain ⟨c, digit, rfl⟩ := List.mem_map.mp mem
    simpa [CodePoint.satisfies, CodePoint.toChar?] using digits c digit
  have next : rest.takeWhile (·.satisfies Char.isDigit) = [] ∧
      rest.dropWhile (·.satisfies Char.isDigit) = rest := by
    cases rest with
    | nil => exact ⟨rfl, rfl⟩
    | cons p rest => rcases ends p rfl with rfl | rfl <;> exact ⟨rfl, rfl⟩
  have chars : (ds.map CodePoint.char).filterMap CodePoint.toChar? = ds := by
    rw [List.filterMap_map]
    exact List.filterMap_some
  unfold spanDigits
  dsimp only
  rw [List.takeWhile_append_of_pos each, List.dropWhile_append_of_pos each, next.1, next.2,
    List.append_nil, chars]

theorem digitsValue_eq {ds : List Char} (digits : ∀ c ∈ ds, c.isDigit = true) :
    digitsValue ds = Nat.ofDigitChars 10 ds 0 := Text.ofDigits_filterMap digits

theorem digitsValue_toDigits (n : Nat) : digitsValue (Nat.toDigits 10 n) = n :=
  (digitsValue_eq fun _ => Text.isDigit_of_mem_toDigits).trans Nat.ofDigitChars_ten_toDigits

/-- The digits of a number do not begin with zero, unless it is zero. -/
theorem eq_zero_of_toDigits {n : Nat} {ds : List Char} (zero : Nat.toDigits 10 n = '0' :: ds) :
    n = 0 := by
  by_contra other
  have below : n < powerOfTen ds.length := by
    have value := digitsValue_toDigits n
    rw [zero] at value
    change digitsValue ds = n at value
    rw [← value]
    exact digitsValue_lt ds
  have count := Decimal.length_toDigits n
  rw [zero, List.length_cons] at count
  have least := Decimal.powerOfTen_le_of_ne_zero other
  rw [← count, Nat.add_sub_cancel] at least
  omega

theorem spanWhole_toDigits (n : Nat) {rest : List CodePoint} (ends : Ends rest) :
    spanWhole ((Nat.toDigits 10 n).map .char ++ rest) = (Nat.toDigits 10 n, rest) := by
  have span := spanDigits_append (fun _ => Text.isDigit_of_mem_toDigits (n := n)) ends
  unfold spanWhole
  split
  · next more same =>
    obtain ⟨d, ds, digits⟩ := List.exists_cons_of_ne_nil (Nat.toDigits_ne_nil (b := 10) (n := n))
    rw [digits] at same
    cases same
    have zero := eq_zero_of_toDigits digits
    subst zero
    cases digits
    rfl
  · exact span

theorem spanFraction_of_ends {rest : List CodePoint} (ends : Ends rest) :
    spanFraction rest = ([], rest) := by
  cases rest with
  | nil => rfl
  | cons p rest => rcases ends p rfl with rfl | rfl <;> rfl

theorem spanExponent_of_ends {rest : List CodePoint} (ends : Ends rest) :
    spanExponent rest = ([], rest) := by
  cases rest with
  | nil => rfl
  | cons p rest => rcases ends p rfl with rfl | rfl <;> rfl

/-- Digits without a fraction and an exponent are read as the number that they write. -/
theorem readUnsigned_toDigits (negative : Bool) {n : Nat} (short : Decimal.digitCount n ≤ limit)
    {rest : List CodePoint} (ends : Ends rest) (ps : List CodePoint) :
    readUnsigned (some limit) negative ((Nat.toDigits 10 n).map .char ++ rest) ps =
      .ok (.int (if negative then -(n : Int) else n), rest) := by
  have some : (Nat.toDigits 10 n).isEmpty = false := by
    simp
  have room : ¬ limit < (Nat.toDigits 10 n).length := by
    rw [Decimal.length_toDigits]
    omega
  unfold readUnsigned
  rw [spanWhole_toDigits n ends]
  dsimp only
  rw [some, spanFraction_of_ends ends]
  dsimp only
  rw [spanExponent_of_ends ends]
  simp [room, digitsValue_toDigits]

theorem pointsOf_natural (n : Nat) : pointsOf (toString n) = (Nat.toDigits 10 n).map .char := by
  rw [pointsOf, Text.ofString, Text.toList_toString]

theorem pointsOf_negative (n : Nat) :
    pointsOf (toString (Int.negSucc n)) = .char '-' :: (Nat.toDigits 10 (n + 1)).map .char := by
  rw [← pointsOf_natural]
  change pointsOf ("-" ++ toString (n + 1)) = _
  rw [pointsOf_append]
  rfl

theorem splitMinus_toDigits (n : Nat) (rest : List CodePoint) :
    splitMinus ((Nat.toDigits 10 n).map .char ++ rest) =
      (false, (Nat.toDigits 10 n).map .char ++ rest) := by
  obtain ⟨d, ds, digits⟩ := List.exists_cons_of_ne_nil (Nat.toDigits_ne_nil (b := 10) (n := n))
  have first : d.isDigit = true := Text.isDigit_of_mem_toDigits (n := n) (by simp [digits])
  unfold splitMinus
  split
  · next more same =>
    rw [digits] at same
    cases same
    cases first
  · rfl

/-- A whole number is read from its digits as it was. -/
theorem readNumber_toString {n : Int} (short : Decimal.digitCount n.natAbs ≤ limit)
    {rest : List CodePoint} (ends : Ends rest) :
    readNumber (some limit) (pointsOf (toString n) ++ rest) = .ok (.int n, rest) := by
  rw [readNumber_eq]
  cases n with
  | ofNat n =>
    change readUnsigned _ (splitMinus (pointsOf (toString n) ++ rest)).1
      (splitMinus (pointsOf (toString n) ++ rest)).2 _ = _
    rw [pointsOf_natural, splitMinus_toDigits]
    exact readUnsigned_toDigits false short ends _
  | negSucc n =>
    rw [pointsOf_negative]
    exact readUnsigned_toDigits true short ends _

end Json

end Thermostat
