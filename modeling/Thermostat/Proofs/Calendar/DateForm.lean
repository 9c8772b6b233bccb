import Thermostat.Proofs.Calendar.Digits
import Thermostat.Proofs.Text.Whole

/-! The six written forms of a date: by month and day or by week, with marks or without, and for weeks
with a day or without. A date ends in a text where its form does. -/
namespace Thermostat.Iso

/-- The written forms of a date. -/
inductive DateForm : List Char → Prop
  | basic {y m d} (year : Digits 4 y) (month : Digits 2 m) (day : Digits 2 d) :
      DateForm (y ++ (m ++ d))
  | extended {y m d} (year : Digits 4 y) (month : Digits 2 m) (day : Digits 2 d) :
      DateForm (y ++ '-' :: (m ++ '-' :: d))
  | week {y w} (year : Digits 4 y) (week : Digits 2 w) : DateForm (y ++ 'W' :: w)
  | weekday {y w d} (year : Digits 4 y) (week : Digits 2 w) (day : Digits 1 d) :
      DateForm (y ++ 'W' :: (w ++ d))
  | extendedWeek {y w} (year : Digits 4 y) (week : Digits 2 w) : DateForm (y ++ '-' :: 'W' :: w)
  | extendedWeekday {y w d} (year : Digits 4 y) (week : Digits 2 w) (day : Digits 1 d) :
      DateForm (y ++ '-' :: 'W' :: (w ++ '-' :: d))

theorem DateForm.dateLength_append {cs rest : List Char} {c : Char} (form : DateForm cs)
    (digit : c.isDigit = false) (mark : c ≠ '-') : dateLength (cs ++ c :: rest) = some cs.length := by
  cases form with
  | basic year month day =>
    obtain ⟨y₁, y₂, y₃, y₄, rfl⟩ := year.four
    obtain ⟨m₁, m₂, rfl, first, -⟩ := month.two
    obtain ⟨d₁, d₂, rfl, -⟩ := day.two
    have noMark : m₁ ≠ '-' := Text.ne_of_isDigit first (by decide)
    have noWeek : m₁ ≠ 'W' := Text.ne_of_isDigit first (by decide)
    simp [dateLength, noMark, noWeek]
  | extended year month day =>
    obtain ⟨y₁, y₂, y₃, y₄, rfl⟩ := year.four
    obtain ⟨m₁, m₂, rfl, first, -⟩ := month.two
    obtain ⟨d₁, d₂, rfl, -⟩ := day.two
    have noWeek : m₁ ≠ 'W' := Text.ne_of_isDigit first (by decide)
    simp [dateLength, noWeek]
  | week year week =>
    obtain ⟨y₁, y₂, y₃, y₄, rfl⟩ := year.four
    obtain ⟨w₁, w₂, rfl, -⟩ := week.two
    simp [dateLength, spanDigits_eq, digit]
  | weekday year week day =>
    obtain ⟨y₁, y₂, y₃, y₄, rfl⟩ := year.four
    obtain ⟨w₁, w₂, rfl, -⟩ := week.two
    obtain ⟨d, rfl, single⟩ := day.one
    simp [dateLength, spanDigits_eq, digit, single, Text.asciiDigit?_of_isDigit single]
  | extendedWeek year week =>
    obtain ⟨y₁, y₂, y₃, y₄, rfl⟩ := year.four
    obtain ⟨w₁, w₂, rfl, -⟩ := week.two
    simp [dateLength, mark]
  | extendedWeekday year week day =>
    obtain ⟨y₁, y₂, y₃, y₄, rfl⟩ := year.four
    obtain ⟨w₁, w₂, rfl, -⟩ := week.two
    obtain ⟨d, rfl, -⟩ := day.one
    simp [dateLength, digit]

section Reading

variable {year n : Nat} {y cs : List Char} {date : Date}

theorem form_of_readWeekDate (digits : Digits 4 y) (read : readWeekDate year false cs = some date)
    (short : cs.length ≤ 3) : DateForm (y ++ 'W' :: cs) := by
  simp only [readWeekDate, Option.bind_eq_bind, Option.bind_eq_some_iff, Prod.exists,
    takeDigits_eq_some_iff] at read
  obtain ⟨week, rest, ⟨w, two, rfl, -⟩, read⟩ := read
  cases rest with
  | nil =>
    rw [List.append_nil]
    exact .week digits two
  | cons c rest =>
    simp only [Option.bind_eq_some_iff, Bool.false_eq_true, if_false, Option.some.injEq, Prod.exists,
      takeDigits_eq_some_iff] at read
    obtain ⟨_, rfl, day, more, ⟨d, one, rest, -⟩, -⟩ := read
    rw [rest] at short ⊢
    have none : more = [] := List.length_eq_zero_iff.mp (by
      simp only [List.length_append, two.length, one.length] at short
      omega)
    rw [none, List.append_nil]
    exact .weekday digits two one

theorem form_of_readWeekDate_marked (digits : Digits 4 y)
    (read : readWeekDate year true cs = some date) (short : cs.length ≤ 4) :
    DateForm (y ++ '-' :: 'W' :: cs) := by
  simp only [readWeekDate, Option.bind_eq_bind, Option.bind_eq_some_iff, Prod.exists,
    takeDigits_eq_some_iff] at read
  obtain ⟨week, rest, ⟨w, two, rfl, -⟩, read⟩ := read
  cases rest with
  | nil =>
    rw [List.append_nil]
    exact .extendedWeek digits two
  | cons c rest =>
    simp only [Option.bind_eq_some_iff, if_true, Option.ite_none_right_eq_some, Option.some.injEq,
      beq_iff_eq, Prod.exists, takeDigits_eq_some_iff] at read
    obtain ⟨_, ⟨rfl, rfl⟩, day, more, ⟨d, one, rfl, -⟩, -⟩ := read
    have none : more = [] := List.length_eq_zero_iff.mp (by
      simp only [List.length_append, List.length_cons, two.length, one.length] at short
      omega)
    rw [none, List.append_nil]
    exact .extendedWeekday digits two one

theorem form_of_readMonthDay (digits : Digits 4 y) (read : readMonthDay year false cs = some date) :
    DateForm (y ++ cs) := by
  simp only [readMonthDay, Option.bind_eq_bind, Option.bind_eq_some_iff, Prod.exists,
    takeDigits_eq_some_iff, Bool.false_eq_true, if_false, Option.some.injEq,
    Option.ite_none_right_eq_some, List.isEmpty_iff] at read
  obtain ⟨month, rest, ⟨m, two, rfl, -⟩, _, rfl, day, more, ⟨d, last, rfl, -⟩, rfl, -⟩ := read
  rw [List.append_nil]
  exact .basic digits two last

theorem form_of_readMonthDay_marked (digits : Digits 4 y)
    (read : readMonthDay year true cs = some date) : DateForm (y ++ '-' :: cs) := by
  simp only [readMonthDay, Option.bind_eq_bind, Option.bind_eq_some_iff, Prod.exists,
    takeDigits_eq_some_iff, if_true, Option.ite_none_right_eq_some, List.isEmpty_iff] at read
  obtain ⟨month, rest, ⟨m, two, rfl, -⟩, behind, mark, read⟩ := read
  obtain ⟨day, more, ⟨d, last, rfl, -⟩, rfl, -⟩ := read
  split at mark
  · cases mark
    rw [List.append_nil]
    exact .extended digits two last
  · cases mark

/-- A week date is read without a look at what follows its day, so the text has to end in time. -/
theorem form_of_readDate {l : List Char} (read : readDate l = some date)
    (short : l.length ≤ 8 ∨ l.length ≤ 10 ∧ l[4]? = some '-') : DateForm l := by
  simp only [readDate, Option.bind_eq_bind, Option.bind_eq_some_iff, Prod.exists,
    takeDigits_eq_some_iff] at read
  obtain ⟨year, rest, ⟨y, digits, rfl, -⟩, read⟩ := read
  have fourth : (y ++ rest)[4]? = rest.head? := by
    rw [List.getElem?_append_right (by rw [digits.length]), digits.length, List.head?_eq_getElem?]
  rw [List.length_append, digits.length, fourth] at short
  split at read
  · next week =>
    split at week
    · cases week
      simp only [List.length_cons] at short
      exact form_of_readWeekDate_marked digits read (by omega)
    · cases week
      have other : ¬some 'W' = some '-' := by decide
      simp only [List.length_cons, List.head?_cons, other, and_false, or_false] at short
      exact form_of_readWeekDate digits read (by omega)
  · split at read
    · exact form_of_readMonthDay_marked digits read
    · exact form_of_readMonthDay digits read

/-- A date ends behind its tenth character only where its fifth is a mark. -/
theorem dateLength_bounds (ends : dateLength cs = some n) : n ≤ 8 ∨ n = 10 ∧ cs[4]? = some '-' := by
  simp only [dateLength, beq_iff_eq] at ends
  split at ends
  · cases ends
    exact .inl (by decide)
  split at ends
  · next mark =>
    have either : n = 8 ∨ n = 10 := by grind
    rcases either with rfl | rfl
    · exact .inl (by decide)
    · exact .inr ⟨rfl, mark⟩
  · left
    grind

theorem form_take (ends : dateLength cs = some n) (read : readDate (cs.take n) = some date) :
    DateForm (cs.take n) := by
  refine form_of_readDate read ?_
  rcases dateLength_bounds ends with short | ⟨rfl, mark⟩
  · exact .inl ((List.length_take_le n cs).trans short)
  · exact .inr ⟨List.length_take_le 10 cs, by simpa using mark⟩

end Reading

theorem DateForm.mem {cs : List Char} {c : Char} (form : DateForm cs) (mem : c ∈ cs) :
    c.isDigit = true ∨ c = '-' ∨ c = 'W' := by
  cases form with
  | basic year month day => grind [Digits.all]
  | extended year month day => grind [Digits.all]
  | week year week => grind [Digits.all]
  | weekday year week day => grind [Digits.all]
  | extendedWeek year week => grind [Digits.all]
  | extendedWeekday year week day => grind [Digits.all]

section Separator

variable {ps qs : List CodePoint}

theorem isHalf_map_char (cs : List Char) : ∀ p ∈ cs.map CodePoint.char, p.isHalf = false :=
  List.forall_mem_map.mpr fun _ _ => rfl

theorem lt_of_any_isHalf {i : Nat} (half : ps[i]?.any CodePoint.isHalf = true) : i < ps.length := by
  by_contra beyond
  rw [List.getElem?_eq_none (Nat.not_lt.mp beyond)] at half
  cases half

theorem any_isHalf_append (whole : ∀ q ∈ qs, q.isHalf = false) (i : Nat) :
    (ps ++ qs)[i]?.any CodePoint.isHalf = ps[i]?.any CodePoint.isHalf := by
  by_cases within : i < ps.length
  · rw [List.getElem?_append_left within]
  · rw [Nat.not_lt] at within
    rw [List.getElem?_append_right within, List.getElem?_eq_none within]
    cases point : qs[i - ps.length]? with
    | none => rfl
    | some q => exact whole q (List.mem_of_getElem? point)

/-- A half is taken for a separator whatever characters stand behind the text. -/
theorem plainSeparator_append (whole : ∀ q ∈ qs, q.isHalf = false) :
    plainSeparator (ps ++ qs) = plainSeparator ps ++ qs := by
  simp only [plainSeparator, any_isHalf_append whole]
  split
  · next i found =>
    have half := List.find?_some found
    rw [List.set_append_left i _ (lt_of_any_isHalf half)]
  · rfl

theorem plainSeparator_eq_self (whole : ∀ q ∈ qs, q.isHalf = false) : plainSeparator qs = qs :=
  @plainSeparator_append [] qs whole

theorem plainSeparator_cases (ps : List CodePoint) :
    plainSeparator ps = ps ∨
      .char 'T' ∈ plainSeparator ps ∧ ∀ p ∈ plainSeparator ps, p ∈ ps ∨ p = .char 'T' := by
  unfold plainSeparator
  split
  · next i found =>
    have half := List.find?_some found
    exact .inr ⟨List.mem_set (lt_of_any_isHalf half) _, fun p => List.mem_or_eq_of_mem_set⟩
  · exact .inl rfl

end Separator

end Thermostat.Iso
