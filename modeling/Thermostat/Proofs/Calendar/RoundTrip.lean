import Thermostat.Proofs.Calendar.Clock
import Thermostat.Proofs.Calendar.DateForm
import Thermostat.Proofs.Text.Trim

/-! Moments read back from their written forms: with any character between date and time, with white space
around, and with an offset of a second or more as it was. -/
namespace Thermostat

theorem Date.toList_iso (d : Date) :
    d.iso.toList = (Text.padded 4 d.year).toList ++ '-' ::
      ((Text.padded 2 d.month).toList ++ '-' :: (Text.padded 2 d.day).toList) := by
  simp [iso]

theorem Date.year_lt (d : Date) : d.year < 10000 := by
  have range := d.year_range
  omega

theorem Date.month_lt (d : Date) : d.month < 100 := by
  have range := d.month_range
  omega

theorem Date.day_lt (d : Date) : d.day < 100 := by
  have range := d.day_range
  have length : daysInMonth d.year d.month ≤ 31 := by
    unfold daysInMonth
    split_ifs <;> decide
  omega

theorem TimeOfDay.toList_iso (t : TimeOfDay) :
    t.iso.toList = (Text.padded 2 t.hour).toList ++ ':' :: ((Text.padded 2 t.minute).toList ++
      ':' :: ((Text.padded 2 t.second).toList ++ Iso.fraction t.microsecond)) := by
  by_cases none : t.microsecond = 0 <;> simp [iso, wire, Iso.fraction, none]

theorem TimeOfDay.of?_self (t : TimeOfDay) :
    of? t.hour t.minute t.second t.microsecond = some t := by
  simp [of?, t.hour_lt, t.minute_lt, t.second_lt, t.microsecond_lt]

theorem Offset.of?_self (o : Offset) : of? o.microseconds = some o := by
  simp [of?, o.range]

/-- The offset that the written form of an offset stands for: less than a second counts for nothing. -/
def Offset.settled (o : Offset) : Offset := if o.microseconds.natAbs < 1000000 then zero else o

/-- The moment that the written form of a moment stands for. -/
def DateTime.settled (d : DateTime) : DateTime := { d with offset := d.offset.map Offset.settled }

namespace Iso

section Date

variable (d : Date)

theorem digits_year : Digits 4 (Text.padded 4 d.year).toList := digits_padded (by decide) d.year_lt

theorem digits_month : Digits 2 (Text.padded 2 d.month).toList :=
  digits_padded (by decide) d.month_lt

theorem digits_day : Digits 2 (Text.padded 2 d.day).toList := digits_padded (by decide) d.day_lt

theorem readDate_iso : readDate d.iso.toList = some d := by
  have year (rest : List Char) :
      takeDigits 4 ((Text.padded 4 d.year).toList ++ rest) = some (d.year, rest) :=
    takeDigits_padded (by decide) d.year_lt rest
  have month (rest : List Char) :
      takeDigits 2 ((Text.padded 2 d.month).toList ++ rest) = some (d.month, rest) :=
    takeDigits_padded (by decide) d.month_lt rest
  have day : takeDigits 2 (Text.padded 2 d.day).toList = some (d.day, []) := by
    rw [← List.append_nil (Text.padded 2 d.day).toList]
    exact takeDigits_padded (by decide) d.day_lt []
  rw [Date.toList_iso, readDate, year]
  simp only [Option.bind_eq_bind, Option.bind_some]
  split
  · next week =>
    obtain ⟨m₁, m₂, same, first, -⟩ := (digits_month d).two
    rw [same] at week
    cases week
    cases first
  · simp [readMonthDay, month, day, Date.ofYmd?_self]

/-- The marks of a date by month and day tell its end, whatever follows. -/
theorem dateLength_iso (rest : List Char) : dateLength (d.iso.toList ++ rest) = some 10 := by
  obtain ⟨y₁, y₂, y₃, y₄, year⟩ := (digits_year d).four
  obtain ⟨m₁, m₂, month, first, -⟩ := (digits_month d).two
  obtain ⟨d₁, d₂, day, -⟩ := (digits_day d).two
  have noWeek : m₁ ≠ 'W' := Text.ne_of_isDigit first (by decide)
  simp [Date.toList_iso, year, month, day, dateLength, noWeek]

end Date

section Time

variable (t : TimeOfDay)

theorem readClock_iso :
    readClock t.iso.toList = some ⟨t.hour, t.minute, t.second, t.microsecond, true⟩ := by
  have hours := t.hour_lt
  have minutes := t.minute_lt
  have seconds := t.second_lt
  rw [TimeOfDay.toList_iso]
  exact readClock_seconds (by omega) (by omega) (by omega) t.microsecond_lt

theorem inClock_of_mem_iso {c : Char} (mem : c ∈ t.iso.toList) : inClock c = true := by
  have digit (width n : Nat) : ∀ c ∈ (Text.padded width n).toList, inClock c = true :=
    fun c mem => inClock_of_isDigit (Text.isDigit_of_mem_padded mem)
  have behind : ∀ c ∈ fraction t.microsecond, inClock c = true := by
    unfold fraction
    split
    · exact List.forall_mem_nil _
    · exact List.forall_mem_cons.mpr ⟨rfl, digit 6 _⟩
  rw [TimeOfDay.toList_iso] at mem
  simp only [List.mem_append, List.mem_cons] at mem
  obtain hour | rfl | minute | rfl | second | micro := mem
  · exact digit 2 _ c hour
  · rfl
  · exact digit 2 _ c minute
  · rfl
  · exact digit 2 _ c second
  · exact behind c micro

end Time

section Offset

/-- An offset of so many microseconds, as it is written behind its sign. -/
def magnitude (n : Nat) : List Char :=
  (Text.padded 2 (n / 1000000 / 3600)).toList ++ ':' ::
    ((Text.padded 2 (n / 1000000 / 60 % 60)).toList ++
      (if n / 1000000 % 60 = 0 ∧ n % 1000000 = 0 then []
        else ':' :: ((Text.padded 2 (n / 1000000 % 60)).toList ++ fraction (n % 1000000))))

/-- The clock that an offset of so many microseconds is written as. -/
def clockOf (n : Nat) : Clock :=
  ⟨n / 1000000 / 3600, n / 1000000 / 60 % 60, n / 1000000 % 60, n % 1000000, true⟩

theorem toList_offset (o : Offset) :
    o.iso.toList =
      (if o.microseconds < 0 then '-' else '+') :: magnitude o.microseconds.natAbs := by
  generalize length : o.microseconds.natAbs = n
  have sign : (if o.microseconds < 0 then "-" else "+").toList =
      [if o.microseconds < 0 then '-' else '+'] := by
    split <;> rfl
  by_cases whole : n % 1000000 = 0
  · by_cases even : n / 1000000 % 60 = 0 <;>
      simp [Offset.iso, length, sign, magnitude, fraction, whole, even]
  · simp [Offset.iso, length, sign, magnitude, fraction, whole]

theorem readClock_magnitude {n : Nat} (short : n < 86400000000) :
    readClock (magnitude n) = some (clockOf n) := by
  have hours : n / 1000000 / 3600 < 100 := by omega
  have minutes : n / 1000000 / 60 % 60 < 100 := by omega
  have seconds : n / 1000000 % 60 < 100 := by omega
  unfold magnitude clockOf
  split
  · next whole =>
    rw [List.append_nil, whole.1, whole.2]
    exact readClock_minutes hours minutes
  · exact readClock_seconds hours minutes seconds (Nat.mod_lt n (by decide))

theorem offsetOf?_clockOf (o : Offset) :
    offsetOf? (decide (o.microseconds < 0)) (clockOf o.microseconds.natAbs) = some o.settled := by
  -- Hours, minutes and seconds add up to the whole seconds they were taken from.
  have seconds (n : Nat) : (clockOf n).hour * 3600 + (clockOf n).minute * 60 + (clockOf n).second =
      n / 1000000 := by
    simp only [clockOf]
    omega
  simp only [offsetOf?, seconds, beq_iff_eq, Offset.settled]
  by_cases short : o.microseconds.natAbs < 1000000
  · rw [if_pos (Nat.div_eq_of_lt short), if_pos short]
  · have long : o.microseconds.natAbs / 1000000 ≠ 0 := by omega
    rw [if_neg long, if_neg short, ← Offset.of?_self o]
    congr 1
    simp only [clockOf, decide_eq_true_eq]
    split <;> omega

theorem readOffset_iso (o : Offset) : readOffset o.iso.toList = some o.settled := by
  have short : o.microseconds.natAbs < 86400000000 := by
    have range := o.range
    omega
  have read := readClock_magnitude short
  have clean : (clockOf o.microseconds.natAbs).clean = true := rfl
  have settled := offsetOf?_clockOf o
  rw [toList_offset]
  by_cases negative : o.microseconds < 0
  · rw [decide_eq_true negative] at settled
    rw [if_pos negative]
    simp [readOffset, read, clean, settled]
  · rw [decide_eq_false negative] at settled
    rw [if_neg negative]
    simp [readOffset, read, clean, settled]

end Offset

section Moment

/-- What is written behind a time of day for its offset. -/
def zone (offset : Option Offset) : List Char := ((offset.map Offset.iso).getD "").toList

theorem split_iso (t : TimeOfDay) (offset : Option Offset) :
    (t.iso.toList ++ zone offset).takeWhile (fun c => !startsOffset c) = t.iso.toList ∧
      (t.iso.toList ++ zone offset).dropWhile (fun c => !startsOffset c) = zone offset := by
  have clock : ∀ c ∈ t.iso.toList, (!startsOffset c) = true := fun c mem => by
    rw [startsOffset_of_inClock (inClock_of_mem_iso t mem)]
    rfl
  rw [List.takeWhile_append_of_pos clock, List.dropWhile_append_of_pos clock]
  cases offset with
  | none => simp [zone]
  | some o =>
    by_cases negative : o.microseconds < 0 <;> simp [zone, toList_offset, negative, startsOffset]

theorem readTime_iso (t : TimeOfDay) (offset : Option Offset) :
    readTime (t.iso.toList ++ zone offset) = some (t, offset.map Offset.settled) := by
  obtain ⟨front, behind⟩ := split_iso t offset
  rw [readTime, front, behind, readClock_iso]
  cases offset with
  | none => simp [zone, TimeOfDay.of?_self]
  | some o =>
    have nonempty : o.iso.toList.isEmpty = false := by simp [toList_offset]
    simp [zone, nonempty, readOffset_iso, TimeOfDay.of?_self]

theorem toList_joined (d : DateTime) (c : Char) :
    (d.joined (String.singleton c)).toList =
      d.date.iso.toList ++ c :: (d.time.iso.toList ++ zone d.offset) := by
  cases offset : d.offset <;> simp [DateTime.joined, zone, offset]

theorem readDateTime_joined (d : DateTime) (c : Char) :
    readDateTime (d.joined (String.singleton c)).toList = some d.settled := by
  have length : d.date.iso.toList.length = 10 := by
    simp [Date.toList_iso, (digits_year d.date).length, (digits_month d.date).length,
      (digits_day d.date).length]
  have enough : ¬(d.joined (String.singleton c)).toList.length < 7 := by
    rw [toList_joined, List.length_append, length]
    omega
  rw [readDateTime, if_neg enough, toList_joined, dateLength_iso]
  simp [← length, readDate_iso, readTime_iso, DateTime.settled]

/-- A text whose last character is a digit. -/
def EndsInDigit (cs : List Char) : Prop := ∃ c, cs.getLast? = some c ∧ c.isDigit = true

theorem EndsInDigit.ne_nil {cs : List Char} (ends : EndsInDigit cs) : cs ≠ [] := by
  rintro rfl
  obtain ⟨c, last, -⟩ := ends
  cases last

theorem EndsInDigit.append {cs : List Char} (ends : EndsInDigit cs) (front : List Char) :
    EndsInDigit (front ++ cs) := by
  obtain ⟨c, last, digit⟩ := ends
  exact ⟨c, by rw [List.getLast?_append, last, Option.some_or], digit⟩

theorem EndsInDigit.cons {cs : List Char} (ends : EndsInDigit cs) (c : Char) :
    EndsInDigit (c :: cs) := ends.append [c]

theorem endsInDigit_padded (width n : Nat) : EndsInDigit (Text.padded width n).toList := by
  cases last : (Text.padded width n).toList.getLast? with
  | none =>
    rw [List.getLast?_eq_none_iff, Text.toList_padded, List.append_eq_nil_iff] at last
    exact absurd last.2 Nat.toDigits_ne_nil
  | some c => exact ⟨c, last, Text.isDigit_of_mem_padded (List.mem_of_getLast? last)⟩

theorem endsInDigit_fraction (width n micro : Nat) :
    EndsInDigit ((Text.padded width n).toList ++ fraction micro) := by
  unfold fraction
  split
  · rw [List.append_nil]
    exact endsInDigit_padded width n
  · exact ((endsInDigit_padded 6 micro).cons '.').append _

theorem endsInDigit_time (t : TimeOfDay) : EndsInDigit t.iso.toList := by
  rw [TimeOfDay.toList_iso]
  exact (((endsInDigit_fraction 2 t.second t.microsecond).cons ':').append _ |>.cons ':').append _

theorem endsInDigit_magnitude (n : Nat) : EndsInDigit (magnitude n) := by
  unfold magnitude
  split
  · rw [List.append_nil]
    exact ((endsInDigit_padded 2 _).cons ':').append _
  · exact (((endsInDigit_fraction 2 _ _).cons ':').append _ |>.cons ':').append _

theorem endsInDigit_joined (d : DateTime) (c : Char) :
    EndsInDigit (d.joined (String.singleton c)).toList := by
  rw [toList_joined]
  refine ((?_ : EndsInDigit (d.time.iso.toList ++ zone d.offset)).cons c).append _
  cases d.offset with
  | none => simpa [zone] using endsInDigit_time d.time
  | some o =>
    refine EndsInDigit.append ?_ _
    rw [zone, Option.map_some, Option.getD_some, toList_offset]
    exact (endsInDigit_magnitude _).cons _

end Moment

end Iso

open Iso

section Read

variable {s : String} (first : ∃ c, s.toList.head? = some c ∧ c.isDigit = true)
  (ends : EndsInDigit s.toList)
include first ends

theorem trimmed_ofString : Text.Trimmed (Text.ofString s).points := by
  have blank {c : Char} (digit : c.isDigit = true) : Text.isBlankPoint (.char c) = false :=
    Text.not_isBlank_of_isDigit digit
  constructor
  · intro p head
    obtain ⟨c, begins, digit⟩ := first
    rw [Text.points_ofString, List.head?_map, begins] at head
    cases head
    exact blank digit
  · intro p last
    obtain ⟨c, ends, digit⟩ := ends
    rw [Text.points_ofString, List.getLast?_map, ends] at last
    cases last
    exact blank digit

omit first in
theorem expandZulu_ofString : expandZulu (Text.ofString s).points = (Text.ofString s).points := by
  obtain ⟨c, last, digit⟩ := ends
  rw [expandZulu, if_neg]
  rw [Text.points_ofString, List.getLast?_map, last, Option.map_some, beq_iff_eq, Option.some.injEq,
    CodePoint.char.injEq]
  exact Text.ne_of_isDigit digit (by decide)

/-- What begins and ends in a digit is read as it is, with white space around it. -/
theorem DateTime.read?_of_digits {before after : List CodePoint}
    (blankBefore : ∀ p ∈ before, Text.isBlankPoint p = true)
    (blankAfter : ∀ p ∈ after, Text.isBlankPoint p = true) :
    read? ⟨before ++ (Text.ofString s).points ++ after⟩ = readDateTime s.toList := by
  have trimmed : Text.trimPoints (before ++ (Text.ofString s).points ++ after) =
      (Text.ofString s).points := by
    rw [Text.trimPoints_append blankAfter, Text.append_trimPoints blankBefore,
      (trimmed_ofString first ends).trimPoints_eq]
  rw [read?, trimmed]
  split
  · next empty =>
    rw [Text.points_ofString, List.map_eq_nil_iff] at empty
    exact absurd empty ends.ne_nil
  · have chars := Text.mapM_toChar?_eq_some_iff.mpr (Text.points_ofString s)
    rw [expandZulu_ofString ends, plainSeparator_eq_self (Text.whole_ofString s), chars,
      Option.bind_eq_bind, Option.bind_some]

end Read

/-- Any character may stand between date and time when they are read, and white space around them. -/
theorem DateTime.read?_joined (d : DateTime) (c : Char) {before after : List CodePoint}
    (blankBefore : ∀ p ∈ before, Text.isBlankPoint p = true)
    (blankAfter : ∀ p ∈ after, Text.isBlankPoint p = true) :
    read? ⟨before ++ (Text.ofString (d.joined (String.singleton c))).points ++ after⟩ =
      some d.settled := by
  have first : ∃ y, (d.joined (String.singleton c)).toList.head? = some y ∧ y.isDigit = true := by
    obtain ⟨y, rest, year, digit, -⟩ := (digits_year d.date).uncons
    refine ⟨y, ?_, digit⟩
    rw [toList_joined, Date.toList_iso, year]
    rfl
  rw [read?_of_digits first (endsInDigit_joined d c) blankBefore blankAfter, readDateTime_joined]

theorem DateTime.read?_iso (d : DateTime) : read? (Text.ofString d.iso) = some d.settled := by
  have letter : String.singleton 'T' = "T" := rfl
  have bare (s : String) : Text.ofString s = ⟨[] ++ (Text.ofString s).points ++ []⟩ := by
    rw [List.nil_append, List.append_nil]
  rw [iso, ← letter, bare, d.read?_joined 'T' (List.forall_mem_nil _) (List.forall_mem_nil _)]

theorem Offset.settled_eq_self {o : Offset}
    (apart : o.microseconds = 0 ∨ 1000000 ≤ o.microseconds.natAbs) : o.settled = o := by
  unfold settled
  split
  · next short =>
    rcases apart with none | long
    · cases o
      cases none
      rfl
    · omega
  · rfl

theorem DateTime.settled_eq_self {d : DateTime}
    (apart : ∀ o, d.offset = some o → o.microseconds = 0 ∨ 1000000 ≤ o.microseconds.natAbs) :
    d.settled = d := by
  obtain ⟨date, time, _ | o⟩ := d
  · rfl
  · rw [settled, Option.map_some, Offset.settled_eq_self (apart o rfl)]

/-- Moments with no offset, the offset zero or one of a second or more are read back from both of their
written forms, with white space around. -/
theorem DateTime.read?_written (d : DateTime) {before after : List CodePoint}
    (blankBefore : ∀ p ∈ before, Text.isBlankPoint p = true)
    (blankAfter : ∀ p ∈ after, Text.isBlankPoint p = true)
    (apart : ∀ o, d.offset = some o → o.microseconds = 0 ∨ 1000000 ≤ o.microseconds.natAbs) :
    read? ⟨before ++ (Text.ofString d.iso).points ++ after⟩ = some d ∧
      read? ⟨before ++ (Text.ofString d.plain).points ++ after⟩ = some d := by
  have letter : String.singleton 'T' = "T" := rfl
  have blank : String.singleton ' ' = " " := rfl
  have settled := settled_eq_self apart
  rw [iso, plain, ← letter, ← blank, read?_joined d 'T' blankBefore blankAfter,
    read?_joined d ' ' blankBefore blankAfter, settled]
  exact ⟨rfl, rfl⟩

/-- A moment of the year 7, half an hour, a second and two microseconds west of universal time. -/
def DateTime.early : DateTime where
  date := { year := 7, month := 3, day := 5 }
  time := { hour := 4, minute := 41, second := 9, microsecond := 50 }
  offset := some { microseconds := -1801000002 }

theorem DateTime.read?_written_early :
    early.iso = "0007-03-05T04:41:09.000050-00:30:01.000002" ∧
      read? ⟨[.char '\t'] ++ (Text.ofString early.iso).points ++ [.char '\u3000', .char '\n']⟩ =
        some early ∧
      read? ⟨[.char '\t'] ++ (Text.ofString early.plain).points ++ [.char '\u3000', .char '\n']⟩ =
        some early :=
  ⟨by decide +kernel, early.read?_written (by decide) (by decide) (by
    rintro o offset
    cases offset
    exact .inr (by decide))⟩

end Thermostat
