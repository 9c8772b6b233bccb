import Mathlib.Data.Nat.Init
import Mathlib.Tactic.Tauto
import Thermostat.Calendar.DateTime

/-! Earlier and later on a calendar and on a clock: dates are numbered in the order of year, month and
day, and moments in the order of what a clock shows. -/
namespace Thermostat

/-- What is read part by part is earlier where the first part that differs is less. -/
def Earlier : List Nat → List Nat → Prop := List.Lex (· < ·)

@[simp] theorem earlier_cons_iff {m n : Nat} {ms ns : List Nat} :
    Earlier (m :: ms) (n :: ns) ↔ m < n ∨ m = n ∧ Earlier ms ns := List.cons_lex_cons_iff

@[simp] theorem not_earlier_nil {ms : List Nat} : ¬ Earlier ms [] := List.not_lex_nil

theorem earlier_append_iff {first first' rest rest' : List Nat}
    (length : first.length = first'.length) :
    Earlier (first ++ rest) (first' ++ rest') ↔
      Earlier first first' ∨ first = first' ∧ Earlier rest rest' := by
  induction first generalizing first' with
  | nil =>
    cases first' with
    | nil => simp
    | cons n first' => cases length
  | cons m first ih =>
    cases first' with
    | nil => cases length
    | cons n first' =>
      rw [List.cons_append, List.cons_append, earlier_cons_iff, earlier_cons_iff,
        ih (Nat.succ.inj length), List.cons.injEq]
      tauto

namespace Date

/-- A date as it is read, from the year down. -/
def fields (d : Date) : List Nat := [d.year, d.month, d.day]

def daysInYear (y : Nat) : Nat := if isLeapYear y then 366 else 365

theorem daysBeforeYear_succ (y : Nat) : daysBeforeYear (y + 1) = daysBeforeYear y + daysInYear y := by
  unfold daysBeforeYear daysInYear isLeapYear
  simp only [Int.fdiv_eq_ediv_of_nonneg _ (by decide : (0 : Int) ≤ 4),
    Int.fdiv_eq_ediv_of_nonneg _ (by decide : (0 : Int) ≤ 100),
    Int.fdiv_eq_ediv_of_nonneg _ (by decide : (0 : Int) ≤ 400)]
  split
  · next leap =>
    simp only [Bool.and_eq_true, Bool.or_eq_true, beq_iff_eq, bne_iff_ne] at leap
    omega
  · next common =>
    simp only [Bool.and_eq_true, Bool.or_eq_true, beq_iff_eq, bne_iff_ne] at common
    omega

theorem daysBeforeYear_mono {y z : Nat} (later : y < z) :
    daysBeforeYear y + daysInYear y ≤ daysBeforeYear z := by
  induction z, later using Nat.le_induction with
  | base => exact Int.le_of_eq (daysBeforeYear_succ y).symm
  | succ z later ih =>
    rw [daysBeforeYear_succ]
    omega

theorem daysBeforeMonth_succ {y m : Nat} (positive : 1 ≤ m) :
    daysBeforeMonth y (m + 1) = daysBeforeMonth y m + daysInMonth y m := by
  obtain ⟨n, rfl⟩ := Nat.exists_eq_add_of_le' positive
  rfl

theorem daysBeforeMonth_mono (y : Nat) {m n : Nat} (positive : 1 ≤ m) (later : m < n) :
    daysBeforeMonth y m + daysInMonth y m ≤ daysBeforeMonth y n := by
  induction n, later using Nat.le_induction with
  | base => exact Nat.le_of_eq (daysBeforeMonth_succ positive).symm
  | succ n later ih =>
    rw [daysBeforeMonth_succ (Nat.le_trans positive (Nat.le_of_succ_le later))]
    omega

/-- The months of a year fill it. -/
theorem daysBeforeMonth_year (y : Nat) : daysBeforeMonth y 13 = daysInYear y := by
  unfold daysInYear
  cases leap : isLeapYear y <;> simp [daysBeforeMonth, daysInMonth, leap]

/-- The place of a date in its year. -/
theorem dayNumber_bounds (d : Date) :
    daysBeforeYear d.year < d.dayNumber ∧
      d.dayNumber ≤ daysBeforeYear d.year + daysInYear d.year := by
  have first := d.day_range.1
  have last := d.day_range.2
  have months := daysBeforeMonth_mono d.year d.month_range.1 (Nat.lt_succ_of_le d.month_range.2)
  rw [daysBeforeMonth_year] at months
  unfold dayNumber
  omega

/-- A date that is read as earlier has an earlier number. -/
theorem dayNumber_lt {d e : Date} (earlier : Earlier d.fields e.fields) : d.dayNumber < e.dayNumber := by
  simp only [fields, earlier_cons_iff, not_earlier_nil, and_false, or_false] at earlier
  rcases earlier with year | ⟨year, month | ⟨month, day⟩⟩
  · have left := d.dayNumber_bounds.2
    have right := e.dayNumber_bounds.1
    have years := daysBeforeYear_mono year
    omega
  · have months := daysBeforeMonth_mono e.year d.month_range.1 month
    have last := d.day_range.2
    have first := e.day_range.1
    unfold dayNumber
    rw [year] at last ⊢
    omega
  · unfold dayNumber
    rw [year, month]
    omega

end Date

namespace TimeOfDay

/-- A time of day as it is read, down to the second. -/
def fields (t : TimeOfDay) : List Nat := [t.hour, t.minute, t.second]

/-- A time of day that is read as earlier is so in all its microseconds. -/
theorem microseconds_lt {t u : TimeOfDay} (earlier : Earlier t.fields u.fields) :
    t.microseconds < u.microseconds := by
  simp only [fields, earlier_cons_iff, not_earlier_nil, and_false, or_false] at earlier
  have := t.minute_lt
  have := t.second_lt
  have := t.microsecond_lt
  unfold microseconds
  omega

theorem microseconds_bounds (t : TimeOfDay) : 0 ≤ t.microseconds ∧ t.microseconds < dayLength := by
  have := t.hour_lt
  have := t.minute_lt
  have := t.second_lt
  have := t.microsecond_lt
  unfold microseconds dayLength
  omega

end TimeOfDay

namespace DateTime

/-- A moment as its clock shows it, from the year down to the second. -/
def fields (d : DateTime) : List Nat := d.date.fields ++ d.time.fields

/-- By how much the clock of a moment is ahead of universal time, as far as that is known. -/
def ahead (offset : Option Offset) : Int :=
  match offset with
  | some o => o.microseconds
  | none => 0

/-- The number of a moment on its own clock. -/
theorem instant_add_ahead (d : DateTime) :
    d.instant + ahead d.offset = d.date.dayNumber * dayLength + d.time.microseconds := by
  unfold instant ahead
  cases d.offset <;> exact Int.sub_add_cancel _ _

/-- A moment that its clock shows as earlier is earlier, but for what the clocks are ahead. -/
theorem instant_lt {d e : DateTime} (earlier : Earlier d.fields e.fields) :
    d.instant + ahead d.offset < e.instant + ahead e.offset := by
  rw [instant_add_ahead, instant_add_ahead]
  have first := d.time.microseconds_bounds
  have last := e.time.microseconds_bounds
  rcases (earlier_append_iff (by rfl)).mp earlier with date | ⟨date, time⟩
  · have days := Date.dayNumber_lt date
    unfold dayLength at *
    omega
  · have time := TimeOfDay.microseconds_lt time
    have days : d.date.dayNumber = e.date.dayNumber := by
      simp only [Date.fields, List.cons.injEq, and_true] at date
      simp only [Date.dayNumber, date]
    rw [days]
    omega

end DateTime

end Thermostat
