import Thermostat.Text.Digit

/-! Dates of the years 1 to 9999, their numbering by days, and the week calendar. -/
namespace Thermostat

def isLeapYear (y : Nat) : Bool := y % 4 == 0 && (y % 100 != 0 || y % 400 == 0)

def daysInMonth (y m : Nat) : Nat :=
  if m == 2 then (if isLeapYear y then 29 else 28)
  else if m == 4 || m == 6 || m == 9 || m == 11 then 30
  else 31

/-- A date of the calendar, within the years that have four digits. -/
structure Date where
  year : Nat
  month : Nat
  day : Nat
  year_range : 1 ≤ year ∧ year ≤ 9999 := by decide
  month_range : 1 ≤ month ∧ month ≤ 12 := by decide
  day_range : 1 ≤ day ∧ day ≤ daysInMonth year month := by decide
deriving DecidableEq

namespace Date

def ofYmd? (year month day : Nat) : Option Date :=
  if hy : 1 ≤ year ∧ year ≤ 9999 then
    if hm : 1 ≤ month ∧ month ≤ 12 then
      if hd : 1 ≤ day ∧ day ≤ daysInMonth year month then
        some ⟨year, month, day, hy, hm, hd⟩
      else none
    else none
  else none

theorem ofYmd?_self (d : Date) : ofYmd? d.year d.month d.day = some d := by
  simp [ofYmd?, d.year_range, d.month_range, d.day_range]

def daysBeforeYear (y : Nat) : Int :=
  let p : Int := (y : Int) - 1
  p * 365 + p.fdiv 4 - p.fdiv 100 + p.fdiv 400

/-- Days of all months before a month of a year. -/
def daysBeforeMonth (y : Nat) : Nat → Nat
  | 0 => 0
  | 1 => 0
  | m + 1 => daysBeforeMonth y m + daysInMonth y m

/-- Number of a day; the first day of the year 1 has number 1. -/
def dayNumber (d : Date) : Int :=
  daysBeforeYear d.year + daysBeforeMonth d.year d.month + d.day

def weekday (n : Int) : Int := (n + 6).emod 7

/-- Year with a given number of days, counted from the year and its first day. -/
def ofYearDay? (year : Nat) (day : Nat) : Option Date :=
  let rec go : Nat → Nat → Nat → Option Date
    | 0, _, _ => none
    | months + 1, month, day =>
      if day ≤ daysInMonth year month then ofYmd? year month day
      else go months (month + 1) (day - daysInMonth year month)
  go 12 1 day

/-- Number of the Monday that begins the first week of a year: the week with its first Thursday. -/
def firstMonday (year : Nat) : Int :=
  let first := daysBeforeYear year + 1
  let monday := first - weekday first
  if 3 < weekday first then monday + 7 else monday

/-- Weeks of a year: 53 where it begins on a Thursday, or is leap and begins on a Wednesday. -/
def weeksIn (year : Nat) : Nat :=
  let first := weekday (daysBeforeYear year + 1)
  if first == 3 || (first == 2 && isLeapYear year) then 53 else 52

/-- The date of a day number that lies in a year or one of its neighbours. -/
def ofDayNumberNear? (year : Nat) (n : Int) : Option Date :=
  let start := daysBeforeYear year
  if n ≤ start then
    if year == 0 then none else ofYearDay? (year - 1) (n - daysBeforeYear (year - 1)).toNat
  else if daysBeforeYear (year + 1) < n then
    ofYearDay? (year + 1) (n - daysBeforeYear (year + 1)).toNat
  else ofYearDay? year (n - start).toNat

/-- The date of a week of a year and a day of the week from 1 to 7. -/
def ofWeek? (year week day : Nat) : Option Date :=
  if year == 0 || week == 0 || weeksIn year < week || day == 0 || 7 < day then none
  else ofDayNumberNear? year (firstMonday year + ((week : Int) - 1) * 7 + day - 1)

def iso (d : Date) : String :=
  Text.padded 4 d.year ++ "-" ++ Text.padded 2 d.month ++ "-" ++ Text.padded 2 d.day

/-- Year without padding, month and day with two digits. -/
def wire (d : Date) : String :=
  toString d.year ++ "-" ++ Text.padded 2 d.month ++ "-" ++ Text.padded 2 d.day

/-- The date as an expression that makes it. -/
def literal (d : Date) : String :=
  "datetime.date(" ++ toString d.year ++ ", " ++ toString d.month ++ ", " ++ toString d.day ++ ")"

end Date

end Thermostat
