import Thermostat.Calendar.Date

/-! Moments of a wall clock, with or without a known offset from universal time. -/
namespace Thermostat

structure TimeOfDay where
  hour : Nat
  minute : Nat
  second : Nat
  microsecond : Nat
  hour_lt : hour < 24 := by decide
  minute_lt : minute < 60 := by decide
  second_lt : second < 60 := by decide
  microsecond_lt : microsecond < 1000000 := by decide
deriving DecidableEq

namespace TimeOfDay

def midnight : TimeOfDay := { hour := 0, minute := 0, second := 0, microsecond := 0 }

def of? (hour minute second microsecond : Nat) : Option TimeOfDay :=
  if h : hour < 24 ∧ minute < 60 ∧ second < 60 ∧ microsecond < 1000000 then
    some ⟨hour, minute, second, microsecond, h.1, h.2.1, h.2.2.1, h.2.2.2⟩
  else none

def microseconds (t : TimeOfDay) : Int :=
  (t.hour * 3600 + t.minute * 60 + t.second : Nat) * 1000000 + t.microsecond

/-- Hours, minutes and seconds with two digits each. -/
def wire (t : TimeOfDay) : String :=
  Text.padded 2 t.hour ++ ":" ++ Text.padded 2 t.minute ++ ":" ++ Text.padded 2 t.second

/-- Microseconds are written where there are any. -/
def iso (t : TimeOfDay) : String :=
  t.wire ++ (if t.microsecond == 0 then "" else "." ++ Text.padded 6 t.microsecond)

end TimeOfDay

def dayLength : Int := 86400000000

/-- An offset from universal time, less than a day either way. -/
structure Offset where
  microseconds : Int
  range : -86400000000 < microseconds ∧ microseconds < 86400000000 := by decide
deriving DecidableEq

namespace Offset

def of? (microseconds : Int) : Option Offset :=
  if h : -86400000000 < microseconds ∧ microseconds < 86400000000 then some ⟨microseconds, h⟩
  else none

def zero : Offset := { microseconds := 0 }

def seconds (o : Offset) : Int := o.microseconds.fdiv 1000000

/-- Sign, hours and minutes; seconds and microseconds where there are any. -/
def iso (o : Offset) : String :=
  let n := o.microseconds.natAbs
  let micro := n % 1000000
  let s := n / 1000000
  (if o.microseconds < 0 then "-" else "+") ++ Text.padded 2 (s / 3600) ++ ":" ++
    Text.padded 2 (s / 60 % 60) ++
    (if s % 60 == 0 && micro == 0 then "" else ":" ++ Text.padded 2 (s % 60)) ++
    (if micro == 0 then "" else "." ++ Text.padded 6 micro)

/-- The parts of a span of time that are not zero, days with the sign, the others counted up. -/
def spanLiteral (o : Offset) : String :=
  let days := o.microseconds.fdiv dayLength
  let rest := (o.microseconds - days * dayLength).toNat
  let part (name : String) (n : Int) : List String :=
    if n == 0 then [] else [name ++ "=" ++ toString n]
  let parts := part "days" days ++ part "seconds" (rest / 1000000) ++
    part "microseconds" (rest % 1000000)
  "datetime.timedelta(" ++ (if parts.isEmpty then "0" else ", ".intercalate parts) ++ ")"

def literal (o : Offset) : String :=
  if o.microseconds == 0 then "datetime.timezone.utc"
  else "datetime.timezone(" ++ o.spanLiteral ++ ")"

end Offset

/-- A date and a time of day; without an offset it is the time on some unnamed clock. -/
structure DateTime where
  date : Date
  time : TimeOfDay
  offset : Option Offset
deriving DecidableEq

namespace DateTime

def instant (d : DateTime) : Int :=
  d.date.dayNumber * dayLength + d.time.microseconds -
    (match d.offset with | some o => o.microseconds | none => 0)

/-- Date and time joined by a character, with the offset if there is one. -/
def joined (separator : String) (d : DateTime) : String :=
  d.date.iso ++ separator ++ d.time.iso ++ (match d.offset with | some o => o.iso | none => "")

def iso (d : DateTime) : String := d.joined "T"

/-- The form shown to readers, with a blank between date and time. -/
def plain (d : DateTime) : String := d.joined " "

/-- The moment as an expression that makes it; seconds and microseconds only as far as needed. -/
def literal (d : DateTime) : String :=
  let t := d.time
  let clock :=
    if t.microsecond != 0 then [t.hour, t.minute, t.second, t.microsecond]
    else if t.second != 0 then [t.hour, t.minute, t.second]
    else [t.hour, t.minute]
  let fields := [d.date.year, d.date.month, d.date.day] ++ clock
  "datetime.datetime(" ++ ", ".intercalate (fields.map toString) ++
    (match d.offset with | some o => ", tzinfo=" ++ o.literal | none => "") ++ ")"

end DateTime

end Thermostat
