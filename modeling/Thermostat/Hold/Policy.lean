import Thermostat.Hold.Event

/-! How long a hold lasts: its window of time, its type and its hours, and what they must agree on. -/
namespace Thermostat

/-- A span of time on the thermostat's clock, open on either side where nothing is given. -/
structure Window where
  start : Option DateTime
  finish : Option DateTime
deriving DecidableEq

namespace Window

/-- A moment; a date alone is not one. -/
def readMoment (parameter : String) (v : Value) : Except Fault (Option DateTime) :=
  match v with
  | .none => .ok none
  | .dateTime d => .ok (some d)
  | _ => refuse (.notMoment v parameter)

/-- Both ends have an offset or none has, and the end is not before the start. -/
def check (w : Window) : Except Fault Window :=
  match w.start, w.finish with
  | some start, some finish =>
    if start.offset.isNone != finish.offset.isNone then refuse .mixedOffsets
    else if finish.instant < start.instant then refuse .reversedWindow
    else .ok w
  | _, _ => .ok w

def read (start finish : Value) : Except Fault Window := do
  let s ← readMoment "startDateTime" start
  let f ← readMoment "endDateTime" finish
  check ⟨s, f⟩

def momentParams (dateName timeName : String) : Option DateTime → Params
  | none => []
  | some d =>
    [(dateName, .text (.text d.date.wire)), (timeName, .text (.text d.time.wire))]

def params (w : Window) : Params :=
  momentParams "startDate" "startTime" w.start ++ momentParams "endDate" "endTime" w.finish

end Window

structure Hold where
  window : Window
  type : Option HoldType
  hours : Option Int
deriving DecidableEq

namespace Hold

/-- A positive number of hours. -/
def readHours (v : Value) : Except Fault Int := do
  let n ← Field.requireInt v "holdHours"
  if n ≤ 0 then refuse (.hoursNotPositive n) else .ok n

/-- A hold by hours needs them, and a hold by date and time needs both. -/
def check (h : Hold) : Except Fault Hold :=
  if h.type = some .holdHours ∧ h.hours = none then refuse .hoursMissing
  else if h.type = some .dateTime ∧ (h.window.start = none ∨ h.window.finish = none) then
    refuse .windowMissing
  else .ok h

def read (type hours start finish : Value) : Except Fault Hold := do
  let window ← Window.read start finish
  let t ← Field.optional type fun v => Field.parseWord HoldType v (some "holdType")
  let n ← Field.optional hours readHours
  check ⟨window, t, n⟩

def params (h : Hold) : Params :=
  h.window.params ++ (h.type.map fun t => ("holdType", Param.word t)).toList ++
    (h.hours.map fun n => ("holdHours", Param.number n)).toList

end Hold

end Thermostat
