import Thermostat.Calendar.DateTime

/-! Time stamps of written records. -/
namespace Thermostat.Log.Stamp

/-- Number of the day on which the epoch begins, the first of January 1970. -/
def epochDay : Int := 719163

def nearYear (n : Int) : Nat := (n * 400 / 146097 + 1).toNat

/-- Date and time to the millisecond, given the milliseconds since the epoch; there is none outside the
years of the calendar. -/
def ofMilliseconds? (ms : Int) : Option String := do
  let n := epochDay + ms.fdiv 86400000
  let date ← Date.ofDayNumberNear? (nearYear n) n
  let rest := (ms.fmod 86400000).toNat
  let second := rest / 1000
  let time ← TimeOfDay.of? (second / 3600) (second / 60 % 60) (second % 60) 0
  some (date.iso ++ " " ++ time.wire ++ "," ++ Text.padded 3 (rest % 1000))

end Thermostat.Log.Stamp
