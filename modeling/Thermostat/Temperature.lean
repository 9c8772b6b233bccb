import Thermostat.Decimal.Context
import Thermostat.Decimal.Text
import Thermostat.Vocabulary

/-! Temperatures in tenths of a degree Fahrenheit, and their conversion from and to a local scale. -/
namespace Thermostat

/-- A temperature, or a difference of temperatures, in tenths of a degree Fahrenheit. -/
structure Temperature where
  tenths : Int
deriving DecidableEq

namespace Temperature

open Decimal (Signal ofInt)

def fahrenheit (scale : TemperatureScale) (relative : Bool) (degrees : Decimal) :
    Except Signal Decimal :=
  match scale with
  | .fahrenheit => .ok degrees
  | .celsius => do
    let d ← (← degrees.mul (ofInt 9)).div (ofInt 5)
    if relative then .ok d else d.add (ofInt 32)

/-- The whole number that a decimal with exponent 0 is. -/
def wholeOf (d : Decimal) : Int := if d.negative then -(d.coefficient : Int) else d.coefficient

/-- Tenths of a degree of a local reading; ties go away from zero. -/
def ofDegrees (scale : TemperatureScale) (relative : Bool) (degrees : Decimal) :
    Except Signal Temperature := do
  let d ← fahrenheit scale relative degrees
  let t ← (← d.mul (ofInt 10)).quantize 0
  .ok ⟨wholeOf t⟩

def toLocal (t : Temperature) (scale : TemperatureScale) : Except Signal Decimal := do
  let f ← (ofInt t.tenths).div (ofInt 10)
  match scale with
  | .fahrenheit => .ok f
  | .celsius => do
    let c ← (← (← f.sub (ofInt 32)).mul (ofInt 5)).div (ofInt 9)
    c.quantize (-1)

def text (t : Temperature) : Except Signal String := do
  .ok ((← t.toLocal .fahrenheit).write ++ "°F")

end Temperature

end Thermostat
