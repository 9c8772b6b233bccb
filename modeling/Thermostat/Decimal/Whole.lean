import Thermostat.Decimal.Context

/-! Whole numbers among decimals. They are found by rounding, which here takes as many digits as there
are and not only 28. -/
namespace Thermostat.Decimal

/-- The nearest whole number; of two, the even one. What has no places behind the point stays as it is,
and a number below a tenth is rounded without its power of ten. -/
def toIntegral (d : Decimal) : Decimal :=
  if 0 ≤ d.exponent then d
  else if (digitCount d.coefficient : Int) < -d.exponent then ⟨d.negative, 0, 0⟩
  else
    let (n, m) := inUnits d.coefficient 1 d.exponent 0
    ⟨d.negative, roundHalfEven n m, 0⟩

/-- Whether two decimals are the same number, whatever their last places and the signs of zeros. -/
def sameNumber (x y : Decimal) : Bool :=
  if x.coefficient == 0 || y.coefficient == 0 then x.coefficient == y.coefficient
  else
    let e := min x.exponent y.exponent
    x.adjusted == y.adjusted && x.signedIn e == y.signedIn e

/-- The whole number that is left without the places behind the point. -/
def truncate (d : Decimal) : Int :=
  if d.coefficient == 0 then 0
  else
    let (n, m) := inUnits d.coefficient 1 d.exponent 0
    if d.negative then -(n / m : Nat) else (n / m : Nat)

/-- The whole number that a decimal is: rounding to one leaves it the same. -/
def toInt? (d : Decimal) : Option Int :=
  if d.sameNumber d.toIntegral then some d.truncate else none

end Thermostat.Decimal
