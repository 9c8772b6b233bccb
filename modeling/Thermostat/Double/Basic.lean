import Thermostat.Decimal.Text
import Thermostat.Decimal.Context

/-! Binary floating-point numbers of 53 bits, and the one nearest to a numeric text. -/
namespace Thermostat

/-- A number (-1)^negative · mantissa · 2^exponent, an infinity, or no number. -/
inductive Double
  | notANumber
  | infinite (negative : Bool)
  | finite (negative : Bool) (mantissa : Nat) (exponent : Int)
deriving DecidableEq

namespace Double

def precision : Nat := 53

def tiny : Int := -1074

def huge : Int := 971

def leadingBit (num den : Nat) : Int :=
  let e : Int := (num.log2 : Int) - den.log2
  if den * powerOfTwo e.toNat ≤ num * powerOfTwo (-e).toNat then e else e - 1

/-- The nearest double to num / den; of two, the one with an even mantissa. -/
def ofQuotient (negative : Bool) (num den : Nat) : Double :=
  if num == 0 then .finite negative 0 tiny
  else
    let q := max (leadingBit num den - (precision - 1)) tiny
    let m := Decimal.roundHalfEven (num * powerOfTwo (-q).toNat) (den * powerOfTwo q.toNat)
    let (m, q) := if m == powerOfTwo precision then (powerOfTwo (precision - 1), q + 1) else (m, q)
    if huge < q then .infinite negative else .finite negative m q

/-- The nearest double to a decimal; those beyond every double are settled without their digits. -/
def ofDecimal (d : Decimal) : Double :=
  if d.coefficient == 0 then .finite d.negative 0 tiny
  else if 400 < d.adjusted then .infinite d.negative
  else if d.adjusted < -400 then .finite d.negative 0 tiny
  else ofQuotient d.negative (d.coefficient * powerOfTen d.exponent.toNat) (powerOfTen (-d.exponent).toNat)

def isZero : Double → Bool
  | .finite _ m _ => m == 0
  | _ => false

end Double

end Thermostat
