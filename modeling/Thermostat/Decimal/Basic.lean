import Thermostat.Power

/-! Decimal numbers: a sign, a coefficient and a power of ten, so that equal values may differ in their last places. -/
namespace Thermostat

/-- The number (-1)^negative · coefficient · 10^exponent. -/
structure Decimal where
  negative : Bool
  coefficient : Nat
  exponent : Int
deriving DecidableEq, Inhabited

namespace Decimal

/-- Splits off decimal digits at the end of a number by repeated squaring of the divisor.
The answer is the part that is left, below p, and the number of digits split off; p is 10^k. -/
def dropDigits : Nat → Nat → Nat → Nat → Nat × Nat
  | 0, _, _, n => (n, 0)
  | fuel + 1, p, k, n =>
    if n < p then (n, 0)
    else
      let (m, c) := dropDigits fuel (p * p) (2 * k) n
      if m < p then (m, c) else (m / p, c + k)

def digitCount (n : Nat) : Nat := (dropDigits (n.log2 + 1) 10 1 n).2 + 1

def ofInt (n : Int) : Decimal := ⟨n < 0, n.natAbs, 0⟩

def adjusted (d : Decimal) : Int := d.exponent + digitCount d.coefficient - 1

def neg (d : Decimal) : Decimal := { d with negative := !d.negative }

/-- Removes at most the given number of zeros from the end of a number, and counts them. -/
def stripZeros : Nat → Nat → Nat × Nat
  | 0, n => (n, 0)
  | k + 1, n =>
    if n % 10 == 0 then
      let (m, c) := stripZeros k (n / 10)
      (m, c + 1)
    else (n, 0)

end Decimal

/-- What a numeric text can stand for: a finite decimal, an infinity, or no number at all. -/
inductive Numeral
  | finite (value : Decimal)
  | infinity (negative : Bool)
  | notANumber (negative signaling : Bool) (payload : Nat)
deriving DecidableEq

end Thermostat
