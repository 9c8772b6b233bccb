import Thermostat.Decimal.Basic

/-! Decimal arithmetic with 28 digits. Each operation takes the exact rational result and rounds it once. -/
namespace Thermostat.Decimal

/-- The ways in which an operation has no result. -/
inductive Signal
  | invalidOperation
  | overflow
deriving DecidableEq

def precision : Nat := 28

def maxExponent : Int := 999999

def tiny : Int := -1000026

/-- The nearest whole number to a quotient; of two, the even one. -/
def roundHalfEven (num den : Nat) : Nat :=
  let q := num / den
  let r := num % den
  if 2 * r < den || (2 * r == den && q % 2 == 0) then q else q + 1

def roundHalfUp (num den : Nat) : Nat :=
  let q := num / den
  if 2 * (num % den) < den then q else q + 1

/-- Exponent of the leading digit of a positive quotient. -/
def leadingExponent (num den : Nat) : Int :=
  let e : Int := (digitCount num : Int) - digitCount den
  if den * powerOfTen e.toNat ≤ num * powerOfTen (-e).toNat then e else e - 1

/-- A positive quotient in units of 10^q, where the quotient counts units of 10^e. -/
def inUnits (num den : Nat) (e q : Int) : Nat × Nat :=
  (num * powerOfTen (e - q).toNat, den * powerOfTen (q - e).toNat)

/-- Rounds at the last place 10^q; a coefficient that grows by a digit moves that place by one. -/
def roundAt (negative : Bool) (num den : Nat) (e q : Int) : Decimal :=
  let (n, d) := inUnits num den e q
  let c := roundHalfEven n d
  if c == powerOfTen precision then ⟨negative, powerOfTen (precision - 1), q + 1⟩ else ⟨negative, c, q⟩

/-- The decimal nearest to num / den · 10^e. An exact result keeps the exponent e if it can, else
the greatest one below it; an inexact one takes all 28 digits. -/
def ofQuotient (negative : Bool) (num den : Nat) (e : Int) : Except Signal Decimal :=
  if num == 0 then .ok ⟨negative, 0, max tiny (min e maxExponent)⟩
  else
    let a := leadingExponent num den + e
    if maxExponent < a then .error .overflow
    else if a + 1 < tiny then .ok ⟨negative, 0, tiny⟩
    else
      let q := max (a - (precision - 1)) tiny
      let (n, d) := inUnits num den e q
      if q ≤ e && n % d == 0 then
        let (c, k) := stripZeros (e - q).toNat (n / d)
        .ok ⟨negative, c, q + k⟩
      else
        let r := roundAt negative num den e q
        if maxExponent < r.adjusted then .error .overflow else .ok r

def mul (x y : Decimal) : Except Signal Decimal :=
  ofQuotient (x.negative != y.negative) (x.coefficient * y.coefficient) 1 (x.exponent + y.exponent)

/-- The divisor is not zero. -/
def div (x y : Decimal) : Except Signal Decimal :=
  ofQuotient (x.negative != y.negative) x.coefficient y.coefficient (x.exponent - y.exponent)

/-- The coefficient with its sign, in units of a power of ten that is not above the exponent. -/
def signedIn (x : Decimal) (unit : Int) : Int :=
  let c : Int := (x.coefficient * powerOfTen (x.exponent - unit).toNat : Nat)
  if x.negative then -c else c

/-- An exact sum of zero is negative only if both terms are. -/
def add (x y : Decimal) : Except Signal Decimal :=
  let e := min x.exponent y.exponent
  let s := x.signedIn e + y.signedIn e
  ofQuotient (if s == 0 then x.negative && y.negative else s < 0) s.natAbs 1 e

def sub (x y : Decimal) : Except Signal Decimal := x.add y.neg

/-- The number in units of 10^place, ties away from zero; it must fit into 28 digits. -/
def quantize (x : Decimal) (place : Int) : Except Signal Decimal :=
  if x.coefficient == 0 then .ok ⟨x.negative, 0, place⟩
  else
    let width : Int := digitCount x.coefficient + (x.exponent - place)
    if precision < width then .error .invalidOperation
    else if width < 0 then .ok ⟨x.negative, 0, place⟩
    else
      let (n, d) := inUnits x.coefficient 1 x.exponent place
      let c := roundHalfUp n d
      if precision < digitCount c then .error .invalidOperation else .ok ⟨x.negative, c, place⟩

end Thermostat.Decimal
