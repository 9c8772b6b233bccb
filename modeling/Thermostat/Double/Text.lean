import Thermostat.Double.Basic

/-! Shortest text of a double: the fewest digits that read back, the nearest of those. -/
namespace Thermostat.Double

/-- The numbers that read back as mantissa · 2^exponent, in quarters of the last bit: the value
with the bounds below and above. Below a power of two the neighbour is half as far. -/
def quarters (mantissa : Nat) (exponent : Int) : Nat × Nat × Nat :=
  let below := if mantissa == powerOfTwo (precision - 1) && tiny < exponent then 1 else 2
  (4 * mantissa, 4 * mantissa - below, 4 * mantissa + 2)

/-- The coefficient of the given number of digits that lies between the bounds, nearest to the value.
All three are in units that num / den turns into units of the grid. -/
def gridPoint? (closed : Bool) (value lower upper num den : Nat) : Option Nat :=
  let inside (c : Nat) : Bool :=
    if closed then lower * num ≤ c * den && c * den ≤ upper * num
    else lower * num < c * den && c * den < upper * num
  let c := value * num / den
  match inside c, inside (c + 1) with
  | true, true =>
    let down := value * num - c * den
    let up := (c + 1) * den - value * num
    if down < up || (down == up && c % 2 == 0) then some c else some (c + 1)
  | true, false => some c
  | false, true => some (c + 1)
  | false, false => none

/-- Tries grids of growing fineness, each ten times the one before, until one has a point. -/
def shortestFrom : Nat → Bool → Nat → Nat → Nat → Int → Int → Nat × Int
  | 0, _, value, _, _, _, _ => (value, 0)
  | fuel + 1, closed, value, lower, upper, exponent, place =>
    let num := powerOfTwo exponent.toNat * powerOfTen (-place).toNat
    let den := powerOfTwo (-exponent).toNat * powerOfTen place.toNat
    match gridPoint? closed value lower upper num den with
    | some c => (c, place)
    | none => shortestFrom fuel closed value lower upper exponent (place - 1)

/-- Digits and last place of the shortest decimal that reads back; without zeros at the end. -/
def shortest (mantissa : Nat) (exponent : Int) : Nat × Int :=
  let (value, lower, upper) := quarters mantissa exponent
  let e := exponent - 2
  let first := Decimal.leadingExponent (value * powerOfTwo e.toNat) (powerOfTwo (-e).toNat)
  let (c, place) := shortestFrom 20 (mantissa % 2 == 0) value lower upper e first
  let (c, k) := Decimal.stripZeros 20 c
  (c, place + k)

/-- At least one digit stands on each side of the point. -/
def writePositional (digits : List Char) (place : Int) : List Char :=
  if 0 ≤ place then digits ++ List.replicate place.toNat '0' ++ ['.', '0']
  else Decimal.writePositional digits place

/-- The exponent has a sign and at least two digits. -/
def writeScientific (digits : List Char) (leading : Int) : List Char :=
  let mantissa := match digits with
    | [] => []
    | [d] => [d]
    | d :: ds => d :: '.' :: ds
  mantissa ++ 'e' :: (if leading < 0 then '-' else '+') :: (Text.padded 2 leading.natAbs).toList

/-- Positional where the leading digit stands between the fourth place and the sixteenth digit. -/
def write : Double → String
  | .notANumber => "nan"
  | .infinite negative => if negative then "-inf" else "inf"
  | .finite negative mantissa exponent =>
    let body :=
      if mantissa == 0 then ['0', '.', '0']
      else
        let (c, place) := shortest mantissa exponent
        let digits := (toString c).toList
        let leading := place + digits.length - 1
        if -4 ≤ leading && leading < 16 then writePositional digits place
        else writeScientific digits leading
    String.ofList (if negative then '-' :: body else body)

end Thermostat.Double
