import Thermostat.Decimal.Basic
import Thermostat.Text.Blank
import Thermostat.Text.Digit

/-! Numeric text: reading in any script, and writing with as much notation as the exponent needs. -/
namespace Thermostat

namespace Decimal

/-- Largest exponent of a leading digit, and least exponent of a last digit, of any decimal. -/
def greatestExponent : Int := 999999999999999999
def leastExponent : Int := -1999999999999999997

/-- Whether a decimal lies in the range that can be held at all. -/
def isHoldable (d : Decimal) : Bool :=
  leastExponent ≤ d.exponent &&
    (if d.coefficient == 0 then d.exponent else d.adjusted) ≤ greatestExponent

/-- Digits of the coefficient with the point put where the exponent says, for exponents up to 0. -/
def writePositional (digits : List Char) (exponent : Int) : List Char :=
  let places := (-exponent).toNat
  if places == 0 then digits
  else if places < digits.length then
    digits.take (digits.length - places) ++ '.' :: digits.drop (digits.length - places)
  else '0' :: '.' :: List.replicate (places - digits.length) '0' ++ digits

/-- One digit before the point, and the exponent with its sign. -/
def writeScientific (digits : List Char) (exponent : Int) : List Char :=
  let mantissa := match digits with
    | [] => []
    | [d] => [d]
    | d :: ds => d :: '.' :: ds
  mantissa ++ 'E' :: (if exponent < 0 then '-' else '+') :: (toString exponent.natAbs).toList

/-- Positional for exponents up to 0 and leading digits from the sixth place on, else scientific. -/
def write (d : Decimal) : String :=
  let digits := (toString d.coefficient).toList
  let body :=
    if d.exponent ≤ 0 && -6 ≤ d.adjusted then writePositional digits d.exponent
    else writeScientific digits d.adjusted
  String.ofList (if d.negative then '-' :: body else body)

end Decimal

namespace Numeral

/-- Numeric text in ASCII form: underscores dropped, digits of all scripts replaced by ASCII ones.
White space stays and is refused later. -/
def toAscii (cs : List Char) : List Char :=
  (cs.filter (· != '_')).map fun c =>
    match Text.digitValue? c with
    | some d => Char.ofNat ('0'.toNat + d)
    | none => c

def lowerAscii (cs : List Char) : List Char := cs.map Char.toLower

def splitSign : List Char → Bool × List Char
  | '-' :: cs => (true, cs)
  | '+' :: cs => (false, cs)
  | cs => (false, cs)

/-- The payload of a word of no number: digits only, or nothing. -/
def readPayload (cs : List Char) : Option Nat :=
  let (ds, rest) := Text.spanDigits cs
  if rest.isEmpty then some (Text.ofDigits ds) else none

/-- An exponent mark with its digits, or nothing; at least one digit follows the mark. -/
def readExponent : List Char → Option Int
  | [] => some 0
  | c :: cs =>
    if c == 'e' || c == 'E' then
      let (negative, digits) := splitSign cs
      let (ds, rest) := Text.spanDigits digits
      if ds.isEmpty || !rest.isEmpty then none
      else some (if negative then -(Text.ofDigits ds : Int) else Text.ofDigits ds)
    else none

/-- Digits with at most one point among them, and an optional exponent. -/
def readFinite (negative : Bool) (cs : List Char) : Option Decimal :=
  let (whole, rest) := Text.spanDigits cs
  let (fraction, rest) := match rest with
    | '.' :: more => Text.spanDigits more
    | _ => ([], rest)
  if whole.isEmpty && fraction.isEmpty then none
  else
    (readExponent rest).map fun e =>
      ⟨negative, Text.ofDigits (whole ++ fraction), e - fraction.length⟩

def readAscii (cs : List Char) : Option Numeral :=
  let (negative, body) := splitSign cs
  let word := lowerAscii body
  if word == "inf".toList || word == "infinity".toList then some (.infinity negative)
  else if word.take 3 == "nan".toList then
    (readPayload (word.drop 3)).map (.notANumber negative false)
  else if word.take 4 == "snan".toList then
    (readPayload (word.drop 4)).map (.notANumber negative true)
  else
    match readFinite negative body with
    | some d => if d.isHoldable then some (.finite d) else none
    | none => none

/-- Reads a numeric text; white space around it and underscores inside it do not count. -/
def read? (s : String) : Option Numeral := readAscii (toAscii (Text.trimChars s.toList))

def write : Numeral → String
  | .finite d => d.write
  | .infinity negative => (if negative then "-" else "") ++ "Infinity"
  | .notANumber negative signaling payload =>
    (if negative then "-" else "") ++ (if signaling then "sNaN" else "NaN") ++
      (if payload == 0 then "" else toString payload)

end Numeral

end Thermostat
