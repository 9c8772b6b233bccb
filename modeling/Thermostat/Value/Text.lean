import Thermostat.Value.Basic
import Thermostat.Double.Text
import Thermostat.Text.Quoted

/-! The two written forms of a value: the literal form of data, and the plain form of running text. -/
namespace Thermostat

def maxDigits : Nat := 4300

def tooManyDigits : String :=
  "Exceeds the limit (" ++ toString maxDigits ++ " digits) for integer string conversion; " ++
    "use sys.set_int_max_str_digits() to increase the limit"

/-- A whole number in digits, unless it has too many of them. -/
def intText? (n : Int) : Option String :=
  if maxDigits < Decimal.digitCount n.natAbs then none else some (toString n)

/-- Whether a whole number can be written in digits. -/
def isShort (n : Int) : Bool := (intText? n).isSome

def boolText (b : Bool) : String := if b then "True" else "False"

namespace Label

def literal : Label → String
  | .text t => Text.quoted t
  | .word w => w.shown

def plain : Label → Text
  | .text t => t
  | .word w => w.plain

end Label

def Temperature.literal? (t : Temperature) : Option String :=
  (intText? t.tenths).map fun s => "Temperature(value=" ++ s ++ ")"

/-- The literal form of what a field holds. -/
def SlotKind.literal? : (k : SlotKind) → k.Content → Option String
  | .flag, b => some (boolText b)
  | .temperature _, t => Temperature.literal? t
  | .fanMode, m => some (Vocabulary.shown (α := FanMode) m)
  | .ventilatorMode, m => some (Vocabulary.shown (α := VentilatorMode) m)
  | .count, n => intText? n
  | .label, l => some (Label.literal l)

def HoldSlots.literals? (h : HoldSlots) : Option (List String) :=
  Slot.all.mapM fun s =>
    (match h s with
      | some v => s.kind.literal? v
      | none => some "None").map fun text => s.fieldName ++ "=" ++ text

/-- Why a value has no plain form. -/
inductive Unwritten
  /-- It holds a whole number with too many digits. -/
  | tooManyDigits
  /-- The degrees of a temperature cannot be calculated. -/
  | signal (s : Decimal.Signal)

namespace Value

mutual

/-- The literal form: text in quotes, parts of a value in literal form too. There is none for a value
that holds a number with too many digits. -/
def literal? : Value → Option String
  | .none => some "None"
  | .bool b => some (boolText b)
  | .int n => intText? n
  | .float d => some d.write
  | .decimal n => some ("Decimal('" ++ n.write ++ "')")
  | .number n => if n.spelled.all isShort then some n.literal else Option.none
  | .text l => some l.literal
  | .bytes bs => some (Text.quotedBytes (bs.map UInt8.toNat))
  | .dateTime d => some d.literal
  | .date d => some d.literal
  | .temperature t => t.literal?
  | .list items => (literals? items).map fun ts => "[" ++ ", ".intercalate ts ++ "]"
  | .dict entries => (entryLiterals? entries).map fun ts => "\x7b" ++ ", ".intercalate ts ++ "\x7d"
  | .event slots ignored => do
    let fields ← slots.literals?
    let ts ← entryLiterals? ignored
    some ("HoldEvent(" ++ ", ".intercalate fields ++ ", ignored=\x7b" ++ ", ".intercalate ts ++ "\x7d)")

def literals? : List Value → Option (List String)
  | [] => some []
  | v :: vs => do
    let t ← literal? v
    let ts ← literals? vs
    some (t :: ts)

def entryLiterals? : List (Text × Value) → Option (List String)
  | [] => some []
  | (k, v) :: es => do
    let t ← literal? v
    let ts ← entryLiterals? es
    some ((Text.quoted k ++ ": " ++ t) :: ts)

end

/-- The plain form: text as it is, moments with a blank, temperatures in degrees; else the literal
form. -/
def plain : Value → Except Unwritten Text
  | .text l => .ok l.plain
  | .decimal n => .ok n.write
  | .number n => if n.spelled.all isShort then .ok n.plain else .error .tooManyDigits
  | .dateTime d => .ok d.plain
  | .date d => .ok d.iso
  | .temperature t =>
    match t.text with
    | .ok s => .ok s
    | .error s => .error (.signal s)
  | v =>
    match v.literal? with
    | some s => .ok s
    | Option.none => .error .tooManyDigits

/-- The plain form where there is one, for records of the log. -/
def plain? (v : Value) : Option Text := v.plain.toOption

end Value

end Thermostat
