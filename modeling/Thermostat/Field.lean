import Thermostat.Decimal.Whole
import Thermostat.Fault
import Thermostat.Text.Case

/-! What single arguments must be: booleans, whole numbers, texts, numbers, words, temperatures. -/
namespace Thermostat

namespace Field

def requireBool (v : Value) (parameter : Text) : Except Fault Bool :=
  match v with
  | .bool b => .ok b
  | _ => refuse (.notBoolean v parameter)

def requireText (v : Value) (parameter : Text) : Except Fault Label :=
  match v with
  | .text l => if Text.isBlankText l.content then refuse (.missing parameter) else .ok l
  | _ => refuse (.missing parameter)

/-- A finite decimal, read from the plain form of the value, so that its written digits count. A value
whose degrees are an invalid operation is not numeric either. -/
def toDecimal (v : Value) (parameter : Text) : Except Fault Decimal :=
  match v with
  | .bool _ => refuse (.notNumeric v parameter)
  | .none => refuse (.notNumeric v parameter)
  | _ =>
    match v.plain with
    | .error (.signal .invalidOperation) => refuse (.notNumeric v parameter)
    | .error e => .error (.ofUnwritten e)
    | .ok s =>
      match s.toString?.bind Numeral.read? with
      | none => refuse (.notNumeric v parameter)
      | some (.finite d) => .ok d
      | some _ => refuse (.notFinite v parameter)

/-- A whole number of any size; a fraction is refused even where it is tiny. Numbers that are no integers
go by their text, whatever their kind. -/
def requireInt (v : Value) (parameter : Text) : Except Fault Int :=
  let whole : Except Fault Int := do
    let d ← toDecimal v parameter
    match d.toInt? with
    | some n => .ok n
    | none => refuse (.notWhole v parameter)
  match v with
  | .int n => .ok n
  | .float _ => whole
  | .decimal _ => whole
  | .number _ => whole
  | _ => refuse (.notInteger v parameter)

/-- A word of a list, given as itself or by its exact literal. -/
def parseWord (α : Type) [Vocabulary α] (v : Value) (parameter : Option Text) : Except Fault α :=
  let refusal : Except Fault α :=
    refuse (.notListed v (Vocabulary.title α) (Vocabulary.choices α) parameter)
  match v with
  | .text (.text s) =>
    match Vocabulary.ofLiteral? α s with
    | some w => .ok w
    | none => refusal
  | .text (.word w) =>
    match Vocabulary.ofWord? (α := α) w with
    | some w => .ok w
    | none =>
      match Vocabulary.ofLiteral? α w.literal with
      | some w => .ok w
      | none => refusal
  | _ => refusal

def optional {α : Type} (v : Value) (parse : Value → Except Fault α) : Except Fault (Option α) :=
  match v with
  | .none => .ok none
  | _ => (parse v).map some

/-- A scale, given as itself, or by its letter or name in any case. -/
def parseScale (v : Value) : Except Fault TemperatureScale :=
  match v with
  | .text l =>
    let exact := match l with
      | .word w => Vocabulary.ofWord? (α := TemperatureScale) w
      | .text _ => none
    match exact with
    | some scale => .ok scale
    | none =>
      let name := Text.upper (Text.trim l.content)
      let matching := (Vocabulary.all (α := TemperatureScale)).find? fun w =>
        name == Text.ofString (Vocabulary.literal w) || name == Text.ofString (Vocabulary.name w)
      match matching with
      | some scale => .ok scale
      | none => refuse (.unknownScale v)
  | _ => refuse (.unknownScale v)

/-- A local reading, or a difference of readings, as a temperature. -/
def temperature (v : Value) (scale : TemperatureScale) (relative : Bool) (parameter : Text) :
    Except Fault Temperature := do
  let degrees ← toDecimal v parameter
  arithmetic (Temperature.ofDegrees scale relative degrees)

end Field

end Thermostat
