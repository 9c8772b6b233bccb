import Thermostat.Calendar.DateTime
import Thermostat.Double.Basic
import Thermostat.Hold.Slot

/-! The values that callers hand in: data of rule scripts, whatever their kind. -/
namespace Thermostat

/-- A number of another kind than integers, floats and decimals: a fraction, say. What is seen of it are
its type, its plain and its literal form, the whole numbers that these spell in digits, and whether it
is zero. -/
structure OtherNumber where
  typeName : String
  plain : String
  literal : String
  spelled : List Int
  isZero : Bool

/-- A value of any kind. A hold keeps the entries that it did not recognise beside its slots. -/
inductive Value
  | none
  | bool (b : Bool)
  | int (n : Int)
  | float (d : Double)
  | decimal (n : Numeral)
  | number (n : OtherNumber)
  | text (l : Label)
  | bytes (bs : List UInt8)
  | dateTime (d : DateTime)
  | date (d : Date)
  | temperature (t : Temperature)
  | list (items : List Value)
  | dict (entries : List (Text × Value))
  | event (slots : HoldSlots) (ignored : List (Text × Value))

namespace Value

instance : Inhabited Value := ⟨.none⟩

def string (s : String) : Value := .text (.text s)

def word (w : Word) : Value := .text (.word w)

def isNone : Value → Bool
  | .none => true
  | _ => false

def typeName : Value → String
  | .none => "NoneType"
  | .bool _ => "bool"
  | .int _ => "int"
  | .float _ => "float"
  | .decimal _ => "Decimal"
  | .number n => n.typeName
  | .text (.text _) => "str"
  | .text (.word w) => w.title
  | .bytes _ => "bytes"
  | .dateTime _ => "datetime"
  | .date _ => "date"
  | .temperature _ => "Temperature"
  | .list _ => "list"
  | .dict _ => "dict"
  | .event _ _ => "HoldEvent"

/-- Nothing, zero and what is empty count as a refusal; all else as consent. -/
def isTruthy : Value → Bool
  | .none => false
  | .bool b => b
  | .int n => n != 0
  | .float d => !d.isZero
  | .decimal (.finite d) => d.coefficient != 0
  | .decimal _ => true
  | .number n => !n.isZero
  | .text l => !l.content.isEmpty
  | .bytes bs => !bs.isEmpty
  | .dateTime _ => true
  | .date _ => true
  | .temperature _ => true
  | .list items => !items.isEmpty
  | .dict entries => !entries.isEmpty
  | .event _ _ => true

end Value

end Thermostat
