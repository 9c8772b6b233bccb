import Thermostat.Field
import Thermostat.Log.Record

/-! Holds read from loose entries: known names fill their slots, unknown names are set aside. -/
namespace Thermostat

inductive Param
  | flag (b : Bool)
  | number (n : Int)
  | text (l : Label)
deriving DecidableEq

abbrev Params : Type := List (String × Param)

/-- A word as a part of a request: its literal. -/
def Param.word [Vocabulary α] (w : α) : Param := .text (.text (Vocabulary.literal w))

namespace SlotKind

/-- Reads what a field holds from a value; temperatures are local readings. -/
def read (scale : TemperatureScale) (parameter : String) : (k : SlotKind) → Value → Except Fault k.Content
  | .flag, v => Field.requireBool v parameter
  | .temperature relative, v => Field.temperature v scale relative parameter
  | .fanMode, v => Field.parseWord FanMode v (some parameter)
  | .ventilatorMode, v => Field.parseWord VentilatorMode v (some parameter)
  | .count, v => Field.requireInt v parameter
  | .label, v => Field.requireText v parameter

/-- A label that is a word of the fan lists is sent by its literal; other labels go as they are. -/
def labelParam : Label → Param
  | .word (.fanMode w) => .word w
  | .word (.ventilatorMode w) => .word w
  | l => .text l

/-- What a field holds, as a part of a request. -/
def param : (k : SlotKind) → k.Content → Param
  | .flag, b => .flag b
  | .temperature _, t => .number (Temperature.tenths t)
  | .fanMode, w => .word (α := FanMode) w
  | .ventilatorMode, w => .word (α := VentilatorMode) w
  | .count, n => .number n
  | .label, l => labelParam l

/-- Whether two values of one type are equal. -/
def equal {α : Type} [DecidableEq α] (a b : α) : Bool := decide (a = b)

def same : (k : SlotKind) → k.Content → k.Content → Bool
  | .flag, a, b => equal (α := Bool) a b
  | .temperature _, a, b => equal (α := Temperature) a b
  | .fanMode, a, b => equal (α := FanMode) a b
  | .ventilatorMode, a, b => equal (α := VentilatorMode) a b
  | .count, a, b => equal (α := Int) a b
  | .label, a, b => equal (Label.content a) (Label.content b)

end SlotKind

namespace HoldSlots

/-- The fields that are set, in the order of all fields. -/
def params (h : HoldSlots) : Params :=
  Slot.all.filterMap fun s => (h s).map fun v => (s.wireName, s.kind.param v)

def same (a b : HoldSlots) : Bool :=
  Slot.all.all fun s =>
    match a s, b s with
    | some v, some w => s.kind.same v w
    | none, none => true
    | _, _ => false

end HoldSlots

/-- A hold, with the entries that named no field. -/
structure HoldEvent where
  slots : HoldSlots
  ignored : List (Text × Value)

namespace HoldEvent

def empty : HoldEvent := ⟨.empty, []⟩

def loggerName : String := "ecobee_actions.messages.event"

def ignoredRecord (name : Text) (v : Value) : Log.Record :=
  { level := .warning, logger := loggerName,
    message := v.plain?.map fun t =>
      "Unrecognized event field '" ++ name ++ "' with value '" ++ t ++ "' ignored." }

/-- Adds entries to a hold in their order, up to the first that is refused. -/
def addEntries (scale : TemperatureScale) (h : HoldEvent) :
    List (Text × Value) → List Log.Record × Except Fault HoldEvent
  | [] => ([], .ok h)
  | (name, v) :: entries =>
    match Slot.ofWireName? name with
    | none =>
      let (records, result) := addEntries scale { h with ignored := h.ignored ++ [(name, v)] } entries
      (ignoredRecord name v :: records, result)
    | some s =>
      match s.kind.read scale s.wireName v with
      | .error f => ([], .error f)
      | .ok c => addEntries scale { h with slots := h.slots.put s c } entries

/-- The hold that entries describe, with the records of those that were set aside. -/
def ofEntries (scale : TemperatureScale) (entries : List (Text × Value)) :
    List Log.Record × Except Fault HoldEvent :=
  addEntries scale empty entries

def toValue (h : HoldEvent) : Value := .event h.slots h.ignored

def literal? (h : HoldEvent) : Option String := h.toValue.literal?

end HoldEvent

end Thermostat
