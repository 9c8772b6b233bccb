import Thermostat.Temperature

/-! The slots of a hold: which fields a hold may set, and what each of them holds. -/
namespace Thermostat

/-- The fields that a hold may set. -/
inductive Slot
  | isOccupied
  | isCoolOff
  | isHeatOff
  | coolHoldTemp
  | heatHoldTemp
  | fan
  | vent
  | ventilatorMinOnTime
  | isOptional
  | isTemperatureRelative
  | coolRelativeTemp
  | heatRelativeTemp
  | isTemperatureAbsolute
  | fanMinOnTime
  | holdClimateRef
deriving DecidableEq

inductive SlotKind
  | flag
  | temperature (relative : Bool)
  | fanMode
  | ventilatorMode
  | count
  | label
deriving DecidableEq

def SlotKind.Content : SlotKind → Type
  | .flag => Bool
  | .temperature _ => Temperature
  | .fanMode => FanMode
  | .ventilatorMode => VentilatorMode
  | .count => Int
  | .label => Label

namespace Slot

/-- All fields in the order in which a request lists them. -/
def all : List Slot :=
  [.isOccupied, .isCoolOff, .isHeatOff, .coolHoldTemp, .heatHoldTemp, .fan, .vent,
   .ventilatorMinOnTime, .isOptional, .isTemperatureRelative, .coolRelativeTemp,
   .heatRelativeTemp, .isTemperatureAbsolute, .fanMinOnTime, .holdClimateRef]

def wireName : Slot → String
  | .isOccupied => "isOccupied"
  | .isCoolOff => "isCoolOff"
  | .isHeatOff => "isHeatOff"
  | .coolHoldTemp => "coolHoldTemp"
  | .heatHoldTemp => "heatHoldTemp"
  | .fan => "fan"
  | .vent => "vent"
  | .ventilatorMinOnTime => "ventilatorMinOnTime"
  | .isOptional => "isOptional"
  | .isTemperatureRelative => "isTemperatureRelative"
  | .coolRelativeTemp => "coolRelativeTemp"
  | .heatRelativeTemp => "heatRelativeTemp"
  | .isTemperatureAbsolute => "isTemperatureAbsolute"
  | .fanMinOnTime => "fanMinOnTime"
  | .holdClimateRef => "holdClimateRef"

def fieldName : Slot → String
  | .isOccupied => "is_occupied"
  | .isCoolOff => "is_cool_off"
  | .isHeatOff => "is_heat_off"
  | .coolHoldTemp => "cool_hold_temp"
  | .heatHoldTemp => "heat_hold_temp"
  | .fan => "fan"
  | .vent => "vent"
  | .ventilatorMinOnTime => "ventilator_min_on_time"
  | .isOptional => "is_optional"
  | .isTemperatureRelative => "is_temperature_relative"
  | .coolRelativeTemp => "cool_relative_temp"
  | .heatRelativeTemp => "heat_relative_temp"
  | .isTemperatureAbsolute => "is_temperature_absolute"
  | .fanMinOnTime => "fan_min_on_time"
  | .holdClimateRef => "hold_climate_ref"

def kind : Slot → SlotKind
  | .isOccupied => .flag
  | .isCoolOff => .flag
  | .isHeatOff => .flag
  | .coolHoldTemp => .temperature false
  | .heatHoldTemp => .temperature false
  | .fan => .fanMode
  | .vent => .ventilatorMode
  | .ventilatorMinOnTime => .count
  | .isOptional => .flag
  | .isTemperatureRelative => .flag
  | .coolRelativeTemp => .temperature true
  | .heatRelativeTemp => .temperature true
  | .isTemperatureAbsolute => .flag
  | .fanMinOnTime => .count
  | .holdClimateRef => .label

/-- The field that a request name stands for. -/
def ofWireName? (name : Text) : Option Slot := all.find? fun s => Text.ofString s.wireName == name

theorem mem_all (s : Slot) : s ∈ all := by cases s <;> decide

theorem ofWireName?_wireName (s : Slot) : ofWireName? s.wireName = some s := by cases s <;> decide

end Slot

/-- What a hold sets: for each field its value, or nothing. -/
def HoldSlots : Type := (s : Slot) → Option s.kind.Content

namespace HoldSlots

def empty : HoldSlots := fun _ => none

/-- Sets one field and keeps the others. -/
def put (h : HoldSlots) (s : Slot) (v : s.kind.Content) : HoldSlots := fun t =>
  if e : s = t then some (e ▸ v) else h t

@[simp] theorem put_self (h : HoldSlots) (s : Slot) (v : s.kind.Content) : h.put s v s = some v := by
  simp [put]

theorem put_of_ne (h : HoldSlots) {s t : Slot} (v : s.kind.Content) (ne : s ≠ t) :
    h.put s v t = h t := by
  simp [put, ne]

end HoldSlots

end Thermostat
