import Thermostat.Hold.Slot
import Thermostat.Request.Basic

/-! What those who use the library find by name: its version, its public names, and the names of requests
and of the fields of a hold. -/
namespace Thermostat.Library

def version : String := "0.1.0"

/-- The public names in alphabetical order, capitals first. -/
def exports : List String :=
  ["ACTION_DOCS", "AckType", "ActionConfigurationError", "ActionDoc", "ActionProvider",
   "ActionService", "EcobeeActionError", "EcobeeActions", "FanMode", "HoldEvent", "HoldType",
   "InvalidFunctionParameter", "ParamDoc", "PlugState", "StaticActionService", "Temperature",
   "TemperatureScale", "VentilatorMode", "describe_actions"]

/-- The constant that names a kind of requests: the words of the name in capitals. -/
def constantName (k : RequestKind) : String :=
  String.ofList (k.wireName.toList.flatMap fun c => if c.isUpper then ['_', c] else [c.toUpper])

def constants : List (String × String) := RequestKind.all.map fun k => (constantName k, k.wireName)

/-- The names of the kinds of requests that take a hold, in alphabetical order. -/
def holdFunctions : List String :=
  ((RequestKind.all.filter RequestKind.takesHold).map RequestKind.wireName).mergeSort
    fun a b => !(b < a)

/-- The fields of a hold, as they are sent and as they are called. -/
def eventFields : List (String × String) := Slot.all.map fun s => (s.wireName, s.fieldName)

end Thermostat.Library
