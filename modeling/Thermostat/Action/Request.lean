import Thermostat.Action.Catalog
import Thermostat.Request.Make

/-! The request that an action makes from its arguments. -/
namespace Thermostat.Action

/-- A hold with an event read from entries; records of ignored entries stay when the hold is refused. -/
def holdOfEntries (scale : TemperatureScale) (entries : List (Text × Value)) (a : Arguments) :
    Request.Making :=
  match HoldEvent.ofEntries scale entries with
  | (records, .error f) => (records, .error f)
  | (records, .ok event) =>
    (records, Request.ofSetHold event.toValue (a.value "hold_type") (a.value "hold_hours")
      (a.value "start_date_time") (a.value "end_date_time"))

def givenEntry (name : String) (v : Value) : List (Text × Value) :=
  if v.isNone then [] else [(name, v)]

/-- The entries that stand for the temperatures and the climate of a hold. -/
def holdEntries (a : Arguments) : List (Text × Value) :=
  givenEntry "coolHoldTemp" (a.value "cool_hold_temp") ++
    givenEntry "heatHoldTemp" (a.value "heat_hold_temp") ++
    givenEntry "holdClimateRef" (a.value "hold_climate_ref")

/-- A vacation converts its temperatures before anything else is looked at. -/
def vacation (scale : TemperatureScale) (a : Arguments) : Except Fault Request := do
  let cool ← Field.temperature (a.value "cool_hold_temp") scale false "coolHoldTemp"
  let heat ← Field.temperature (a.value "heat_hold_temp") scale false "heatHoldTemp"
  Request.ofCreateVacation (a.value "name") (.temperature cool) (.temperature heat)
    (a.value "start_date_time") (a.value "end_date_time") (a.value "fan")
    (a.value "fan_min_on_time")

/-- Makes the request of an action; readings are on the given scale. -/
def makeRequest (scale : TemperatureScale) (action : Action) (a : Arguments) : Request.Making :=
  match action with
  | .acknowledge => RequestKind.acknowledge.make a
  | .controlPlug => RequestKind.controlPlug.make a
  | .createVacation => Request.silent (vacation scale a)
  | .deleteVacation => RequestKind.deleteVacation.make a
  | .resetPreferences => RequestKind.resetPreferences.make a
  | .resumeProgram => RequestKind.resumeProgram.make a
  | .sendMessage => RequestKind.sendMessage.make a
  | .setHold => holdOfEntries scale (holdEntries a) a
  | .setHoldParams =>
    match a.value "params" with
    | .dict entries => holdOfEntries scale entries a
    | v => Request.silent (refuse (.notMapping v.typeName))
  | .setOccupied => RequestKind.setOccupied.make a
  | .updateSensor => RequestKind.updateSensor.make a

end Thermostat.Action
