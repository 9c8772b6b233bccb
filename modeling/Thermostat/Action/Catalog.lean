import Thermostat.Call.Signature

/-! The actions that rule authors can call, with their descriptions. -/
namespace Thermostat

structure ParameterDoc where
  name : String
  text : String
deriving DecidableEq

namespace ParameterDoc

def optionalMark : String := "(opt)"

/-- The text of an optional argument begins with a mark. -/
def optional (p : ParameterDoc) : Bool := optionalMark.toList.isPrefixOf p.text.toList

end ParameterDoc

/-- An action on the thermostats of a selection. -/
inductive Action
  | acknowledge
  | controlPlug
  | createVacation
  | deleteVacation
  | resetPreferences
  | resumeProgram
  | sendMessage
  | setHold
  | setHoldParams
  | setOccupied
  | updateSensor
deriving DecidableEq

namespace Action

def all : List Action :=
  [.acknowledge, .controlPlug, .createVacation, .deleteVacation, .resetPreferences,
   .resumeProgram, .sendMessage, .setHold, .setHoldParams, .setOccupied, .updateSensor]

def name : Action → String
  | .acknowledge => "acknowledge"
  | .controlPlug => "control_plug"
  | .createVacation => "create_vacation"
  | .deleteVacation => "delete_vacation"
  | .resetPreferences => "reset_preferences"
  | .resumeProgram => "resume_program"
  | .sendMessage => "send_message"
  | .setHold => "set_hold"
  | .setHoldParams => "set_hold_params"
  | .setOccupied => "set_occupied"
  | .updateSensor => "update_sensor"

def ofName? (s : String) : Option Action := all.find? fun a => a.name == s

def text : Action → String
  | .acknowledge => "The acknowledge function allows an alert to be acknowledged."
  | .controlPlug => "Control the on/off state of a plug by setting a hold on the plug."
  | .createVacation =>
    "The create vacation function creates a vacation event on the thermostat."
  | .deleteVacation =>
    "The delete vacation function deletes a vacation event from a thermostat."
  | .resetPreferences =>
    "The reset preferences function sets all of the user configurable settings back to the " ++
      "factory default values."
  | .resumeProgram =>
    "The resume program function removes the currently running event providing the event is " ++
      "not a mandatory demand response event."
  | .sendMessage =>
    "The send message function allows an alert message to be sent to the thermostat."
  | .setHold =>
    "The set hold function sets the thermostat into a hold with the specified temperature or " ++
      "climate ref."
  | .setHoldParams =>
    "The set hold function sets the thermostat into a hold with the specified event parameters."
  | .setOccupied =>
    "The function switches a thermostat from occupied mode to unoccupied, or vice versa " ++
      "(EMS MODELS ONLY)."
  | .updateSensor =>
    "The update sensor function allows the caller to update the name of an ecobee3 remote sensor."

def startDoc : ParameterDoc :=
  ⟨"start_date_time", "(opt) The start date/time in thermostat time."⟩

def finishDoc : ParameterDoc :=
  ⟨"end_date_time", "(opt) The end date/time in thermostat time."⟩

def holdTypeDoc : ParameterDoc :=
  ⟨"hold_type", "(opt) The hold duration type. " ++
    "Valid values: dateTime, nextTransition, indefinite, holdHours."⟩

def holdHoursDoc : ParameterDoc :=
  ⟨"hold_hours", "(opt) The number of hours to hold for, " ++
    "used and required if hold_type='holdHours'."⟩

/-- The arguments of an action in order. The first of every action is the selection. -/
def parameterDocs : Action → List ParameterDoc
  | .acknowledge =>
    [⟨"selection", "The thermostat selection to acknowledge the alert for."⟩,
     ⟨"thermostat_identifier", "The thermostat identifier to acknowledge the alert for."⟩,
     ⟨"ack_ref", "The acknowledge ref of the alert."⟩,
     ⟨"ack_type", "The type of acknowledgement. " ++
       "Valid values: accept, decline, defer, unacknowledged."⟩,
     ⟨"remind_me_later",
       "(opt) Whether to remind at a later date, if this is a defer acknowledgement."⟩]
  | .controlPlug =>
    [⟨"selection", "The thermostat selection controlling the plug."⟩,
     ⟨"plug_name", "The name of the plug. Ensure each plug has a unique name."⟩,
     ⟨"plug_state", "The state to put the plug into. Valid values: on, off, resume."⟩,
     startDoc, finishDoc, holdTypeDoc, holdHoursDoc]
  | .createVacation =>
    [⟨"selection", "The thermostat selection for creating the vacation."⟩,
     ⟨"name", "The vacation event name. It must be unique."⟩,
     ⟨"cool_hold_temp", "The temperature at which to set the cool vacation hold."⟩,
     ⟨"heat_hold_temp", "The temperature at which to set the heat vacation hold."⟩,
     startDoc, finishDoc,
     ⟨"fan", "(opt) The fan mode during the vacation. Values: auto, on. Default: auto"⟩,
     ⟨"fan_min_on_time", "(opt) The minimum number of minutes to run the fan each hour. " ++
       "Range: 0-60, Default: 0"⟩]
  | .deleteVacation =>
    [⟨"selection", "The thermostat selection to delete the vacation from."⟩,
     ⟨"name", "The vacation event name to delete."⟩]
  | .resetPreferences => [⟨"selection", "The thermostat selection to reset preferences."⟩]
  | .resumeProgram =>
    [⟨"selection", "The thermostat selection to resume the program on."⟩,
     ⟨"resume_all",
       "(opt) Resume to the next event (false) or all the way to the program (true)."⟩]
  | .sendMessage =>
    [⟨"selection", "The thermostat selection to send the message to."⟩,
     ⟨"text", "The message text to send. Text will be truncated to 500 characters if longer."⟩]
  | .setHold =>
    [⟨"selection", "The thermostat selection to set the hold on."⟩,
     ⟨"cool_hold_temp", "(opt) The temperature at which to set the cool hold."⟩,
     ⟨"heat_hold_temp", "(opt) The temperature at which to set the heat hold."⟩,
     ⟨"hold_climate_ref", "(opt) The climate to take coolHoldTemp, heatHoldTemp and fan from. " ++
       "When given, the temperatures are not required."⟩,
     startDoc, finishDoc, holdTypeDoc, holdHoursDoc]
  | .setHoldParams =>
    [⟨"selection", "The thermostat selection to set the hold on."⟩,
     ⟨"params", "The map of event fields, e.g. \x7b'coolHoldTemp': 76, 'fan': 'on'\x7d. " ++
       "Unrecognized fields are ignored."⟩,
     holdTypeDoc, holdHoursDoc, startDoc, finishDoc]
  | .setOccupied =>
    [⟨"selection", "The selection of EMS model thermostat to set occupied."⟩,
     ⟨"occupied",
       "The climate to use for the temperature, occupied (true) or unoccupied (false)."⟩,
     startDoc, finishDoc, holdTypeDoc, holdHoursDoc]
  | .updateSensor =>
    [⟨"selection", "The thermostat selection owning the sensor."⟩,
     ⟨"name", "The new sensor name. Has a max length of 32."⟩,
     ⟨"device_id", "The enclosure id of the sensor, e.g. rs:100."⟩,
     ⟨"sensor_id", "The identifier of the sensor within the enclosure, e.g. 1."⟩]

def signature (a : Action) : Signature :=
  ⟨"EcobeeActions." ++ a.name,
   a.parameterDocs.map fun p => ⟨p.name, if p.optional then some .none else none⟩⟩

theorem mem_all (a : Action) : a ∈ all := by cases a <;> decide

theorem ofName?_name (a : Action) : ofName? a.name = some a := by cases a <;> decide

end Action

end Thermostat
