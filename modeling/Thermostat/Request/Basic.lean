import Thermostat.Hold.Policy

/-! The requests that a thermostat understands, and the parts that each sends. -/
namespace Thermostat

inductive Request
  | acknowledge (thermostat ackRef : Label) (ackType : AckType) (remindLater : Option Bool)
  | controlPlug (plug : Label) (state : PlugState) (hold : Hold)
  | createVacation (name : Label) (cool heat : Temperature) (window : Window)
      (fan : Option FanMode) (fanMinutes : Option Int)
  | deleteVacation (name : Label)
  | resetPreferences
  | resumeProgram (all : Option Bool)
  | sendMessage (text : Label)
  | setHold (event : HoldEvent) (hold : Hold)
  | setOccupied (occupied : Bool) (hold : Hold)
  | updateSensor (name deviceId sensorId : Label)

inductive RequestKind
  | acknowledge
  | controlPlug
  | createVacation
  | deleteVacation
  | resetPreferences
  | resumeProgram
  | sendMessage
  | setHold
  | setOccupied
  | updateSensor
deriving DecidableEq

namespace RequestKind

def all : List RequestKind :=
  [.acknowledge, .controlPlug, .createVacation, .deleteVacation, .resetPreferences,
   .resumeProgram, .sendMessage, .setHold, .setOccupied, .updateSensor]

def wireName : RequestKind → String
  | .acknowledge => "acknowledge"
  | .controlPlug => "controlPlug"
  | .createVacation => "createVacation"
  | .deleteVacation => "deleteVacation"
  | .resetPreferences => "resetPreferences"
  | .resumeProgram => "resumeProgram"
  | .sendMessage => "sendMessage"
  | .setHold => "setHold"
  | .setOccupied => "setOccupied"
  | .updateSensor => "updateSensor"

def ofWireName? (name : String) : Option RequestKind := all.find? fun k => k.wireName == name

def title : RequestKind → String
  | .acknowledge => "AcknowledgeFunction"
  | .controlPlug => "ControlPlugFunction"
  | .createVacation => "CreateVacationFunction"
  | .deleteVacation => "DeleteVacationFunction"
  | .resetPreferences => "ResetPreferencesFunction"
  | .resumeProgram => "ResumeProgramFunction"
  | .sendMessage => "SendMessageFunction"
  | .setHold => "SetHoldFunction"
  | .setOccupied => "SetOccupiedFunction"
  | .updateSensor => "UpdateSensorFunction"

def takesHold : RequestKind → Bool
  | .controlPlug => true
  | .setHold => true
  | .setOccupied => true
  | _ => false

end RequestKind

namespace Request

def kind : Request → RequestKind
  | acknowledge .. => .acknowledge
  | controlPlug .. => .controlPlug
  | createVacation .. => .createVacation
  | deleteVacation .. => .deleteVacation
  | resetPreferences => .resetPreferences
  | resumeProgram .. => .resumeProgram
  | sendMessage .. => .sendMessage
  | setHold .. => .setHold
  | setOccupied .. => .setOccupied
  | updateSensor .. => .updateSensor

/-- The parts of a request by name, in the order in which they are sent. Absent options are left out,
so that the thermostat applies its own. -/
def params : Request → Params
  | acknowledge thermostat ackRef ackType remindLater =>
    [("thermostatIdentifier", .text thermostat), ("ackRef", .text ackRef),
     ("ackType", .word ackType)] ++
      (remindLater.map fun b => ("remindMeLater", Param.flag b)).toList
  | controlPlug plug state hold =>
    [("plugName", .text plug), ("plugState", .word state)] ++ hold.params
  | createVacation name cool heat window fan fanMinutes =>
    [("name", .text name), ("coolHoldTemp", .number cool.tenths),
     ("heatHoldTemp", .number heat.tenths)] ++ window.params ++
      (fan.map fun m => ("fan", Param.word m)).toList ++
      (fanMinutes.map fun n => ("fanMinOnTime", Param.number n)).toList
  | deleteVacation name => [("name", .text name)]
  | resetPreferences => []
  | resumeProgram all => (all.map fun b => ("resumeAll", Param.flag b)).toList
  | sendMessage text => [("text", .text text)]
  | setHold event hold => event.slots.params ++ hold.params
  | setOccupied occupied hold => ("occupied", .flag occupied) :: hold.params
  | updateSensor name deviceId sensorId =>
    [("name", .text name), ("deviceId", .text deviceId), ("sensorId", .text sensorId)]

end Request

end Thermostat
