import Thermostat.Call.Signature
import Thermostat.Request.Build

/-! Making a request of a kind from arguments by name. -/
namespace Thermostat

namespace RequestKind

def required (name : String) : Parameter := ⟨name, none⟩

def optional (name : String) : Parameter := ⟨name, some .none⟩

/-- What the making of a request takes. A hold is described by an event, which may be left out. -/
def parameters : RequestKind → List Parameter
  | .acknowledge =>
    [required "thermostat_identifier", required "ack_ref", required "ack_type",
     optional "remind_me_later"]
  | .controlPlug =>
    [required "plug_name", required "plug_state", optional "start_date_time",
     optional "end_date_time", optional "hold_type", optional "hold_hours"]
  | .createVacation =>
    [required "name", required "cool_hold_temp", required "heat_hold_temp",
     optional "start_date_time", optional "end_date_time", optional "fan",
     optional "fan_min_on_time"]
  | .deleteVacation => [required "name"]
  | .resetPreferences => []
  | .resumeProgram => [optional "resume_all"]
  | .sendMessage => [required "text"]
  | .setHold =>
    [⟨"event", some HoldEvent.empty.toValue⟩, optional "hold_type", optional "hold_hours",
     optional "start_date_time", optional "end_date_time"]
  | .setOccupied =>
    [required "occupied", optional "start_date_time", optional "end_date_time",
     optional "hold_type", optional "hold_hours"]
  | .updateSensor => [required "name", required "device_id", required "sensor_id"]

def signature (k : RequestKind) : Signature := ⟨k.title ++ ".__init__", k.parameters⟩

def make (k : RequestKind) (a : Arguments) : Request.Making :=
  match k with
  | .acknowledge =>
    Request.silent (Request.ofAcknowledge (a.value "thermostat_identifier") (a.value "ack_ref")
      (a.value "ack_type") (a.value "remind_me_later"))
  | .controlPlug =>
    Request.silent (Request.ofControlPlug (a.value "plug_name") (a.value "plug_state")
      (a.value "start_date_time") (a.value "end_date_time") (a.value "hold_type")
      (a.value "hold_hours"))
  | .createVacation =>
    Request.silent (Request.ofCreateVacation (a.value "name") (a.value "cool_hold_temp")
      (a.value "heat_hold_temp") (a.value "start_date_time") (a.value "end_date_time")
      (a.value "fan") (a.value "fan_min_on_time"))
  | .deleteVacation => Request.silent (Request.ofDeleteVacation (a.value "name"))
  | .resetPreferences => Request.silent (.ok .resetPreferences)
  | .resumeProgram => Request.silent (Request.ofResumeProgram (a.value "resume_all"))
  | .sendMessage => Request.ofSendMessage (a.value "text")
  | .setHold =>
    Request.silent (Request.ofSetHold (a.value "event") (a.value "hold_type")
      (a.value "hold_hours") (a.value "start_date_time") (a.value "end_date_time"))
  | .setOccupied =>
    Request.silent (Request.ofSetOccupied (a.value "occupied") (a.value "start_date_time")
      (a.value "end_date_time") (a.value "hold_type") (a.value "hold_hours"))
  | .updateSensor =>
    Request.silent (Request.ofUpdateSensor (a.value "name") (a.value "device_id")
      (a.value "sensor_id"))

end RequestKind

end Thermostat
