import Thermostat.Request.Basic

/-! Descriptions of requests for the log: the title, and each part with its name and literal form. -/
namespace Thermostat.Request

def optionText (f : α → String) : Option α → String
  | some a => f a
  | none => "None"

def momentText : Option DateTime → String := optionText DateTime.literal

def windowTexts (w : Window) : List (String × Option String) :=
  [("start_date_time", momentText w.start), ("end_date_time", momentText w.finish)]

def hoursText : Option Int → Option String
  | some n => intText? n
  | none => some "None"

def policyTexts (h : Hold) : List (String × Option String) :=
  [("hold_type", optionText Vocabulary.shown h.type), ("hold_hours", hoursText h.hours)]

/-- The parts of a request with their literal forms, as far as these can be written. -/
def texts : Request → List (String × Option String)
  | acknowledge thermostat ackRef ackType remindLater =>
    [("thermostat_identifier", thermostat.literal), ("ack_ref", ackRef.literal),
     ("ack_type", Vocabulary.shown ackType), ("remind_me_later", optionText boolText remindLater)]
  | controlPlug plug state hold =>
    [("plug_name", some plug.literal), ("plug_state", some (Vocabulary.shown state))] ++
      windowTexts hold.window ++ policyTexts hold
  | createVacation name cool heat window fan fanMinutes =>
    [("name", some name.literal), ("cool_hold_temp", cool.literal?),
     ("heat_hold_temp", heat.literal?)] ++ windowTexts window ++
      [("fan", some (optionText Vocabulary.shown fan)), ("fan_min_on_time", hoursText fanMinutes)]
  | deleteVacation name => [("name", name.literal)]
  | resetPreferences => []
  | resumeProgram all => [("resume_all", optionText boolText all)]
  | sendMessage text => [("text", text.literal)]
  | setHold event hold => ("event", event.literal?) :: policyTexts hold ++ windowTexts hold.window
  | setOccupied occupied hold =>
    ("occupied", some (boolText occupied)) :: windowTexts hold.window ++ policyTexts hold
  | updateSensor name deviceId sensorId =>
    [("name", name.literal), ("device_id", deviceId.literal), ("sensor_id", sensorId.literal)]

/-- The description of a request; there is none if one of its parts cannot be written. -/
def literal? (r : Request) : Option String := do
  let parts ← r.texts.mapM fun (name, text) => text.map (name ++ "=" ++ ·)
  some (r.kind.title ++ "(" ++ ", ".intercalate parts ++ ")")

end Thermostat.Request
