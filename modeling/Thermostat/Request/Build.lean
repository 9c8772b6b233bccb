import Thermostat.Request.Basic

/-! Making requests from values. Arguments are checked one after the other, and the first fault counts. -/
namespace Thermostat.Request

/-- Least and greatest number of minutes per hour that a vacation may run the fan. -/
def leastFanMinutes : Int := 0
def greatestFanMinutes : Int := 60

/-- Greatest lengths of a message and of the name of a sensor. -/
def maxMessageLength : Nat := 500
def maxSensorNameLength : Nat := 32

def loggerName : String := "ecobee_actions.messages.functions"

/-- The making of a request: the records it leaves behind, and the request or the fault. -/
abbrev Making : Type := List Log.Record × Except Fault Request

def silent (r : Except Fault Request) : Making := ([], r)

def ofAcknowledge (thermostat ackRef ackType remindLater : Value) : Except Fault Request := do
  let t ← Field.requireText thermostat "thermostatIdentifier"
  let r ← Field.requireText ackRef "ackRef"
  let a ← Field.parseWord AckType ackType (some "ackType")
  let b ← Field.optional remindLater fun v => Field.requireBool v "remindMeLater"
  .ok (acknowledge t r a b)

def ofControlPlug (plug state start finish type hours : Value) : Except Fault Request := do
  let p ← Field.requireText plug "plugName"
  let s ← Field.parseWord PlugState state (some "plugState")
  let h ← Hold.read type hours start finish
  .ok (controlPlug p s h)

/-- A temperature that was converted before. -/
def requireTemperature (v : Value) (parameter : String) : Except Fault Temperature :=
  match v with
  | .temperature t => .ok t
  | _ => refuse (.missing parameter)

def readFanMinutes (v : Value) : Except Fault Int := do
  let n ← Field.requireInt v "fanMinOnTime"
  if leastFanMinutes ≤ n ∧ n ≤ greatestFanMinutes then .ok n
  else refuse (.minutesOutOfRange leastFanMinutes greatestFanMinutes n)

def ofCreateVacation (name cool heat start finish fan fanMinutes : Value) : Except Fault Request := do
  let n ← Field.requireText name "name"
  let c ← requireTemperature cool "coolHoldTemp"
  let h ← requireTemperature heat "heatHoldTemp"
  let w ← Window.read start finish
  let f ← Field.optional fan fun v => Field.parseWord FanMode v (some "fan")
  let m ← Field.optional fanMinutes readFanMinutes
  .ok (createVacation n c h w f m)

def ofDeleteVacation (name : Value) : Except Fault Request := do
  .ok (deleteVacation (← Field.requireText name "name"))

def ofResumeProgram (all : Value) : Except Fault Request := do
  .ok (resumeProgram (← Field.optional all fun v => Field.requireBool v "resumeAll"))

def cutRecord (length : Nat) : Log.Record :=
  { level := .debug, logger := loggerName,
    message := some ("Message text truncated from " ++ toString length ++ " to " ++
      toString maxMessageLength ++ " characters") }

/-- A message longer than can be sent is cut to the greatest length. -/
def ofSendMessage (text : Value) : Making :=
  match Field.requireText text "text" with
  | .error f => ([], .error f)
  | .ok l =>
    if maxMessageLength < l.length then
      ([cutRecord l.length],
       .ok (sendMessage (.text (l.content.take maxMessageLength))))
    else ([], .ok (sendMessage l))

def ofSetHold (event type hours start finish : Value) : Except Fault Request :=
  match event with
  | .event slots ignored => do
    .ok (setHold ⟨slots, ignored⟩ (← Hold.read type hours start finish))
  | _ => refuse (.notEvent event.typeName)

def ofSetOccupied (occupied start finish type hours : Value) : Except Fault Request := do
  let b ← Field.requireBool occupied "occupied"
  .ok (setOccupied b (← Hold.read type hours start finish))

def ofUpdateSensor (name deviceId sensorId : Value) : Except Fault Request := do
  let n ← Field.requireText name "name"
  if maxSensorNameLength < n.length then refuse (.nameTooLong maxSensorNameLength)
  else
    let d ← Field.requireText deviceId "deviceId"
    let s ← Field.requireText sensorId "sensorId"
    .ok (updateSensor n d s)

end Thermostat.Request
