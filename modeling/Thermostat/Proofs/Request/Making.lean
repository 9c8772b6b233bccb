import Thermostat.Proofs.Action.Descriptor

/-! How requests are made: the checks that stand behind each part of a request. -/
namespace Thermostat.RequestKind

open Thermostat.Field

/-- The requests that are made from arguments: each part is what its argument was read as. -/
inductive Made (a : Arguments) : RequestKind → Request → Prop
  | acknowledge {t r k l}
      (thermostat : requireText (a.value "thermostat_identifier") "thermostatIdentifier" = .ok t)
      (ackRef : requireText (a.value "ack_ref") "ackRef" = .ok r)
      (ackType : parseWord AckType (a.value "ack_type") (some "ackType") = .ok k)
      (later : Field.optional (a.value "remind_me_later") (requireBool · "remindMeLater") = .ok l) :
      Made a .acknowledge (.acknowledge t r k l)
  | controlPlug {p s h}
      (plug : requireText (a.value "plug_name") "plugName" = .ok p)
      (state : parseWord PlugState (a.value "plug_state") (some "plugState") = .ok s)
      (hold : Hold.read (a.value "hold_type") (a.value "hold_hours") (a.value "start_date_time")
        (a.value "end_date_time") = .ok h) :
      Made a .controlPlug (.controlPlug p s h)
  | createVacation {n c h w f m}
      (name : requireText (a.value "name") "name" = .ok n)
      (cool : Request.requireTemperature (a.value "cool_hold_temp") "coolHoldTemp" = .ok c)
      (heat : Request.requireTemperature (a.value "heat_hold_temp") "heatHoldTemp" = .ok h)
      (window : Window.read (a.value "start_date_time") (a.value "end_date_time") = .ok w)
      (fan : Field.optional (a.value "fan") (parseWord FanMode · (some "fan")) = .ok f)
      (minutes : Field.optional (a.value "fan_min_on_time") Request.readFanMinutes = .ok m) :
      Made a .createVacation (.createVacation n c h w f m)
  | deleteVacation {n} (name : requireText (a.value "name") "name" = .ok n) :
      Made a .deleteVacation (.deleteVacation n)
  | resetPreferences : Made a .resetPreferences .resetPreferences
  | resumeProgram {l}
      (all : Field.optional (a.value "resume_all") (requireBool · "resumeAll") = .ok l) :
      Made a .resumeProgram (.resumeProgram l)
  | sendMessage {l} (text : requireText (a.value "text") "text" = .ok l)
      (short : l.length ≤ Request.maxMessageLength) : Made a .sendMessage (.sendMessage l)
  | cutMessage {l} (text : requireText (a.value "text") "text" = .ok l)
      (long : Request.maxMessageLength < l.length) :
      Made a .sendMessage (.sendMessage (.text (l.content.take Request.maxMessageLength)))
  | setHold {slots ignored h} (event : a.value "event" = .event slots ignored)
      (hold : Hold.read (a.value "hold_type") (a.value "hold_hours") (a.value "start_date_time")
        (a.value "end_date_time") = .ok h) :
      Made a .setHold (.setHold ⟨slots, ignored⟩ h)
  | setOccupied {b h} (occupied : requireBool (a.value "occupied") "occupied" = .ok b)
      (hold : Hold.read (a.value "hold_type") (a.value "hold_hours") (a.value "start_date_time")
        (a.value "end_date_time") = .ok h) :
      Made a .setOccupied (.setOccupied b h)
  | updateSensor {n d s} (name : requireText (a.value "name") "name" = .ok n)
      (short : n.length ≤ Request.maxSensorNameLength)
      (device : requireText (a.value "device_id") "deviceId" = .ok d)
      (sensor : requireText (a.value "sensor_id") "sensorId" = .ok s) :
      Made a .updateSensor (.updateSensor n d s)

variable {k : RequestKind} {a : Arguments} {r : Request}

/-- A request that is made has passed all checks of its kind. -/
theorem made_of_make (ok : (k.make a).2 = .ok r) : Made a k r := by
  cases k with
  | acknowledge =>
    obtain ⟨thermostat, first, ok⟩ := bind_eq_ok_iff.mp ok
    obtain ⟨ackRef, second, ok⟩ := bind_eq_ok_iff.mp ok
    obtain ⟨ackType, third, ok⟩ := bind_eq_ok_iff.mp ok
    obtain ⟨later, last, ok⟩ := bind_eq_ok_iff.mp ok
    cases ok
    exact .acknowledge first second third last
  | controlPlug =>
    obtain ⟨plug, first, ok⟩ := bind_eq_ok_iff.mp ok
    obtain ⟨state, second, ok⟩ := bind_eq_ok_iff.mp ok
    obtain ⟨hold, terms, ok⟩ := bind_eq_ok_iff.mp ok
    cases ok
    exact .controlPlug first second terms
  | createVacation =>
    obtain ⟨name, first, ok⟩ := bind_eq_ok_iff.mp ok
    obtain ⟨cool, second, ok⟩ := bind_eq_ok_iff.mp ok
    obtain ⟨heat, third, ok⟩ := bind_eq_ok_iff.mp ok
    obtain ⟨window, ends, ok⟩ := bind_eq_ok_iff.mp ok
    obtain ⟨fan, fourth, ok⟩ := bind_eq_ok_iff.mp ok
    obtain ⟨minutes, last, ok⟩ := bind_eq_ok_iff.mp ok
    cases ok
    exact .createVacation first second third ends fourth last
  | deleteVacation =>
    obtain ⟨name, first, ok⟩ := bind_eq_ok_iff.mp ok
    cases ok
    exact .deleteVacation first
  | resetPreferences =>
    cases ok
    exact .resetPreferences
  | resumeProgram =>
    obtain ⟨all, first, ok⟩ := bind_eq_ok_iff.mp ok
    cases ok
    exact .resumeProgram first
  | sendMessage =>
    change (Request.ofSendMessage _).2 = .ok r at ok
    unfold Request.ofSendMessage at ok
    split at ok
    · cases ok
    · next l text =>
      split at ok <;> cases ok
      · next long => exact .cutMessage text long
      · next short => exact .sendMessage text (Nat.le_of_not_lt short)
  | setHold =>
    change Request.ofSetHold _ _ _ _ _ = .ok r at ok
    unfold Request.ofSetHold at ok
    split at ok
    · next event =>
      obtain ⟨hold, terms, ok⟩ := bind_eq_ok_iff.mp ok
      cases ok
      exact .setHold event terms
    · cases ok
  | setOccupied =>
    obtain ⟨occupied, first, ok⟩ := bind_eq_ok_iff.mp ok
    obtain ⟨hold, terms, ok⟩ := bind_eq_ok_iff.mp ok
    cases ok
    exact .setOccupied first terms
  | updateSensor =>
    obtain ⟨name, first, ok⟩ := bind_eq_ok_iff.mp ok
    split at ok
    · cases ok
    · next short =>
      obtain ⟨device, second, ok⟩ := bind_eq_ok_iff.mp ok
      obtain ⟨sensor, third, ok⟩ := bind_eq_ok_iff.mp ok
      cases ok
      exact .updateSensor first (Nat.le_of_not_lt short) second third

theorem kind_of_make (ok : (k.make a).2 = .ok r) : r.kind = k := by
  cases made_of_make ok <;> rfl

end Thermostat.RequestKind
