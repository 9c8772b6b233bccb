import Thermostat.Proofs.Action.Hold
import Thermostat.Proofs.Request.Rendering

/-! Temperatures that a vacation and a hold are both given as readings. Either sends what the reading
gives in tenths of a degree, and where nothing else is wrong it is refused just as the reading is. -/
namespace Thermostat.Action

/-- The fields that vacations and holds have in common, and the arguments that give them. -/
def readings : List (Slot × String) :=
  [(.coolHoldTemp, "cool_hold_temp"), (.heatHoldTemp, "heat_hold_temp")]

theorem mem_readings_iff {slot : Slot} {name : String} :
    (slot, name) ∈ readings ↔
      slot = .coolHoldTemp ∧ name = "cool_hold_temp" ∨ slot = .heatHoldTemp ∧ name = "heat_hold_temp" := by
  simp [readings]

/-- An action is given a value for one argument where nothing else is wrong: with some other value for
it, a request is made. -/
structure Tries (scale : TemperatureScale) (action : Action) (name : String) (v : Value)
    (a : Arguments) : Prop where
  value : a.value name = v
  passes : ∃ b r, (∀ other, other ≠ name → b.value other = a.value other) ∧
    (action.makeRequest scale b).2 = .ok r

/-- A request is refused just as a reading is, if it is refused in no other way and never made without
the reading. -/
theorem eq_error_iff_of_failsIn {request : Except Fault Request} {reading : Except Fault Temperature}
    (fails : FailsIn (reading = .error ·) request)
    (needs : ∀ r, request = .ok r → ∃ t, reading = .ok t) {f : Fault} :
    request = .error f ↔ reading = .error f := by
  refine ⟨fails f, fun refused => ?_⟩
  cases request with
  | ok r =>
    obtain ⟨t, read⟩ := needs r rfl
    rw [read] at refused
    cases refused
  | error g =>
    have same := (fails g rfl).symm.trans refused
    cases same
    rfl

/-- What a vacation is made from besides its readings. -/
def booking (a : Arguments) : Except Fault (Label × Window × Option FanMode × Option Int) := do
  let n ← Field.requireText (a.value "name") "name"
  let w ← Window.read (a.value "start_date_time") (a.value "end_date_time")
  let f ← Field.optional (a.value "fan") fun v => Field.parseWord FanMode v (some "fan")
  let m ← Field.optional (a.value "fan_min_on_time") Request.readFanMinutes
  .ok (n, w, f, m)

/-- First the readings of a vacation are converted, then all else is looked at. -/
theorem vacation_eq_bind (scale : TemperatureScale) (a : Arguments) :
    vacation scale a =
      Field.temperature (a.value "cool_hold_temp") scale false "coolHoldTemp" >>= fun cool =>
        Field.temperature (a.value "heat_hold_temp") scale false "heatHoldTemp" >>= fun heat =>
          (booking a).map fun b => .createVacation b.1 cool heat b.2.1 b.2.2.1 b.2.2.2 := by
  have rest (cool heat : Temperature) : Request.ofCreateVacation (a.value "name") (.temperature cool)
      (.temperature heat) (a.value "start_date_time") (a.value "end_date_time") (a.value "fan")
      (a.value "fan_min_on_time") =
        (booking a).map fun b => .createVacation b.1 cool heat b.2.1 b.2.2.1 b.2.2.2 := by
    unfold Request.ofCreateVacation booking
    cases Field.requireText (a.value "name") "name" with
    | error f => rfl
    | ok n =>
      cases Window.read (a.value "start_date_time") (a.value "end_date_time") with
      | error f => rfl
      | ok w =>
        cases Field.optional (a.value "fan") fun v => Field.parseWord FanMode v (some "fan") with
        | error f => rfl
        | ok mode => cases Field.optional (a.value "fan_min_on_time") Request.readFanMinutes <;> rfl
  unfold vacation
  simp only [rest]

section Readings

variable {scale : TemperatureScale} {a : Arguments} {r : Request} {slot : Slot} {name : String} {v : Value}
  (reading : (slot, name) ∈ readings)
include reading

theorem sends_vacation (ok : (createVacation.makeRequest scale a).2 = .ok r) :
    ∃ t, Field.temperature (a.value name) scale false slot.wireName = .ok t ∧
      Entries.get? r.params slot.wireName = some (.number t.tenths) := by
  change vacation scale a = .ok r at ok
  rw [vacation_eq_bind] at ok
  obtain ⟨cool, first, ok⟩ := bind_eq_ok_iff.mp ok
  obtain ⟨heat, second, ok⟩ := bind_eq_ok_iff.mp ok
  obtain ⟨b, -, rfl⟩ := map_eq_ok_iff.mp ok
  rcases mem_readings_iff.mp reading with ⟨rfl, rfl⟩ | ⟨rfl, rfl⟩
  · exact ⟨cool, first, rfl⟩
  · exact ⟨heat, second, rfl⟩

theorem failsIn_vacation (tries : Tries scale .createVacation name v a) :
    FailsIn (Field.temperature v scale false slot.wireName = .error ·)
      (createVacation.makeRequest scale a).2 := by
  obtain ⟨rfl, b, r, same, ok⟩ := tries
  change vacation scale b = .ok r at ok
  change FailsIn _ (vacation scale a)
  rw [vacation_eq_bind] at ok ⊢
  obtain ⟨cool, first, ok⟩ := bind_eq_ok_iff.mp ok
  obtain ⟨heat, second, ok⟩ := bind_eq_ok_iff.mp ok
  obtain ⟨booked, rest, -⟩ := map_eq_ok_iff.mp ok
  have others : booking a = .ok booked := by
    rw [← rest]
    unfold booking
    rcases mem_readings_iff.mp reading with ⟨-, rfl⟩ | ⟨-, rfl⟩ <;>
      rw [same "name" (by decide), same "start_date_time" (by decide), same "end_date_time" (by decide),
        same "fan" (by decide), same "fan_min_on_time" (by decide)]
  rw [others]
  rcases mem_readings_iff.mp reading with ⟨rfl, rfl⟩ | ⟨rfl, rfl⟩
  · rw [← same "heat_hold_temp" (by decide), second]
    exact .bind (fun f refused => refused) fun c _ => .ok _
  · rw [← same "cool_hold_temp" (by decide), first]
    exact .bind (.ok _) fun c _ => .bind (fun f refused => refused) fun h _ => .ok _

theorem sends_setHold (given : a.value name ≠ .none) (ok : (setHold.makeRequest scale a).2 = .ok r) :
    ∃ t, Field.temperature (a.value name) scale false slot.wireName = .ok t ∧
      Entries.get? r.params slot.wireName = some (.number t.tenths) := by
  obtain ⟨event, hold, read, -, rfl⟩ := holdOfEntries_eq_ok_iff.mp ok
  have known : ∀ h ∈ readings, h ∈ holdArguments := by decide
  have entry := mem_holdEntries_iff.mpr ⟨_, known _ reading, given, rfl⟩
  have composed := HoldEvent.composed_of_ofEntries (nodup_holdEntries a) read
  obtain ⟨g, alone, same, -⟩ :=
    composed.present slot _ (Entries.get?_of_mem (nodup_holdEntries a) entry)
  rw [HoldEvent.alone_known] at alone
  obtain ⟨c, read, rfl⟩ := map_eq_ok_iff.mp alone
  rw [Request.get?_slot, same.trans (HoldSlots.put_self _ _ _)]
  rcases mem_readings_iff.mp reading with ⟨rfl, rfl⟩ | ⟨rfl, rfl⟩
  · exact ⟨c, read, rfl⟩
  · exact ⟨c, read, rfl⟩

/-- Of the entries of a hold only the one that is tried can be refused. -/
theorem failsIn_setHold (tries : Tries scale .setHold name v a) :
    FailsIn (Field.temperature v scale false slot.wireName = .error ·)
      (setHold.makeRequest scale a).2 := by
  obtain ⟨rfl, b, r, same, ok⟩ := tries
  obtain ⟨event, hold, read, terms, -⟩ := holdOfEntries_eq_ok_iff.mp ok
  change FailsIn _ (holdOfEntries scale (holdEntries a) a).2
  have others : a.terms = b.terms := by
    unfold Arguments.terms
    rcases mem_readings_iff.mp reading with ⟨-, rfl⟩ | ⟨-, rfl⟩ <;>
      rw [same "hold_type" (by decide), same "hold_hours" (by decide), same "start_date_time" (by decide),
        same "end_date_time" (by decide)]
  rw [holdOfEntries_eq_bind, others, terms]
  refine .bind (fun f refused => ?_) fun event _ => .ok _
  obtain ⟨before, e, after, entries, -, refused⟩ :=
    first_of_mapM_error (HoldEvent.ofEntries_eq_error_iff.mp refused)
  have entry : e ∈ holdEntries a := by
    rw [entries]
    exact List.mem_append_right _ List.mem_cons_self
  obtain ⟨⟨s, n⟩, known, given, rfl⟩ := mem_holdEntries_iff.mp entry
  by_cases tried : n = name
  · have slots : s = slot := by
      have inj : ∀ h ∈ holdArguments, ∀ g ∈ readings, h.2 = g.2 → h.1 = g.1 := by decide
      exact inj _ known _ reading tried
    subst tried slots
    rw [HoldEvent.alone_known, map_eq_error_iff] at refused
    rcases mem_readings_iff.mp reading with ⟨rfl, rfl⟩ | ⟨rfl, rfl⟩ <;> exact refused
  · have there : (Text.ofString s.wireName, a.value n) ∈ holdEntries b := by
      refine mem_holdEntries_iff.mpr ⟨_, known, ?_, ?_⟩ <;> rw [same n tried]
      exact given
    obtain ⟨g, taken⟩ := HoldEvent.ofEntries_ok_iff.mp ⟨_, read⟩ _ there
    rw [taken] at refused
    cases refused

end Readings

end Thermostat.Action
