import Thermostat.Proofs.Field
import Thermostat.Proofs.Request.Numbers

/-! How making a request fails: by refusing an argument, as long as numbers can be written and readings
converted. -/
namespace Thermostat

open OnlyRefuses

theorem Window.read_only {start finish : Value} (first : start.Short) (last : finish.Short) :
    OnlyRefuses (Window.read start finish) := by
  have moment {parameter : String} {v : Value} (short : v.Short) :
      OnlyRefuses (readMoment parameter v) := by
    unfold readMoment
    split
    · exact .ok _
    · exact .ok _
    · exact .refuse (Field.exists_expected _ short)
  refine .bind (moment first) fun s _ => .bind (moment last) fun f _ => ?_
  unfold check
  split
  · split
    · exact .refuse ⟨_, rfl⟩
    · split
      · exact .refuse ⟨_, rfl⟩
      · exact .ok _
  · exact .ok _

theorem Hold.readHours_only {v : Value} (short : v.Short) (brief : v.Brief) :
    OnlyRefuses (readHours v) := by
  refine .bind (Field.requireInt_only short) fun n whole => ?_
  have written := (brief n (.number (Field.requireInt_eq_ok_iff.mp whole))).intText?
  split
  · exact .refuse ⟨_, by rw [Rejection.message, written, Rejection.worded]⟩
  · exact .ok n

/-- Hours that are not positive are not even refused if they have too many digits. -/
theorem Hold.readHours_unwritable {v : Value} {n : Int} (whole : v.number? = some (n : ℚ))
    (few : n ≤ 0) (long : ¬ ShortInt n) : readHours v = .error .unwritable := by
  have unwritten : intText? n = none := if_pos (Nat.lt_of_not_le long)
  unfold readHours
  rw [Field.requireInt_eq_ok_iff.mpr whole]
  change (if n ≤ 0 then refuse (.hoursNotPositive n) else .ok n) = _
  rw [if_pos few]
  simp [refuse, Fault.ofRejection, Rejection.message, unwritten, Rejection.worded, Fault.ofUnwritten]

theorem Hold.read_only {type hours start finish : Value} (typed : type.Short) (timed : hours.Short)
    (brief : hours.Brief) (first : start.Short) (last : finish.Short) :
    OnlyRefuses (Hold.read type hours start finish) := by
  refine .bind (Window.read_only first last) fun w _ => ?_
  refine .bind (.optional (Field.parseWord_only typed)) fun t _ => ?_
  refine .bind (.optional (readHours_only timed brief)) fun n _ => ?_
  unfold check
  split
  · exact .refuse ⟨_, rfl⟩
  · split
    · exact .refuse ⟨_, rfl⟩
    · exact .ok _

namespace RequestKind

/-- The arguments that are whole numbers. -/
def countNames : List String := ["hold_hours", "fan_min_on_time"]

theorem readFanMinutes_only {v : Value} (short : v.Short) (brief : v.Brief) :
    OnlyRefuses (Request.readFanMinutes v) := by
  refine .bind (Field.requireInt_only short) fun n whole => ?_
  have written := (brief n (.number (Field.requireInt_eq_ok_iff.mp whole))).intText?
  split
  · exact .ok n
  · exact .refuse ⟨_, by rw [Rejection.message, written, Rejection.worded]⟩

section Make

variable {a : Arguments} (short : ∀ name, (a.value name).Short)
  (brief : ∀ name ∈ countNames, (a.value name).Brief)
include short brief

theorem hold_only : OnlyRefuses (Hold.read (a.value "hold_type") (a.value "hold_hours")
    (a.value "start_date_time") (a.value "end_date_time")) :=
  Hold.read_only (short _) (short _) (brief _ (by simp [countNames])) (short _) (short _)

theorem ofSetHold_only (event : Value) : OnlyRefuses (Request.ofSetHold event (a.value "hold_type")
    (a.value "hold_hours") (a.value "start_date_time") (a.value "end_date_time")) := by
  unfold Request.ofSetHold
  split
  · exact .bind (hold_only short brief) fun h _ => .ok _
  · exact .refuse ⟨_, rfl⟩

theorem ofCreateVacation_only (cool heat : Value) :
    OnlyRefuses (Request.ofCreateVacation (a.value "name") cool heat (a.value "start_date_time")
      (a.value "end_date_time") (a.value "fan") (a.value "fan_min_on_time")) := by
  have temperature (v : Value) (parameter : String) :
      OnlyRefuses (Request.requireTemperature v parameter) := by
    unfold Request.requireTemperature
    split
    · exact .ok _
    · exact .refuse ⟨_, rfl⟩
  refine .bind Field.requireText_only fun n _ => ?_
  refine .bind (temperature cool _) fun c _ => .bind (temperature heat _) fun h _ => ?_
  refine .bind (Window.read_only (short _) (short _)) fun w _ => ?_
  refine .bind (.optional (Field.parseWord_only (short _))) fun f _ => ?_
  exact .bind (.optional (readFanMinutes_only (short _) (brief _ (by simp [countNames]))))
    fun m _ => .ok _

theorem make_only (k : RequestKind) : OnlyRefuses (k.make a).2 := by
  have hold := hold_only short brief
  cases k with
  | acknowledge =>
    refine .bind Field.requireText_only fun t _ => .bind Field.requireText_only fun r _ => ?_
    refine .bind (Field.parseWord_only (short _)) fun k _ => ?_
    exact .bind (.optional (Field.requireBool_only (short _))) fun b _ => .ok _
  | controlPlug =>
    refine .bind Field.requireText_only fun p _ => ?_
    exact .bind (Field.parseWord_only (short _)) fun s _ => .bind hold fun h _ => .ok _
  | createVacation => exact ofCreateVacation_only short brief _ _
  | deleteVacation => exact .bind Field.requireText_only fun n _ => .ok _
  | resetPreferences => exact .ok _
  | resumeProgram =>
    exact .bind (.optional (Field.requireBool_only (short _))) fun b _ => .ok _
  | sendMessage =>
    change OnlyRefuses (Request.ofSendMessage _).2
    unfold Request.ofSendMessage
    split
    · next f failed =>
      rintro _ ⟨⟩
      exact Field.requireText_only f failed
    · split <;> exact .ok _
  | setHold => exact ofSetHold_only short brief _
  | setOccupied => exact .bind (Field.requireBool_only (short _)) fun b _ => .bind hold fun h _ => .ok _
  | updateSensor =>
    refine .bind Field.requireText_only fun n _ => ?_
    split
    · exact .refuse ⟨_, rfl⟩
    · exact .bind Field.requireText_only fun d _ => .bind Field.requireText_only fun s _ => .ok _

end Make

/-- A request is made or one of its arguments is refused. -/
theorem construct_only {k : RequestKind} {placed : List Value} {named : List (Text × Value)}
    (short : ∀ name, ((k.signature.bound placed named).value name).Short)
    (brief : ∀ name ∈ countNames, ((k.signature.bound placed named).value name).Brief)
    {making : Request.Making} (made : k.construct placed named = .ok making) :
    OnlyRefuses making.2 := by
  obtain ⟨-, rfl⟩ := construct_eq_ok_iff.mp made
  exact make_only short brief k

end RequestKind

/-- Entries whose temperatures can be converted. -/
def HoldEvent.Temperate (entries : List (Text × Value)) : Prop :=
  ∀ e ∈ entries, ∀ s relative, Slot.ofWireName? e.1 = some s → s.kind = .temperature relative →
    e.2.Temperate

theorem SlotKind.read_only {k : SlotKind} {scale : TemperatureScale} {parameter : String} {v : Value}
    (short : v.Short) (temperate : ∀ relative, k = .temperature relative → v.Temperate) :
    OnlyRefuses (k.read scale parameter v) := by
  cases k with
  | flag => exact Field.requireBool_only short
  | temperature relative => exact Field.temperature_only short (temperate relative rfl)
  | fanMode => exact Field.parseWord_only (α := FanMode) short
  | ventilatorMode => exact Field.parseWord_only (α := VentilatorMode) short
  | count => exact Field.requireInt_only short
  | label => exact Field.requireText_only

/-- Entries are added up to the first that is refused, and fail in no other way. -/
theorem HoldEvent.addEntries_only (scale : TemperatureScale) {entries : List (Text × Value)}
    (short : ∀ e ∈ entries, e.2.Short) (temperate : Temperate entries) (h : HoldEvent) :
    OnlyRefuses (h.addEntries scale entries).2 := by
  induction entries generalizing h with
  | nil => exact .ok h
  | cons e entries ih =>
    have rest := ih (fun e' mem => short e' (List.mem_cons_of_mem e mem))
      fun e' mem => temperate e' (List.mem_cons_of_mem e mem)
    unfold addEntries
    split
    · exact rest _
    · next s known =>
      have read : OnlyRefuses (s.kind.read scale s.wireName e.2) :=
        SlotKind.read_only (short e List.mem_cons_self) fun relative =>
          temperate e List.mem_cons_self s relative known
      split
      · next f failed =>
        rintro _ ⟨⟩
        exact read f failed
      · exact rest _

namespace Action

/-- Arguments of an action whose numbers can be written and whose temperatures can be converted. -/
structure Moderate (a : Arguments) : Prop where
  short : ∀ name, (a.value name).Short
  brief : ∀ name ∈ RequestKind.countNames, (a.value name).Brief
  temperate : ∀ name ∈ ["cool_hold_temp", "heat_hold_temp"], (a.value name).Temperate
  entries : ∀ es, a.value "params" = .dict es → HoldEvent.Temperate es

variable {scale : TemperatureScale} {a : Arguments}

theorem holdOfEntries_only (moderate : Moderate a) {entries : List (Text × Value)}
    (short : ∀ e ∈ entries, e.2.Short) (temperate : HoldEvent.Temperate entries) :
    OnlyRefuses (holdOfEntries scale entries a).2 := by
  have read := HoldEvent.addEntries_only scale short temperate HoldEvent.empty
  unfold holdOfEntries
  split
  · next records f failed =>
    rintro _ ⟨⟩
    exact read f (congrArg Prod.snd failed)
  · next records event made =>
    exact RequestKind.ofSetHold_only moderate.short moderate.brief event.toValue

theorem holdEntries_temperate (moderate : Moderate a) : HoldEvent.Temperate (holdEntries a) := by
  have given (name argument : String) (temperate : ∀ s relative, Slot.ofWireName? name = some s →
      s.kind = .temperature relative → (a.value argument).Temperate) :
      HoldEvent.Temperate (givenEntry name (a.value argument)) := by
    intro e mem
    unfold givenEntry at mem
    split at mem
    · cases mem
    · rw [List.mem_singleton.mp mem]
      exact temperate
  have cool := given "coolHoldTemp" "cool_hold_temp" fun _ _ _ _ => moderate.temperate _ (by simp)
  have heat := given "heatHoldTemp" "heat_hold_temp" fun _ _ _ _ => moderate.temperate _ (by simp)
  have climate := given "holdClimateRef" "hold_climate_ref" fun s relative known kind => by
    rw [show Slot.ofWireName? "holdClimateRef" = some .holdClimateRef by decide] at known
    cases known
    cases kind
  intro e mem
  rcases List.mem_append.mp mem with front | last
  · rcases List.mem_append.mp front with first | second
    · exact cool e first
    · exact heat e second
  · exact climate e last

/-- The request of an action is made or one of the arguments is refused. -/
theorem makeRequest_only (moderate : Moderate a) (action : Action) :
    OnlyRefuses (action.makeRequest scale a).2 := by
  have make (k : RequestKind) := RequestKind.make_only moderate.short moderate.brief k
  unfold makeRequest
  cases action with
  | createVacation =>
    have temperature (name : String) (mem : name ∈ ["cool_hold_temp", "heat_hold_temp"])
        {parameter : Text} : OnlyRefuses (Field.temperature (a.value name) scale false parameter) :=
      Field.temperature_only (moderate.short name) (moderate.temperate name mem)
    refine .bind (temperature _ (by simp)) fun c _ => .bind (temperature _ (by simp)) fun h _ => ?_
    exact RequestKind.ofCreateVacation_only moderate.short moderate.brief _ _
  | setHold =>
    exact holdOfEntries_only moderate (forall_holdEntries moderate.short)
      (holdEntries_temperate moderate)
  | setHoldParams =>
    dsimp only
    split
    · next es mapping =>
      refine holdOfEntries_only moderate (fun e mem n holds => ?_) (moderate.entries es mapping)
      exact moderate.short "params" n (mapping ▸ .entry mem holds)
    · exact .refuse ⟨_, rfl⟩
  | _ => exact make _

end Action

end Thermostat
