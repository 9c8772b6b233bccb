import Thermostat.Proofs.Request.Refusals
import Thermostat.Proofs.Session.Reports

/-! Bad values are refused, and calls with them are reported as such, as long as numbers can be written
and readings converted. Beyond that there are faults that are no refusals. -/
namespace Thermostat

/-- How bad values are answered on a scale. -/
structure Refuses (scale : TemperatureScale) : Prop where
  reading : ∀ relative parameter v, v.Short → v.Temperate →
    OnlyRefuses (Field.temperature v scale relative parameter)
  entries : ∀ es : List (Text × Value), (∀ e ∈ es, e.2.Short) → HoldEvent.Temperate es →
    OnlyRefuses (HoldEvent.ofEntries scale es).2
  request : ∀ (k : RequestKind) placed named making,
    (∀ name, ((k.signature.bound placed named).value name).Short) →
    (∀ name ∈ RequestKind.countNames, ((k.signature.bound placed named).value name).Brief) →
    k.construct placed named = .ok making → OnlyRefuses making.2
  /-- A call whose arguments fit but describe no request has one record, that of a refused argument. -/
  call : ∀ (s : Session) (action : Action) placed named, s.scale = scale →
    action.signature.Fits placed named → Action.Moderate (action.signature.bound placed named) →
    (∀ r, ¬ action.Describes scale (action.signature.bound placed named) r) →
    ∃ v t m, Session.selectionOf? placed named = some v ∧ v.plain? = some t ∧
      Session.own (s.call action placed named).2.records =
        [(Blame.rejected m).record action (some t)]
  /-- Readings far out of range are never refused. -/
  extreme : ∀ relative parameter v d, Field.toDecimal v parameter = .ok d →
    (Temperature.extremeDegrees : ℚ) ≤ |d.toRat| →
    ∃ signal, Field.temperature v scale relative parameter = .error (.signal signal)
  /-- Hours that ought to be refused are not if they have too many digits. -/
  hours : ∀ v (n : ℤ), v.number? = some (n : ℚ) → n ≤ 0 → ¬ ShortInt n →
    Hold.readHours v = .error .unwritable

namespace Session

variable {s : Session} {action : Action} {placed : List Value} {named : List (Text × Value)}

/-- A call without a request is reported for the refusal of an argument. -/
theorem call_rejected (fits : action.signature.Fits placed named)
    (moderate : Action.Moderate (action.signature.bound placed named))
    (undescribed : ∀ r, ¬ action.Describes s.scale (action.signature.bound placed named) r) :
    ∃ v t m, selectionOf? placed named = some v ∧ v.plain? = some t ∧
      own (s.call action placed named).2.records = [(Blame.rejected m).record action (some t)] := by
  have names := action.signature.names_bound named fits.room
  obtain ⟨t, plain⟩ := Option.isSome_iff_exists.mp (Value.plain?_isSome (moderate.short "selection"))
  have only : OnlyRefuses (action.makeRequest s.scale (action.signature.bound placed named)).2 :=
    Action.makeRequest_only moderate action
  rw [s.call_of_fits fits, invoke_eq]
  cases made : (action.makeRequest s.scale (action.signature.bound placed named)).2 with
  | ok r => exact absurd ((Action.describes_iff names r).mpr made) (undescribed r)
  | error f =>
    obtain ⟨r, rfl⟩ := only f made
    refine ⟨_, t, Fault.message (.rejected r), selectionOf?_eq fits, plain, ?_⟩
    have course : s.course action (action.signature.bound placed named) = .unmade (.rejected r) := by
      unfold Session.course
      rw [made]
    dsimp only
    rw [course, own, List.filter_append, ← own, ← own, own_made, List.nil_append, own_ownRecords,
      ownRecords_eq_append, aftermath, plain]
    rfl

end Session

/-- On both scales, bad values are refused within the range of numbers and of readings. -/
theorem refuses (scale : TemperatureScale) : Refuses scale where
  reading _ _ _ short temperate := Field.temperature_only short temperate
  entries _ short temperate := HoldEvent.addEntries_only scale short temperate _
  request _ _ _ _ short brief made := RequestKind.construct_only short brief made
  call _ _ _ _ same fits moderate undescribed :=
    Session.call_rejected fits moderate (same ▸ undescribed)
  extreme _ _ _ _ read extreme := Field.temperature_signal read extreme
  hours _ _ whole few long := Hold.readHours_unwritable whole few long

/-- A fan mode that there is none of. -/
theorem refuses_turbo :
    (∀ e ∈ ([("fan", .string "turbo")] : List (Text × Value)), e.2.Short) ∧
      HoldEvent.Temperate [("fan", .string "turbo")] ∧
      OnlyRefuses (HoldEvent.ofEntries .celsius [("fan", .string "turbo")]).2 := by
  have short : ∀ e ∈ ([("fan", .string "turbo")] : List (Text × Value)), e.2.Short := by
    intro e mem n holds
    rw [List.mem_singleton.mp mem] at holds
    cases holds
  have temperate : HoldEvent.Temperate [("fan", .string "turbo")] := by
    intro e mem s relative known kind
    rw [List.mem_singleton.mp mem, show Slot.ofWireName? "fan" = some .fan by decide] at known
    cases known
    cases kind
  exact ⟨short, temperate, (refuses .celsius).entries _ short temperate⟩

/-- A reading of 31 digits is a number, but it is not refused for being none, nor converted. -/
theorem not_onlyRefuses_reading :
    ¬ OnlyRefuses (Field.temperature (.string "1e30") .fahrenheit false "temperature") := by
  intro only
  have failed : Field.temperature (.string "1e30") .fahrenheit false "temperature" =
      .error (.signal .invalidOperation) := rfl
  obtain ⟨r, same⟩ := only _ failed
  cases same

end Thermostat
