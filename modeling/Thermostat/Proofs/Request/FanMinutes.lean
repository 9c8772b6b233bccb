import Thermostat.Proofs.Hold.Entries
import Thermostat.Proofs.Request.Rendering

/-! The minutes of each hour for which a request lets the fan run. A vacation keeps to the limits, a hold
takes whatever whole number its entries give. -/
namespace Thermostat

namespace Request

/-- The minutes that a request sends, if there are any, are within the limits. -/
def KeepsFanLimits (r : Request) : Prop :=
  ∀ p, Entries.get? r.params "fanMinOnTime" = some p →
    ∃ n, p = .number n ∧ leastFanMinutes ≤ n ∧ n ≤ greatestFanMinutes

def fanMinutes? : Request → Option Int
  | createVacation _ _ _ _ _ minutes => minutes
  | setHold event _ => event.slots .fanMinOnTime
  | _ => none

theorem get?_fanMinutes (r : Request) :
    Entries.get? r.params "fanMinOnTime" = r.fanMinutes?.map .number := by
  cases r with
  | setHold event hold => exact get?_slot event hold .fanMinOnTime
  | _ =>
    rw [get?_params]
    rfl

end Request

namespace RequestKind

/-- A request of a kind that was made from arguments; the event of a hold was read from entries. -/
def Constructs (k : RequestKind) (r : Request) : Prop :=
  ∃ placed named records, k.construct placed named = .ok (records, .ok r) ∧
    ∀ slots ignored, (k.signature.bound placed named).value "event" = .event slots ignored →
      ∃ scale entries, (HoldEvent.ofEntries scale entries).2 = .ok ⟨slots, ignored⟩

/-- The hold that is read from a number of minutes alone. -/
def fanHold (n : Int) : HoldEvent := ⟨HoldSlots.empty.put .fanMinOnTime n, []⟩

theorem ofEntries_fanHold (scale : TemperatureScale) (n : Int) :
    HoldEvent.ofEntries scale [("fanMinOnTime", .int n)] = ([], .ok (fanHold n)) := rfl

/-- A hold with nothing but minutes for the fan is made from any number of them. -/
theorem construct_fanHold (n : Int) :
    ∃ r, RequestKind.setHold.construct [(fanHold n).toValue] [] = .ok ([], .ok r) ∧
      r.fanMinutes? = some n := ⟨_, rfl, rfl⟩

theorem construct_fanVacation {n : Int}
    (within : Request.leastFanMinutes ≤ n ∧ n ≤ Request.greatestFanMinutes) :
    ∃ r, RequestKind.createVacation.construct
        [.string "Ski trip", .temperature ⟨800⟩, .temperature ⟨550⟩] [("fan_min_on_time", .int n)] =
          .ok ([], .ok r) ∧ r.fanMinutes? = some n := by
  have read : Field.optional (.int n) Request.readFanMinutes = .ok (some n) := by
    refine Field.optional_eq_ok_iff.mpr (Or.inr ⟨nofun, n, ?_, rfl⟩)
    exact Request.readFanMinutes_eq_ok_iff.mpr ⟨rfl, within⟩
  have made : Request.ofCreateVacation (.string "Ski trip") (.temperature ⟨800⟩) (.temperature ⟨550⟩)
      .none .none .none (.int n) =
        .ok (.createVacation (.text "Ski trip") ⟨800⟩ ⟨550⟩ ⟨none, none⟩ none (some n)) := by
    unfold Request.ofCreateVacation
    rw [read]
    rfl
  exact ⟨_, congrArg (fun r => Except.ok (Request.silent r)) made, rfl⟩

/-- The minutes that are sent are those within the limits for a vacation, and all whole numbers for a
hold; no other request sends any. -/
theorem sends_fanMinutes_iff (k : RequestKind) (p : Param) :
    (∃ r, k.Constructs r ∧ Entries.get? r.params "fanMinOnTime" = some p) ↔
      ∃ n, p = .number n ∧
        (k = .createVacation ∧ Request.leastFanMinutes ≤ n ∧ n ≤ Request.greatestFanMinutes ∨
          k = .setHold) := by
  constructor
  · rintro ⟨r, ⟨placed, named, records, made, -⟩, sent⟩
    obtain ⟨-, made⟩ := construct_eq_ok_iff.mp made
    rw [Request.get?_fanMinutes] at sent
    obtain ⟨n, minutes, rfl⟩ := Option.map_eq_some_iff.mp sent
    refine ⟨n, rfl, ?_⟩
    cases made_of_make (congrArg Prod.snd made) with
    | createVacation name cool heat window fan read =>
      rcases Field.optional_eq_ok_iff.mp read with ⟨-, rfl⟩ | ⟨-, m, ok, rfl⟩
      · cases minutes
      · cases minutes
        exact Or.inl ⟨rfl, (Request.readFanMinutes_eq_ok_iff.mp ok).2⟩
    | setHold event hold => exact Or.inr rfl
    | _ => cases minutes
  · rintro ⟨n, rfl, ⟨rfl, within⟩ | rfl⟩
    · obtain ⟨r, made, minutes⟩ := construct_fanVacation within
      refine ⟨r, ⟨_, _, _, made, nofun⟩, ?_⟩
      rw [Request.get?_fanMinutes, minutes, Option.map_some]
    · obtain ⟨r, made, minutes⟩ := construct_fanHold n
      refine ⟨r, ⟨_, _, _, made, fun slots ignored event => ?_⟩, ?_⟩
      · cases event
        exact ⟨.fahrenheit, _, congrArg Prod.snd (ofEntries_fanHold .fahrenheit n)⟩
      · rw [Request.get?_fanMinutes, minutes, Option.map_some]

/-- A hold lets the fan run for 61 minutes of each hour. -/
theorem not_keepsFanLimits_setHold :
    HoldEvent.ofEntries .fahrenheit [("fanMinOnTime", .int 61)] = ([], .ok (fanHold 61)) ∧
      ∃ r, RequestKind.setHold.construct [(fanHold 61).toValue] [] = .ok ([], .ok r) ∧
        ¬ r.KeepsFanLimits := by
  refine ⟨ofEntries_fanHold _ 61, ?_⟩
  obtain ⟨r, made, minutes⟩ := construct_fanHold 61
  refine ⟨r, made, fun keeps => ?_⟩
  have sent := r.get?_fanMinutes
  rw [minutes] at sent
  obtain ⟨n, same, -, most⟩ := keeps _ sent
  cases same
  exact absurd most (by decide)

end RequestKind

end Thermostat
