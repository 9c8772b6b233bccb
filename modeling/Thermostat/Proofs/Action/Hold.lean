import Thermostat.Proofs.Action.Descriptor
import Thermostat.Proofs.Hold.Entries
import Thermostat.Proofs.Hold.Policy

/-! What the request of a hold is made from: its entries, and the terms that say how long it lasts. -/
namespace Thermostat

theorem Value.isNone_iff {v : Value} : v.isNone = true ↔ v = .none := by
  cases v <;> simp [Value.isNone]

namespace Action

variable {scale : TemperatureScale} {entries : List (Text × Value)} {a b : Arguments}

/-- First the entries are read, then the terms. -/
theorem holdOfEntries_eq_bind (scale : TemperatureScale) (entries : List (Text × Value)) (a : Arguments) :
    (holdOfEntries scale entries a).2 =
      (HoldEvent.ofEntries scale entries).2 >>= fun event => a.terms.read.map (.setHold event) := by
  unfold holdOfEntries
  obtain ⟨records, read⟩ := HoldEvent.ofEntries scale entries
  cases read with
  | error f => rfl
  | ok event =>
    change a.terms.read >>= _ = a.terms.read.map _
    cases a.terms.read <;> rfl

theorem holdOfEntries_eq_ok_iff {r : Request} :
    (holdOfEntries scale entries a).2 = .ok r ↔
      ∃ event hold, (HoldEvent.ofEntries scale entries).2 = .ok event ∧ a.terms.read = .ok hold ∧
        r = .setHold event hold := by
  rw [holdOfEntries_eq_bind, bind_eq_ok_iff]
  simp only [map_eq_ok_iff, eq_comm (a := r), ← exists_and_left]

/-- Nothing but its entries and its terms counts for a hold. -/
theorem holdOfEntries_congr (terms : a.terms = b.terms) :
    holdOfEntries scale entries a = holdOfEntries scale entries b := by
  have type : a.value "hold_type" = b.value "hold_type" := congrArg Terms.type terms
  have hours : a.value "hold_hours" = b.value "hold_hours" := congrArg Terms.hours terms
  have start : a.value "start_date_time" = b.value "start_date_time" := congrArg Terms.start terms
  have finish : a.value "end_date_time" = b.value "end_date_time" := congrArg Terms.finish terms
  unfold holdOfEntries
  rw [type, hours, start, finish]

/-- The fields of a hold that can be given as arguments of their own. -/
def holdArguments : List (Slot × String) :=
  [(.coolHoldTemp, "cool_hold_temp"), (.heatHoldTemp, "heat_hold_temp"),
   (.holdClimateRef, "hold_climate_ref")]

/-- The entries for those that are given. -/
def givenEntries (a : Arguments) : List (Text × Value) :=
  (holdArguments.map fun h => (Text.ofString h.1.wireName, a.value h.2)).filter fun e => !e.2.isNone

theorem holdEntries_eq (a : Arguments) : holdEntries a = givenEntries a := by
  have each (name : String) (v : Value) :
      givenEntry name v = [(Text.ofString name, v)].filter fun e => !e.2.isNone := by
    unfold givenEntry
    rw [List.filter_singleton]
    cases v.isNone <;> rfl
  rw [holdEntries, each, each, each, ← List.filter_append, ← List.filter_append]
  rfl

theorem mem_holdEntries_iff {e : Text × Value} :
    e ∈ holdEntries a ↔
      ∃ h ∈ holdArguments, a.value h.2 ≠ .none ∧ e = (Text.ofString h.1.wireName, a.value h.2) := by
  rw [holdEntries_eq, givenEntries, List.mem_filter, List.mem_map]
  constructor
  · rintro ⟨⟨h, mem, rfl⟩, given⟩
    refine ⟨h, mem, fun none => ?_, rfl⟩
    rw [Value.isNone_iff.mpr none] at given
    cases given
  · rintro ⟨h, mem, given, rfl⟩
    refine ⟨⟨h, mem, rfl⟩, ?_⟩
    rwa [Bool.not_eq_true', ← Bool.not_eq_true, Value.isNone_iff]

theorem nodup_holdEntries (a : Arguments) : ((holdEntries a).map (·.1)).Nodup := by
  have names : (holdArguments.map fun h => Text.ofString h.1.wireName).Nodup := by decide
  have sublist : ((givenEntries a).map (·.1)).Sublist
      (holdArguments.map fun h => Text.ofString h.1.wireName) :=
    (List.filter_sublist.map _).trans (List.map_map ▸ List.Sublist.refl _)
  rw [holdEntries_eq]
  exact sublist.nodup names

end Action

end Thermostat
