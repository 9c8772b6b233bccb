import Thermostat.Calendar.DateTime
import Thermostat.Proofs.Text.Digits

/-! Dates and times of day as requests send them: different ones are sent differently. -/
namespace Thermostat

theorem Date.wire_inj {d e : Date} : d.wire = e.wire ↔ d = e := by
  constructor
  · intro same
    have chars := congrArg String.toList same
    simp only [wire, ← Text.padded_zero, String.toList_append, List.append_assoc] at chars
    obtain ⟨year, chars⟩ := (Text.padded_append_inj rfl rfl).mp chars
    obtain ⟨month, chars⟩ := (Text.padded_append_inj rfl rfl).mp (List.append_cancel_left chars)
    have days := List.append_cancel_left chars
    rw [← List.append_nil (Text.padded 2 d.day).toList,
      ← List.append_nil (Text.padded 2 e.day).toList] at days
    obtain ⟨day, -⟩ := (Text.padded_append_inj rfl rfl).mp days
    cases d
    cases e
    simp_all
  · exact congrArg wire

/-- Two times of day within the same second. -/
def TimeOfDay.SameSecond (s t : TimeOfDay) : Prop :=
  s.hour = t.hour ∧ s.minute = t.minute ∧ s.second = t.second

theorem TimeOfDay.wire_eq_iff {s t : TimeOfDay} : s.wire = t.wire ↔ s.SameSecond t := by
  constructor
  · intro same
    have chars := congrArg String.toList same
    simp only [wire, String.toList_append, List.append_assoc] at chars
    obtain ⟨hour, chars⟩ := (Text.padded_append_inj rfl rfl).mp chars
    obtain ⟨minute, chars⟩ := (Text.padded_append_inj rfl rfl).mp (List.append_cancel_left chars)
    have seconds := List.append_cancel_left chars
    rw [← List.append_nil (Text.padded 2 s.second).toList,
      ← List.append_nil (Text.padded 2 t.second).toList] at seconds
    obtain ⟨second, -⟩ := (Text.padded_append_inj rfl rfl).mp seconds
    exact ⟨hour, minute, second⟩
  · rintro ⟨hour, minute, second⟩
    simp only [wire, hour, minute, second]

end Thermostat
