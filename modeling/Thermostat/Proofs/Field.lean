import Thermostat.Proofs.Temperature
import Thermostat.Proofs.Value.Number
import Thermostat.Proofs.Value.Writable

/-! How reading a single argument fails: by refusing it, unless a number in it is too long to be
written or, for a temperature, too large to be converted. -/
namespace Thermostat

/-- A step that fails in no other way than by refusing an argument. -/
def OnlyRefuses {α : Type} (x : Except Fault α) : Prop := ∀ f, x = .error f → ∃ r, f = .rejected r

namespace OnlyRefuses

variable {α β : Type}

theorem ok (a : α) : OnlyRefuses (.ok a) := nofun

/-- A refusal that can be worded is one. -/
theorem refuse {r : Rejection} (worded : ∃ t, r.message = .ok t) :
    OnlyRefuses (refuse r : Except Fault α) := by
  obtain ⟨t, worded⟩ := worded
  exact FailsIn.error ⟨r, by rw [Fault.ofRejection, worded]⟩

theorem bind {x : Except Fault α} {f : α → Except Fault β} (first : OnlyRefuses x)
    (rest : ∀ a, x = .ok a → OnlyRefuses (f a)) : OnlyRefuses (x >>= f) := FailsIn.bind first rest

theorem map {x : Except Fault α} (only : OnlyRefuses x) (f : α → β) : OnlyRefuses (x.map f) :=
  FailsIn.map only f

theorem optional {v : Value} {parse : Value → Except Fault α} (only : OnlyRefuses (parse v)) :
    OnlyRefuses (Field.optional v parse) := by
  unfold Field.optional
  split
  · exact ok none
  · exact only.map some

end OnlyRefuses

/-- A value that, if it is read as a number of degrees, is one that can be converted. -/
def Value.Temperate (v : Value) : Prop :=
  ∀ parameter d, Field.toDecimal v parameter = .ok d → |d.toRat| ≤ Temperature.safeDegrees

namespace Field

variable {v : Value} {parameter : Text}

theorem exists_expected (what : String) (short : v.Short) :
    ∃ t, Rejection.expected parameter what v = .ok t := by
  obtain ⟨t, literal⟩ := Option.isSome_iff_exists.mp (Value.literal?_isSome v short)
  exact ⟨_, by rw [Rejection.expected, literal, Rejection.worded]⟩

theorem requireBool_only (short : v.Short) : OnlyRefuses (requireBool v parameter) := by
  unfold requireBool
  split
  · exact .ok _
  · exact .refuse (exists_expected _ short)

theorem requireText_only : OnlyRefuses (requireText v parameter) := by
  unfold requireText
  split
  · split
    · exact .refuse ⟨_, rfl⟩
    · exact .ok _
  · exact .refuse ⟨_, rfl⟩

theorem toDecimal_only (short : v.Short) : OnlyRefuses (toDecimal v parameter) := by
  have notNumeric : ∃ t, (Rejection.notNumeric v parameter).message = .ok t := exists_expected _ short
  obtain ⟨t, plain⟩ := Value.exists_plain short
  unfold toDecimal
  split
  · exact .refuse notNumeric
  · exact .refuse notNumeric
  · rw [plain]
    dsimp only
    split
    · exact .refuse notNumeric
    · exact .ok _
    · exact .refuse (exists_expected _ short)

theorem requireInt_only (short : v.Short) : OnlyRefuses (requireInt v parameter) := by
  unfold requireInt
  cases v with
  | int n => exact .ok n
  | float _ | decimal _ | number _ =>
    refine .bind (toDecimal_only short) fun d _ => ?_
    split
    · exact .ok _
    · exact .refuse (exists_expected _ short)
  | _ => exact .refuse (exists_expected _ short)

theorem parseWord_only {α : Type} [Vocabulary α] {title : Option Text} (short : v.Short) :
    OnlyRefuses (parseWord α v title) := by
  have unlisted : OnlyRefuses (refuse (.notListed v (Vocabulary.title α) (Vocabulary.choices α) title) :
      Except Fault α) := by
    obtain ⟨t, plain⟩ := Value.exists_plain short
    exact .refuse ⟨_, congrArg (Except.map _) plain⟩
  unfold parseWord
  dsimp only
  split
  · split
    · exact .ok _
    · exact unlisted
  · split
    · exact .ok _
    · split
      · exact .ok _
      · exact unlisted
  · exact unlisted

/-- A reading in range is converted or refused. -/
theorem temperature_only {scale : TemperatureScale} {relative : Bool} (short : v.Short)
    (temperate : v.Temperate) : OnlyRefuses (temperature v scale relative parameter) := by
  refine .bind (toDecimal_only short) fun d read => ?_
  obtain ⟨t, converted⟩ := Temperature.ofDegrees_ok scale relative (temperate parameter d read)
  rw [converted]
  exact .ok t

/-- A reading far out of range is neither converted nor refused. -/
theorem temperature_signal {scale : TemperatureScale} {relative : Bool} {d : Decimal}
    (read : toDecimal v parameter = .ok d) (extreme : (Temperature.extremeDegrees : ℚ) ≤ |d.toRat|) :
    ∃ s, temperature v scale relative parameter = .error (.signal s) := by
  obtain ⟨s, failed⟩ := Temperature.ofDegrees_error scale relative extreme
  refine ⟨s, ?_⟩
  unfold temperature
  rw [read]
  change arithmetic (Temperature.ofDegrees scale relative d) = _
  rw [failed]
  rfl

end Field

end Thermostat
