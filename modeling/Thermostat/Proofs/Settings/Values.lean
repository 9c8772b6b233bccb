import Thermostat.Proofs.Entries
import Thermostat.Proofs.Steps
import Thermostat.Settings.Config

/-! Which settings a configuration is read from: the options of its two sections, and the defaults. -/
namespace Thermostat.Settings

variable {s s' : Store} {name option raw : Text} {accounts : Accounts} {source : Path}

theorem expand_congr (same : ∀ key, s'.raw? name key = s.raw? name key) (depth : Nat) (value : Text) :
    expand s' name option raw depth value = expand s name option raw depth value := by
  induction depth generalizing value with
  | zero => rfl
  | succ depth ih => simp only [expand, same, ih]

/-- The value of an option depends on nothing but what its section and the defaults hold. -/
theorem Store.value_congr (same : ∀ key, s'.raw? name key = s.raw? name key) (option : Text) :
    s'.value name option = s.value name option := by
  simp only [value, same, expand_congr same]

theorem readRest_congr (same : ∀ key, s'.raw? "logging" key = s.raw? "logging" key)
    (scale : TemperatureScale) :
    readRest accounts source s' scale =
      (readRest accounts source s scale).map fun c => { c with store := s' } := by
  unfold readRest
  simp only [Store.value_congr same, map_bind]
  rfl

/-- Settings with the same values in the sections of the program describe the same configuration, and
nothing else is reported of them. -/
theorem Store.config_congr (scale : ∀ key, s'.raw? "ecobee" key = s.raw? "ecobee" key)
    (logging : ∀ key, s'.raw? "logging" key = s.raw? "logging" key) :
    s'.config accounts source = ((s.config accounts source).1,
      (s.config accounts source).2.map fun c => { c with store := s' }) := by
  unfold config
  rw [Store.value_congr scale]
  split
  · rfl
  · simp only [readRest_congr logging]

/-- What a section holds does not depend on a section behind it that has another name. -/
theorem Store.raw?_append {other : Text} {os : Options} (ne : other ≠ name) (key : Text) :
    ({ s with sections := s.sections ++ [(other, os)] } : Store).raw? name key = s.raw? name key := by
  have own : ({ s with sections := s.sections ++ [(other, os)] } : Store).options name =
      s.options name := by
    rw [options, options, Entries.get?_append, Entries.get?_cons, if_neg ne, Entries.get?_nil,
      Option.or_none]
  rw [raw?, raw?, own]

end Thermostat.Settings
