import Thermostat.Entries
import Thermostat.Log.Record
import Thermostat.Text.Blank
import Thermostat.Text.Case
import Thermostat.Text.Split

/-! Levels given as text: single levels by name, and overrides for loggers. -/
namespace Thermostat.Log

/-- The level that a text names in any case, or the default where it names none. -/
def Level.resolve (text : Text) (default : Level) : Level :=
  (ofName? (Text.upper (Text.trim text))).getD default

def Level.ofText (text : Text) : Level := Level.resolve text Level.info

/-- One override: a name and a level around the first equals sign, neither of them blank. -/
def readOverride? (entry : List CodePoint) : Option (Text × Text) := do
  let (name, level) ← Text.cutAt? (· == .char '=') entry
  let name := Text.trim ⟨name⟩
  let level := Text.trim ⟨level⟩
  if name.isEmpty || level.isEmpty then none
  else some (name, Text.upper level)

/-- The overrides of a text, separated by commas or line ends; what is no override is passed over. -/
def readOverrides (text : Text) : Entries Text Text :=
  let entries := Text.splitAt (fun p => p == .char ',' || p == .char '\n') text.points
  Entries.setAll [] (entries.filterMap readOverride?)

end Thermostat.Log
