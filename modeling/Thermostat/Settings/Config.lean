import Thermostat.Field
import Thermostat.Log.Journal
import Thermostat.Settings.Reader
import Thermostat.Settings.Substitution

/-! The configuration that settings describe. -/
namespace Thermostat.Settings

/-- What the program is configured by, and where it comes from. -/
structure Config where
  scale : TemperatureScale
  level : Text
  logPath : Option Path
  logRequests : Bool
  overrides : Entries Text Text
  store : Store
  source : Path

def loggerName : String := "ecobee_actions.config"

def defaultSource (accounts : Accounts) : Path :=
  ((accounts.home.enter ".config").enter "ecobee-actions").enter "ecobee-actions.cfg"

def canBeName : Value → Bool
  | .list _ => false
  | .dict _ => false
  | .event _ _ => false
  | _ => true

def noSection (name : Value) : Fault :=
  if canBeName name then
    match name.literal? with
    | some t => .unknownSection t
    | none => .unwritable
  else .notName name.typeName

/-- Whether a value stands for the defaults in place of the name of a section: their own name does, and
so do nothing, zero and what is empty. -/
def standsForDefaults : Value → Bool
  | .text l => l.content.isEmpty || l.content == defaultsName
  | v => !v.isTruthy

/-- Sets an option of a section to a value. Option and value must be texts, and so must a name that a
section has. A word is kept as it is written, not as its literal. -/
def Store.assign (s : Store) (name option value : Value) : Except Fault Store :=
  match option, value with
  | .text o, .text v => do
    checkValue v.content
    if standsForDefaults name then .ok (s.setDefault o.content v.plain)
    else
      let changed := match name with
        | .text n => s.setIn? n.content o.content v.plain
        | _ => none
      match changed with
      | some s => .ok s
      | none => .error (noSection name)
  | .text _, _ => .error .valueNotText
  | _, _ => .error .optionNotText

/-- The scale that a text names. One that is not known is reported and taken as Fahrenheit. -/
def readScale (text : Text) : List Log.Record × TemperatureScale :=
  match Field.parseScale (.text (.text text)) with
  | .ok scale => ([], scale)
  | .error _ =>
    ([{ level := .warning, logger := loggerName,
        message := some ("Unknown temperature_scale '" ++ text ++ "', falling back to Fahrenheit") }],
     .fahrenheit)

/-- The words for yes and no, in any case. -/
def readBoolean (text : Text) : Except Fault Bool :=
  let word := Text.lower text
  if ["1", "yes", "true", "on"].any (word == Text.ofString ·) then .ok true
  else if ["0", "no", "false", "off"].any (word == Text.ofString ·) then .ok false
  else .error (.notBoolean text)

/-- The path of a log file; a blank text names none. -/
def readLogPath (accounts : Accounts) (text : Text) : Except Fault (Option Path) :=
  if text.isEmpty then .ok none
  else
    match (Path.ofText text).expandHome accounts with
    | .ok p => .ok (some p)
    | .error e => .error (.noHome e)

def readRest (accounts : Accounts) (source : Path) (s : Store) (scale : TemperatureScale) :
    Except Fault Config := do
  let path := Text.trim (← s.value "logging" "path")
  let level ← s.value "logging" "level"
  let logPath ← readLogPath accounts path
  let logRequests ← readBoolean (← s.value "logging" "log_requests")
  let overrides := Log.readOverrides (← s.value "logging" "loggers")
  .ok ⟨scale, level, logPath, logRequests, overrides, s, source⟩

/-- The configuration that settings describe, with the records of what was not understood. -/
def Store.config (s : Store) (accounts : Accounts) (source : Path) :
    List Log.Record × Except Fault Config :=
  match s.value "ecobee" "temperature_scale" with
  | .error f => ([], .error f)
  | .ok text =>
    let (records, scale) := readScale text
    (records, readRest accounts source s scale)

inductive LoadError
  | fault (f : Fault)
  | obstacle (o : Obstacle)

namespace LoadError

def label : LoadError → String
  | fault f => f.label
  | obstacle o => o.label

def message : LoadError → Text
  | fault f => f.message
  | obstacle o => o.message

end LoadError

/-- The settings of a file; where there is none those hold that are there from the beginning. -/
def Store.load (folder : Folder) (source : Path) : Except LoadError Store :=
  match folder.read source with
  | .error o => .error (.obstacle o)
  | .ok none => .ok .initial
  | .ok (some text) => (Store.initial.read source text).mapError .fault

/-- Loads the configuration of a file, with the records of what was not understood. -/
def Config.load (accounts : Accounts) (folder : Folder) (source : Path) :
    List Log.Record × Except LoadError Config :=
  match Store.load folder source with
  | .error e => ([], .error e)
  | .ok s =>
    let (records, config) := s.config accounts source
    (records, config.mapError .fault)

inductive SaveError
  | obstacle (o : Obstacle)
  | unwritable (r : Text.HalfRun)

namespace SaveError

def label : SaveError → String
  | obstacle o => o.label
  | unwritable _ => Text.HalfRun.label

def message : SaveError → String
  | obstacle o => o.message
  | unwritable r => r.message

end SaveError

/-- Writes parts one after the other, up to the first that cannot be written: what is written, and what
is wrong with that part. -/
def writeParts : List Text → String × Option Text.HalfRun
  | [] => ("", none)
  | t :: ts =>
    match t.toString?, Text.unwritable? t with
    | some s, _ =>
      let (more, fault) := writeParts ts
      (s ++ more, fault)
    | none, fault => ("", fault)

/-- Writes the settings of a configuration back to where they come from, with the directories that are
missing on the way. -/
def Config.save (c : Config) (folder : Folder) : Folder × Option SaveError :=
  match folder.makeDirectories c.source.parent with
  | (folder, some o) => (folder, some (.obstacle o))
  | (folder, none) =>
    let (text, fault) := writeParts c.store.write
    match folder.write c.source text with
    | .ok folder => (folder, fault.map .unwritable)
    | .error o => (folder, some (.obstacle o))

def Config.logSettings (c : Config) : Log.Settings :=
  { level := c.level, path := c.logPath, logRequests := c.logRequests, overrides := c.overrides }

end Thermostat.Settings
