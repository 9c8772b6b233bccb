import Thermostat.Text.Point

/-! Log records and their levels. -/
namespace Thermostat.Log

/-- A level of urgency; greater is more urgent. -/
abbrev Level : Type := Int

namespace Level

def notset : Level := 0
def debug : Level := 10
def info : Level := 20
def warning : Level := 30
def error : Level := 40
def critical : Level := 50

def name (n : Level) : String :=
  if n == critical then "CRITICAL"
  else if n == error then "ERROR"
  else if n == warning then "WARNING"
  else if n == info then "INFO"
  else if n == debug then "DEBUG"
  else if n == notset then "NOTSET"
  else "Level " ++ toString n

/-- Names that stand for a level, two of them second names. -/
def names : List (String × Level) :=
  [("CRITICAL", critical), ("FATAL", critical), ("ERROR", error), ("WARNING", warning),
   ("WARN", warning), ("INFO", info), ("DEBUG", debug), ("NOTSET", notset)]

def ofName? (t : Text) : Option Level := (names.find? fun e => t == Text.ofString e.1).map (·.2)

end Level

/-- The failure that a record reports: its kind and its message. -/
structure Cause where
  kind : String
  message : Text
deriving DecidableEq

/-- What is logged. A record has no message where a value that belongs into it cannot be written. -/
structure Record where
  level : Level
  logger : Text
  message : Option Text
  cause : Option Cause := none
deriving DecidableEq

def above (threshold : Level) (records : List Record) : List Record :=
  records.filter fun r => threshold ≤ r.level

end Thermostat.Log
