import Thermostat.Log.Files
import Thermostat.Log.Hierarchy

/-! Logging as a whole: which records are written, to the console and to a file. -/
namespace Thermostat.Log

/-- The state of logging, before and after it is configured. A log file is known by its place. -/
structure Journal where
  hierarchy : Hierarchy
  configured : Bool
  file : Option Path
  folder : Folder

/-- What logging is configured by. The level and the overrides are given as texts. -/
structure Settings where
  level : Text := "INFO"
  path : Option Path := none
  logRequests : Bool := false
  overrides : Entries Text Text := []

def requestLogger : String := "ecobee_actions.actions"

/-- A written record: time, level, logger and message, then the failure that it reports. The line that
begins with EXC stands in for the traceback, which spells the calls on the way to the failure as well. A
record without a message is not written. -/
def line? (stamp : Text) (r : Record) : Option Text :=
  r.message.map fun message =>
    .join [stamp, " | ", Level.name r.level, " | ", r.logger, " | ", message, "\n",
      match r.cause with
        | some c => .join ["EXC ", c.kind, ": ", c.message, "\n"]
        | none => ""]

/-- Opens a log file: makes its directory, and the file itself where the path leads to without a look
at any directory. The file is asked for by its whole path. -/
def openFile (folder : Folder) (p : Path) : Folder × Except Obstacle Path :=
  match folder.makeDirectories p.parent with
  | (folder, some o) => (folder, .error o)
  | (folder, none) =>
    match folder.filePlace p.place with
    | .error o => (folder, .error o)
    | .ok place =>
      if folder.isTooLong place then (folder, .error ⟨.tooLong, folder.whole place⟩)
      else ({ folder with files := Files.ensure place folder.files }, .ok place)

namespace Journal

def initial (folder : Folder) : Journal := ⟨.initial, false, none, folder⟩

/-- Sets the levels below the top: the trace of requests is held back unless it is asked for, and the
overrides come last. -/
def setLevels (s : Journal) (c : Settings) : Journal :=
  let h := s.hierarchy.setLevel requestLogger (if c.logRequests then Level.notset else Level.info)
  { s with hierarchy := c.overrides.foldl (fun h o => h.setLevel o.1 (Level.ofText o.2)) h }

/-- Configures logging anew: the level at the top, the console, perhaps a file, then the other levels.
Where the file cannot be opened nothing more is set. -/
def configure (s : Journal) (c : Settings) : Journal × Option Obstacle :=
  let s := { s with
    hierarchy := s.hierarchy.setLevel rootName (Level.ofText c.level), configured := true, file := none }
  match c.path with
  | none => (s.setLevels c, none)
  | some p =>
    match openFile s.folder p with
    | (folder, .error o) => ({ s with folder := folder }, some o)
    | (folder, .ok place) => ({ s with folder := folder, file := some place }.setLevels c, none)

/-- Writes a record: the new state, and what the console shows. Before logging is configured only
the bare message of a warning or worse is shown. -/
def write (s : Journal) (stamp : Text) (r : Record) : Journal × Text :=
  let s := { s with hierarchy := s.hierarchy.add r.logger }
  if !s.hierarchy.isEnabled r.logger r.level then (s, "")
  else if !s.configured then
    (s, match r.message with
      | some message => if Level.warning ≤ r.level then message ++ "\n" else ""
      | none => "")
  else
    match line? stamp r, s.file with
    | none, _ => (s, "")
    | some text, none => (s, text)
    | some text, some place => ({ s with folder := Files.append place text s.folder }, text)

def log (s : Journal) (stamp logger : Text) (level : Level) (message : Text) : Journal × Text :=
  s.write stamp
    { level := level, logger := if isRoot logger then rootName else logger, message := some message }

def writeAll (s : Journal) (stamp : Text) (records : List Record) : Journal × Text :=
  records.foldl
    (fun (s, shown) r => let (s, text) := s.write stamp r; (s, shown ++ text)) (s, "")

end Journal

end Thermostat.Log
