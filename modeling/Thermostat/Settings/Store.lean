import Thermostat.Entries
import Thermostat.Settings.Fault
import Thermostat.Text.Case

/-! Settings as they are kept: sections of options, and defaults that every section falls back on. -/
namespace Thermostat.Settings

def defaultsName : Text := "DEFAULT"

/-- Options by name with their values as written. -/
abbrev Options : Type := Entries Text Text

/-- Sections in order, and the defaults. -/
structure Store where
  defaults : Options
  sections : Entries Text Options
deriving DecidableEq

def optionName (t : Text) : Text := Text.lower t

namespace Store

def initial : Store :=
  ⟨[], [("ecobee", [("temperature_scale", "F")]),
        ("logging", [("level", "INFO"), ("path", ""), ("log_requests", "false"), ("loggers", "")])]⟩

def options (s : Store) (name : Text) : Options := (Entries.get? s.sections name).getD []

/-- The value of an option as written, in the section or else among the defaults. -/
def raw? (s : Store) (name option : Text) : Option Text :=
  match Entries.get? (s.options name) option with
  | some v => some v
  | none => Entries.get? s.defaults option

/-- Names of all options of a section, its own first. -/
def optionNames (s : Store) (name : Text) : List Text :=
  let own := s.options name
  own.map (·.1) ++ (s.defaults.filter fun d => !Entries.has own d.1).map (·.1)

/-- Drops percent signs that stand in pairs. -/
def dropPairs : List CodePoint → List CodePoint
  | .char '%' :: .char '%' :: ps => dropPairs ps
  | p :: ps => p :: dropPairs ps
  | [] => []

/-- What follows a reference at the front: a name in brackets with a letter behind it. -/
def afterReference? : List CodePoint → Option (Text × List CodePoint)
  | .char '%' :: .char '(' :: ps =>
    match Text.cutAt? (· == .char ')') ps with
    | some (name, .char 's' :: rest) => if name.isEmpty then none else some (⟨name⟩, rest)
    | _ => none
  | _ => none

/-- Drops all references; at most so many code points are looked at. -/
def dropReferences : Nat → List CodePoint → List CodePoint
  | 0, ps => ps
  | _ + 1, [] => []
  | fuel + 1, p :: ps =>
    match afterReference? (p :: ps) with
    | some (_, rest) => dropReferences fuel rest
    | none => p :: dropReferences fuel ps

/-- A value may hold percent signs only in pairs and in references. -/
def checkValue (value : Text) : Except Fault Unit :=
  let left := dropReferences value.length (dropPairs value.points)
  if left.contains (.char '%') then
    .error (.badPercent value (left.takeWhile (· != .char '%')).length)
  else .ok ()

def setDefault (s : Store) (option value : Text) : Store :=
  { s with defaults := Entries.set (optionName option) value s.defaults }

def setIn? (s : Store) (name option value : Text) : Option Store :=
  (Entries.get? s.sections name).map fun os =>
    { s with sections := Entries.set name (Entries.set (optionName option) value os) s.sections }

/-- A line end inside a value is followed by a tab, which makes the next line continue the value. -/
def writeValue (value : Text) : Text :=
  ⟨value.points.flatMap fun p => if p == .char '\n' then [p, .char '\t'] else [p]⟩

/-- The parts in which a section is written: its header, its options, an empty line. -/
def writeSection (name : Text) (os : Options) : List Text :=
  let header : Text := "[" ++ name ++ "]\n"
  let lines : List Text := os.map fun (k, v) => k ++ " = " ++ writeValue v ++ "\n"
  header :: lines ++ [Text.ofString "\n"]

/-- The parts in which settings are written; the defaults stand first, if there are any. -/
def write (s : Store) : List Text :=
  (if s.defaults.isEmpty then [] else writeSection defaultsName s.defaults) ++
    s.sections.flatMap fun (name, os) => writeSection name os

end Store

end Thermostat.Settings
