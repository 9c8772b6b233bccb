import Thermostat.Log.Overrides

/-! Loggers by dotted names: a logger without a level of its own takes that of the nearest logger above it. -/
namespace Thermostat.Log

def rootName : String := "root"

def isRoot (name : Text) : Bool := name.isEmpty || name == rootName

/-- All loggers that were asked for, oldest first, each with its own level, and the level at the top. -/
structure Hierarchy where
  root : Level
  loggers : List (Text × Level)
deriving DecidableEq

namespace Hierarchy

def initial : Hierarchy := ⟨Level.warning, []⟩

/-- The last place of a dot in the first n code points. -/
def lastDot? (ps : List CodePoint) (n : Nat) : Option Nat :=
  ((List.range (min n ps.length)).reverse).find? fun i => ps[i]? == some (.char '.')

/-- The names above a name that ends before place n, nearest first. Of two dots side by side the
second one cuts nothing off, and a name never starts at a dot. -/
def above (ps : List CodePoint) : Nat → Nat → List Text
  | 0, _ => []
  | fuel + 1, n =>
    match lastDot? ps n with
    | none => []
    | some i => if i == 0 then [] else ⟨ps.take i⟩ :: above ps fuel (i - 1)

def ancestors (name : Text) : List Text := above name.points name.length name.length

/-- Whether a logger takes loggers under it that were there before: not if its name begins the
name of the logger at the top. -/
def adopts (name : Text) : Bool := !name.points.isPrefixOf (Text.ofString rootName).points

def knows (h : Hierarchy) (name : Text) : Bool := h.loggers.any fun l => l.1 == name

/-- The loggers known before a logger was. -/
def olderThan (h : Hierarchy) (name : Text) : List (Text × Level) :=
  h.loggers.takeWhile fun l => l.1 != name

/-- The known loggers above a logger, nearest first. -/
def parents (h : Hierarchy) (name : Text) : List Text :=
  (ancestors name).filter fun a =>
    h.knows a && (adopts a || (h.olderThan name).any fun l => l.1 == a)

/-- The logger right above a known logger; none if that is the one at the top. -/
def parent? (h : Hierarchy) (name : Text) : Option Text := (h.parents name).head?

/-- Makes a logger known; it has no level of its own at first. -/
def add (h : Hierarchy) (name : Text) : Hierarchy :=
  if isRoot name || h.knows name then h
  else { h with loggers := h.loggers ++ [(name, Level.notset)] }

def ownLevel (h : Hierarchy) (name : Text) : Level :=
  if isRoot name then h.root else (Entries.get? h.loggers name).getD Level.notset

def setLevel (h : Hierarchy) (name : Text) (level : Level) : Hierarchy :=
  if isRoot name then { h with root := level }
  else { h with loggers := Entries.set name level (h.add name).loggers }

/-- The first own level that is set on the way to the top, going up at most so many steps. -/
def levelFrom (h : Hierarchy) : Nat → Text → Level
  | 0, _ => h.root
  | fuel + 1, name =>
    let own := h.ownLevel name
    if own != Level.notset then own
    else
      match h.parent? name with
      | some p => levelFrom h fuel p
      | none => h.root

def effectiveLevel (h : Hierarchy) (name : Text) : Level :=
  if isRoot name then h.root else levelFrom h (name.length + 1) name

/-- Whether a logger passes records of a level on; those without any level never pass. -/
def isEnabled (h : Hierarchy) (name : Text) (level : Level) : Bool :=
  Level.notset < level && h.effectiveLevel name ≤ level

end Hierarchy

end Thermostat.Log
