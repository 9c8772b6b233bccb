import Thermostat.Folder

/-! Log files of limited size. A file that would grow too large is moved aside, and three older ones are kept. -/
namespace Thermostat.Log

/-- Files with their texts, by their places. -/
abbrev Files : Type := Entries Path String

namespace Files

def maxSize : Nat := 1000000

def backups : Nat := 3

/-- Place of an older file; greater numbers are older. -/
def backupPlace (place : Path) (n : Nat) : Path :=
  if n == 0 then place else place.extend ("." ++ toString n)

/-- Moves what is at a place on to the next one and drops the file that is there. A directory there, or
a name or a path that is too long, is in the way. -/
def shift (source target : Path) (f : Folder) : Option Folder :=
  if !f.isOccupied source then some f
  else if f.isDirectory target || f.isTooLong target then none
  else some (Folder.move source target { f with files := f.files.erase target })

/-- Moves the file and the older ones on by one number; the oldest is lost. What is in the way shows
before anything is moved. -/
def rotate (place : Path) (f : Folder) : Option Folder := do
  let moved ← ((List.range backups).reverse).foldlM
    (fun f n => shift (backupPlace place n) (backupPlace place (n + 1)) f) f
  some { moved with files := moved.files.set place "" }

def ensure (place : Path) (fs : Files) : Files := if fs.has place then fs else fs.set place ""

/-- Makes room for a line: the bytes of the file and the code points of the line must stay below the
limit together. -/
def makeRoom (place : Path) (line : Text) (f : Folder) : Option Folder :=
  if ((f.files.get? place).getD "").utf8ByteSize + line.length < maxSize then some f
  else rotate place f

/-- Adds a line. It is lost where no room can be made; one that holds a half of a pair cannot be written,
but room is made for it. -/
def append (place : Path) (line : Text) (f : Folder) : Folder :=
  match makeRoom place line f with
  | none => f
  | some f =>
    match line.toString? with
    | some s => { f with files := f.files.set place ((f.files.get? place).getD "" ++ s) }
    | none => f

end Files

end Thermostat.Log
