import Thermostat.Entries
import Thermostat.Path
import Thermostat.Text.Encoding

/-! Files and directories: what paths lead to among them, and what stands in the way. -/
namespace Thermostat

/-- The ways in which a path leads nowhere, or not to what is asked for. -/
inductive Obstruction
  | missing
  /-- Something that is no directory stands where the path goes on. -/
  | notDirectory
  | alreadyThere
  | isDirectory
  | tooLong
  | nullCharacter
  /-- A half of a pair that no path can hold. -/
  | unusable (r : Text.HalfRun)
deriving DecidableEq

/-- A path with what stands in its way. -/
structure Obstacle where
  obstruction : Obstruction
  path : Path

namespace Obstacle

def label (o : Obstacle) : String :=
  match o.obstruction with
  | .missing => "FileNotFoundError"
  | .notDirectory => "NotADirectoryError"
  | .alreadyThere => "FileExistsError"
  | .isDirectory => "IsADirectoryError"
  | .tooLong => "OSError"
  | .nullCharacter => "ValueError"
  | .unusable _ => Text.HalfRun.label

def message (o : Obstacle) : String :=
  let numbered (number : Nat) (words : String) : String :=
    "[Errno " ++ toString number ++ "] " ++ words ++ ": " ++ Text.quoted o.path.text
  match o.obstruction with
  | .missing => numbered 2 "No such file or directory"
  | .notDirectory => numbered 20 "Not a directory"
  | .alreadyThere => numbered 17 "File exists"
  | .isDirectory => numbered 21 "Is a directory"
  | .tooLong => numbered 36 "File name too long"
  | .nullCharacter => "embedded null byte"
  | .unusable r => r.message

end Obstacle

/-- The working directory, files by their places, and places of directories. Places are those from the
working directory, unless they begin with a root. The directories above these files and directories are
there too, and so are the working directory, the root and all directories above them. -/
structure Folder where
  working : Path
  files : Entries Path String
  directories : List Path

namespace Folder

/-- No files and no directories; the working directory is the root. -/
def empty : Folder := ⟨.ofText "/", [], []⟩

def maxPart : Nat := 255

def maxPath : Nat := 4095

def byteSize (t : Text) : Nat :=
  t.points.foldl (fun n p => n + (p.toChar?.map Char.utf8Size).getD 1) 0

/-- Whether one place is another one or lies above it. -/
def isUpTo (a b : Path) : Bool := a.root == b.root && a.parts.isPrefixOf b.parts

def isFile (f : Folder) (place : Path) : Bool := f.files.has place

def isDirectory (f : Folder) (place : Path) : Bool :=
  place.parts.all (· == Path.upward) || f.directories.any (isUpTo place) ||
    f.files.any fun e => isUpTo place e.1.parent

/-- Goes on from a place. All parts but the last must lead to directories. -/
def follow (f : Folder) (place : Path) : List Text → Except Obstruction Path
  | [] => .ok place
  | part :: rest =>
    if f.isDirectory place then
      if maxPart < byteSize part then .error .tooLong else follow f (place.enter part) rest
    else .error (if f.isFile place then .notDirectory else .missing)

/-- The place that a path leads to; whether anything is there is another question. -/
def find (f : Folder) (p : Path) : Except Obstruction Path :=
  match Text.unusable? p.text with
  | some r => .error (.unusable r)
  | none =>
    if p.text.points.contains (.char '\x00') then .error .nullCharacter
    else if maxPath < byteSize p.text then .error .tooLong
    else f.follow p.start p.parts

/-- The text of the file that a path leads to, if it leads to one. -/
def read (f : Folder) (p : Path) : Except Obstacle (Option String) :=
  match f.find p with
  | .ok place => .ok (f.files.get? place)
  | .error .tooLong => .error ⟨.tooLong, p⟩
  | .error _ => .ok none

def filePlace (f : Folder) (p : Path) : Except Obstacle Path :=
  match f.find p with
  | .ok place => if f.isDirectory place then .error ⟨.isDirectory, p⟩ else .ok place
  | .error o => .error ⟨o, p⟩

def write (f : Folder) (p : Path) (text : String) : Except Obstacle Folder := do
  let place ← f.filePlace p
  .ok { f with files := f.files.set place text }

/-- Makes a directory unless it is there. -/
def makeDirectory (f : Folder) (p : Path) : Except Obstacle Folder :=
  match f.find p with
  | .error o => .error ⟨o, p⟩
  | .ok place =>
    if f.isDirectory place then .ok f
    else if f.isFile place then .error ⟨.alreadyThere, p⟩
    else .ok { f with directories := f.directories ++ [place] }

/-- Makes a directory, and first those that are missing on the way to it. What was made before an
obstacle stays. -/
def makeDirectories (f : Folder) (p : Path) : Folder × Option Obstacle :=
  match f.makeDirectory p with
  | .ok made => (made, none)
  | .error ⟨.missing, q⟩ =>
    if _ : p.parts.length = 0 then (f, some ⟨.missing, q⟩)
    else
      match makeDirectories f p.parent with
      | (above, some o) => (above, some o)
      | (above, none) =>
        match above.makeDirectory p with
        | .ok made => (made, none)
        | .error o => (above, some o)
  | .error o => (f, some o)
termination_by p.parts.length
decreasing_by
  simp only [Path.parent, List.length_dropLast]
  omega

def isOccupied (f : Folder) (place : Path) : Bool := f.isFile place || f.isDirectory place

/-- The path of a place from the root on. Parts of the place that lead upwards take back parts of the
working directory. -/
def whole (f : Folder) (place : Path) : Path :=
  if place.isRelative then
    let upwards := (place.parts.takeWhile (· == Path.upward)).length
    { f.working with
      parts := f.working.parts.take (f.working.parts.length - upwards) ++ place.parts.drop upwards }
  else place

/-- Whether no file can stand at a place: its name or its whole path is too long. -/
def isTooLong (f : Folder) (place : Path) : Bool :=
  (place.parts.getLast?.any fun part => maxPart < byteSize part) ||
    maxPath < byteSize (f.whole place).text

/-- Where a place goes when what is at another one is moved: it goes along if it is that place, or below
it. -/
def carry (source target place : Path) : Path :=
  if isUpTo source place then
    { target with parts := target.parts ++ place.parts.drop source.parts.length }
  else place

/-- Moves a file, or a directory with all that is in it, to a free place. -/
def move (source target : Path) (f : Folder) : Folder :=
  { f with
    files := f.files.map fun e => (carry source target e.1, e.2),
    directories := f.directories.map (carry source target) }

/-- Puts a file where a path leads; all parts on the way lead to directories from then on. -/
def put (f : Folder) (p : Path) (text : String) : Folder :=
  let onTheWay := (List.range p.parts.length).map fun n =>
    Path.place { p with parts := p.parts.take n }
  { f with files := f.files.set p.place text, directories := f.directories ++ onTheWay }

end Folder

end Thermostat
