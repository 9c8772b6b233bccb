import Thermostat.Settings.Store
import Thermostat.Text.Blank

/-! Reading the text of settings, line by line: headers, options, and lines that continue a value. -/
namespace Thermostat.Settings

/-- The lines of a text with their ends; all three kinds of line ends become one. -/
def linesOf : List CodePoint → List (List CodePoint)
  | .char '\r' :: .char '\n' :: ps => [.char '\n'] :: linesOf ps
  | p :: ps =>
    if p == .char '\n' || p == .char '\r' then [.char '\n'] :: linesOf ps
    else
      match linesOf ps with
      | [] => [[p]]
      | line :: lines => (p :: line) :: lines
  | [] => []

inductive Target
  | nowhere
  | defaults
  | inSection (name : Text)
deriving DecidableEq

/-- Values while they are read: their lines in reverse order. -/
abbrev Pending : Type := Entries Text (List Text)

/-- The state between two lines. -/
structure Reading where
  defaults : Pending
  sections : Entries Text Pending
  target : Target
  /-- The option that a line can continue. -/
  option : Option Text
  /-- Depth of the last line that began something. -/
  indent : Nat
  headers : List Text
  options : List (Text × Text)
  malformed : List (Nat × Text)

namespace Reading

def start (s : Store) : Reading :=
  let pend (os : Options) : Pending := os.map fun (k, v) => (k, [v])
  { defaults := pend s.defaults, sections := s.sections.map fun (n, os) => (n, pend os),
    target := .nowhere, option := none, indent := 0, headers := [], options := [], malformed := [] }

def update (r : Reading) (f : Pending → Pending) : Reading :=
  match r.target with
  | .nowhere => r
  | .defaults => { r with defaults := f r.defaults }
  | .inSection name =>
    { r with sections := Entries.set name (f ((Entries.get? r.sections name).getD [])) r.sections }

def isOpen (r : Reading) : Bool :=
  r.target != .nowhere && (match r.option with | some o => !o.isEmpty | none => false)

def extend (r : Reading) (line : Text) : Reading :=
  match r.option with
  | some o =>
    if r.isOpen then r.update fun os => Entries.set o (line :: (Entries.get? os o).getD []) os
    else r
  | none => r

/-- The name in a header: all between the first bracket and the last, at least one character. -/
def header? : List CodePoint → Option Text
  | .char '[' :: ps =>
    let name := ((ps.reverse.dropWhile (· != .char ']')).drop 1).reverse
    if name.isEmpty then none else some ⟨name⟩
  | _ => none

def targetName (r : Reading) : Text :=
  match r.target with
  | .inSection name => name
  | _ => defaultsName

/-- Goes to a section. A section may be entered once, but the defaults any number of times. -/
def enter (source : Path) (r : Reading) (number : Nat) (name : Text) : Except Fault Reading :=
  if name == defaultsName then .ok { r with target := .defaults, option := none }
  else if r.headers.contains name then .error (.duplicateSection source name number)
  else
    let sections := if Entries.has r.sections name then r.sections else r.sections ++ [(name, [])]
    .ok { r with sections := sections, target := .inSection name, option := none,
                 headers := name :: r.headers }

/-- Begins an option. One without a name is malformed, and still counts for duplicates. -/
def addOption (source : Path) (r : Reading) (number : Nat) (line name value : Text) :
    Except Fault Reading :=
  let option := optionName (Text.trimRight name)
  let r := if name.isEmpty then { r with malformed := r.malformed ++ [(number, line)] } else r
  if r.options.contains (r.targetName, option) then
    .error (.duplicateOption source r.targetName option number)
  else
    let r := { r with option := some option, options := (r.targetName, option) :: r.options }
    .ok (r.update (Entries.set option [Text.trim value]))

/-- Reads one line. Comments have no effect; an empty line belongs to an open value. -/
def line (source : Path) (r : Reading) (number : Nat) (ps : List CodePoint) :
    Except Fault Reading :=
  let content := Text.trimPoints ps
  match content with
  | [] => .ok (r.extend "")
  | p :: _ =>
    if p == .char '#' || p == .char ';' then .ok r
    else
      let indent := (ps.takeWhile Text.isBlankPoint).length
      if r.isOpen && r.indent < indent then .ok (r.extend ⟨content⟩)
      else
        let r := { r with indent := indent }
        match header? content with
        | some name => r.enter source number name
        | none =>
          if r.target == .nowhere then .error (.missingHeader source number ⟨ps⟩)
          else
            match Text.cutAt? (fun p => p == .char '=' || p == .char ':') content with
            | some (name, value) => r.addOption source number ⟨ps⟩ (Text.trimRight ⟨name⟩) ⟨value⟩
            | none => .ok { r with malformed := r.malformed ++ [(number, ⟨ps⟩)] }

def lines (source : Path) (r : Reading) : Nat → List (List CodePoint) → Except Fault Reading
  | _, [] => .ok r
  | number, ps :: rest => do
    let r ← r.line source number ps
    lines source r (number + 1) rest

/-- The lines of a value joined, without white space at the end. -/
def finish (r : Reading) : Store :=
  let close (os : Pending) : Options :=
    os.map fun (k, ls) => (k, Text.trimRight (.intercalate "\n" ls.reverse))
  ⟨close r.defaults, r.sections.map fun (n, os) => (n, close os)⟩

end Reading

/-- Reads a text over given settings. Malformed lines are reported all together at the end. -/
def Store.read (s : Store) (source : Path) (text : Text) : Except Fault Store := do
  let r ← (Reading.start s).lines source 1 (linesOf text.points)
  if r.malformed.isEmpty then .ok r.finish else .error (.malformed source r.malformed)

end Thermostat.Settings
