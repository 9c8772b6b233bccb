import Thermostat.Entries
import Thermostat.Text.Encoding
import Thermostat.Text.Split

/-! Paths of files, as they are written and as they are followed. -/
namespace Thermostat

/-- A path: its root, empty for a path from the working directory, and its parts. -/
structure Path where
  root : String
  parts : List Text
deriving DecidableEq

namespace Path

/-- The root of a path: none, one slash, or two where there are exactly two. -/
def rootOf (ps : List CodePoint) : String :=
  match (ps.takeWhile (· == .char '/')).length with
  | 0 => ""
  | 2 => "//"
  | _ => "/"

/-- Reads a path; empty parts and single dots stand for nothing. -/
def ofText (t : Text) : Path :=
  let parts := (Text.splitAt (· == .char '/') t.points).map Text.mk
  ⟨rootOf t.points, parts.filter fun p => !p.isEmpty && p != "."⟩

def text (p : Path) : Text :=
  if p.root.isEmpty && p.parts.isEmpty then "." else p.root ++ Text.intercalate "/" p.parts

def isRelative (p : Path) : Bool := p.root.isEmpty

def start (p : Path) : Path := { p with parts := [] }

def parent (p : Path) : Path := { p with parts := p.parts.dropLast }

def upward : Text := ".."

/-- One step further, to a file of the name. The part that leads upwards takes the last part back; above
the working directory it stays, and above a root there is nothing. -/
def enter (p : Path) (part : Text) : Path :=
  if part != upward then { p with parts := p.parts ++ [part.fileName] }
  else
    match p.parts.getLast? with
    | some last => if last == upward then { p with parts := p.parts ++ [upward] } else p.parent
    | none => if p.isRelative then { p with parts := [upward] } else p

/-- The place that a path leads to if all its parts but the last are directories. -/
def place (p : Path) : Path := p.parts.foldl enter p.start

/-- The path with a text added to its last part. -/
def extend (p : Path) (ending : Text) : Path :=
  match p.parts.getLast? with
  | some last => { p with parts := p.parts.dropLast ++ [last ++ ending] }
  | none => { p with parts := [ending] }

end Path

/-- The accounts of a machine: the home directory of the account that rules run under, and those of
accounts by their names. -/
structure Accounts where
  home : Path
  homes : Entries Text Path

namespace Path

/-- The home directories that a table of accounts lists: each line has seven fields, of which the first
one is the name and the sixth one the home directory. -/
def listedHomes (table : String) : Entries Text Path :=
  (table.splitOn "\n").filterMap fun line =>
    match line.splitOn ":" with
    | [name, _, _, _, _, home, _] => some (name, .ofText home)
    | _ => none

/-- Why there is no home directory: no account has the name, or no account could have it. -/
inductive HomeError
  | unknownAccount
  | nullCharacter
  /-- The name holds a half of a pair that no name can hold. -/
  | unusable (r : Text.HalfRun)
deriving DecidableEq

/-- The home directory of a named account; no name stands for the account that rules run under. -/
def homeOf (accounts : Accounts) (account : Text) : Except HomeError Path :=
  if account.isEmpty then .ok accounts.home
  else
    match Text.unusable? account with
    | some r => .error (.unusable r)
    | none =>
      if account.points.contains (.char '\x00') then .error .nullCharacter
      else
        match accounts.homes.get? account with
        | some p => .ok p
        | none => .error .unknownAccount

/-- Replaces a tilde at the beginning, with the name of an account behind it, by the home directory
that it stands for. -/
def expandHome (accounts : Accounts) (p : Path) : Except HomeError Path :=
  match p.root, p.parts with
  | "", ⟨.char '~' :: account⟩ :: rest => do
    let base ← homeOf accounts ⟨account⟩
    .ok { base with parts := base.parts ++ rest }
  | _, _ => .ok p

end Path

end Thermostat
