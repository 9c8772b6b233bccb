import Thermostat.Entries
import Thermostat.Value.Text

/-! Which arguments a call takes, and how given ones are matched with them by place and by name. -/
namespace Thermostat

structure Parameter where
  name : String
  default : Option Value

/-- A callable: the name that messages give it, and its parameters behind the receiver. -/
structure Signature where
  name : String
  parameters : List Parameter

abbrev Arguments : Type := List (String × Value)

/-- The argument of a name; nothing where there is none. -/
def Arguments.value (args : Arguments) (name : String) : Value :=
  ((args.find? fun a => a.1 == name).map (·.2)).getD .none

/-- Why arguments do not fit. -/
inductive Mismatch
  | unexpected (name : Text)
  | repeated (name : Text)
  | tooMany (given : Nat)
  | missing (names : List String)
deriving DecidableEq

namespace Signature

def receiver : String := "self"

/-- The first name that is not a parameter or was given before, in the order of the names. -/
def namesFault (s : Signature) (byPlace : Nat) : List Text → Option Mismatch
  | [] => none
  | k :: ks =>
    let taken := receiver :: ((s.parameters.take byPlace).map Parameter.name)
    if taken.any (Text.ofString · == k) then some (.repeated k)
    else if s.parameters.any (Text.ofString ·.name == k) then namesFault s byPlace ks
    else some (.unexpected k)

/-- Parameters that neither an argument nor a default fills. -/
def missingNames (parameters : List Parameter) (named : List (Text × Value)) : List String :=
  (parameters.filter fun p => p.default.isNone && !Entries.has named p.name).map Parameter.name

/-- Matches arguments with parameters. Names are looked at first, then the number of arguments given
by place, then what is missing. The receiver counts as an argument. -/
def bind (s : Signature) (placed : List Value) (named : List (Text × Value)) :
    Except Mismatch Arguments :=
  match namesFault s placed.length (named.map (·.1)) with
  | some m => .error m
  | none =>
    if s.parameters.length < placed.length then .error (.tooMany (placed.length + 1))
    else
      let first := (s.parameters.take placed.length).map Parameter.name
      let rest := s.parameters.drop placed.length
      match missingNames rest named with
      | [] =>
        .ok (first.zip placed ++ rest.map fun p =>
          (p.name, (Entries.get? named p.name).getD (p.default.getD .none)))
      | names => .error (.missing names)

/-- Names in quotes, as a list in running text. -/
def listNames (names : List String) : String :=
  let quoted := names.map fun n => "'" ++ n ++ "'"
  match quoted with
  | [] => ""
  | [a] => a
  | [a, b] => a ++ " and " ++ b
  | _ => ", ".intercalate quoted.dropLast ++ ", and " ++ quoted.getLastD ""

def message (s : Signature) : Mismatch → Text
  | .unexpected k => s.name ++ "() got an unexpected keyword argument '" ++ k ++ "'"
  | .repeated k => s.name ++ "() got multiple values for argument '" ++ k ++ "'"
  | .tooMany given =>
    let most := s.parameters.length + 1
    let least := (s.parameters.filter fun p => p.default.isNone).length + 1
    let counts :=
      if least == most then
        toString most ++ " positional argument" ++ (if most == 1 then "" else "s")
      else "from " ++ toString least ++ " to " ++ toString most ++ " positional arguments"
    s.name ++ "() takes " ++ counts ++ " but " ++ toString given ++
      (if given == 1 then " was" else " were") ++ " given"
  | .missing names =>
    s.name ++ "() missing " ++ toString names.length ++ " required positional argument" ++
      (if names.length == 1 then "" else "s") ++ ": " ++ listNames names

end Signature

end Thermostat
