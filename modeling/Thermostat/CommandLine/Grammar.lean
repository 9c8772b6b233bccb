import Thermostat.Entries
import Thermostat.Text.Digit
import Thermostat.Text.Quoted
import Thermostat.Text.Split

/-! Command lines: options with and without a value anywhere, and arguments by place between them. -/
namespace Thermostat.CommandLine

inductive Effect
  | help
  | store (key : String)
deriving DecidableEq

/-- An option with its names, short and long. -/
structure Switch where
  names : List String
  effect : Effect
deriving DecidableEq

/-- What is given by place: one value, or a command with all that follows it. -/
inductive Positional
  | value (name : String)
  | command (name : String) (choices : List String)

/-- What a command line may hold. -/
structure Grammar where
  program : String
  usage : String
  help : Text
  switches : List Switch
  positional : Option Positional

/-- Why parsing ends without a result: help is asked for, or the command line is wrong. -/
inductive Exit
  | help (text : Text)
  | wrong (usage program : String) (message : Text)

/-- An argument that uses an option: which one, as far as it is known, under which name, and a value
in the same argument. A value may follow an equals sign, or a short name at once. -/
structure Use where
  switch : Option Switch
  name : Text
  value : Option Text

/-- How an argument is taken before its place is known. -/
inductive Mark
  | plain
  | use (u : Use)
  | separator

/-- The argument behind which all arguments are plain. -/
def separator : Text := "--"

def isLong (name : Text) : Bool := name.take 2 == separator

namespace Grammar

def fail {α : Type} (g : Grammar) (message : Text) : Except Exit α :=
  .error (.wrong g.usage g.program message)

def failAt {α : Type} (g : Grammar) (s : Switch) (message : String) : Except Exit α :=
  g.fail ("argument " ++ "/".intercalate s.names ++ ": " ++ message)

/-- The complaint about a value for an option that takes none. -/
def failIgnored {α : Type} (g : Grammar) (s : Switch) (value : Text) : Except Exit α :=
  g.failAt s ("ignored explicit argument " ++ Text.quoted value)

def names (g : Grammar) : List (Text × Switch) :=
  g.switches.flatMap fun s => s.names.map fun n => (Text.ofString n, s)

def switch? (g : Grammar) (name : Text) : Option Switch := Entries.get? g.names name

def isNegativeNumber (t : Text) : Bool :=
  let isDigit (p : CodePoint) : Bool := p.satisfies fun c => (Text.digitValue? c).isSome
  let unsigned (ps : List CodePoint) : Bool :=
    let rest := ps.dropWhile isDigit
    if rest.isEmpty then !ps.isEmpty
    else rest.head? == some (.char '.') && !(rest.drop 1).isEmpty && (rest.drop 1).all isDigit
  match t.points with
  | .char '-' :: rest =>
    unsigned rest || (rest.getLast? == some (.char '\n') && unsigned rest.dropLast)
  | _ => false

/-- What stands before and after the first equals sign, if there is one. -/
def cutAtEquals? (t : Text) : Option (Text × Text) :=
  (Text.cutAt? (· == .char '=') t.points).map fun (a, b) => (⟨a⟩, ⟨b⟩)

/-- The options that an argument can mean: a long name may be shortened, and a short name may be
followed by its value at once. -/
def candidates (g : Grammar) (arg : Text) : List Use :=
  if isLong arg then
    let (start, value) := match cutAtEquals? arg with
      | some (a, b) => (a, some b)
      | none => (arg, none)
    (g.names.filter fun n => start.points.isPrefixOf n.1.points).map fun n =>
      ⟨some n.2, n.1, value⟩
  else
    g.names.filterMap fun n =>
      if n.1 == arg.take 2 then some ⟨some n.2, n.1, some (arg.drop 2)⟩
      else if arg.points.isPrefixOf n.1.points then some ⟨some n.2, n.1, none⟩
      else none

/-- Takes an argument for an option or for a plain value. -/
def mark (g : Grammar) (arg : Text) : Except Exit Mark :=
  if arg.points.head? != some (.char '-') then .ok .plain
  else
    match g.switch? arg with
    | some s => .ok (.use ⟨some s, arg, none⟩)
    | none =>
      if arg.length == 1 then .ok .plain
      else
        let exact := (cutAtEquals? arg).bind fun (name, value) =>
          (g.switch? name).map fun s => (⟨some s, name, some value⟩ : Use)
        match exact with
        | some u => .ok (.use u)
        | none =>
          match g.candidates arg with
          | [u] => .ok (.use u)
          | [] =>
            if isNegativeNumber arg || arg.points.contains (.char ' ') then .ok .plain
            else .ok (.use ⟨none, arg, none⟩)
          | us =>
            g.fail ("ambiguous option: " ++ arg ++ " could match " ++
              .intercalate ", " (us.map Use.name))

def markAll (g : Grammar) : List Text → Except Exit (List (Text × Mark))
  | [] => .ok []
  | arg :: args =>
    if arg == separator then .ok ((arg, .separator) :: args.map fun a => (a, .plain))
    else do
      let m ← g.mark arg
      .ok ((arg, m) :: (← g.markAll args))

end Grammar

/-- What a command line says so far: stored values, what was given by place, what fits nowhere. An
option whose value is the separator has no text. -/
structure Parsed where
  values : Entries String (Option Text)
  placed : Option (List Text)
  extras : List Text

namespace Grammar

def perform (g : Grammar) (p : Parsed) (s : Switch) (value : Text) : Except Exit Parsed :=
  match s.effect with
  | .help => .error (.help g.help)
  | .store key =>
    let value := if value == separator then none else some value
    .ok { p with values := Entries.set key value p.values }

/-- An option with what follows its name at once: its value, or letters of more options where it takes
none. Where nothing follows, the value is the next argument. The result is the options with their values
and the arguments that are left. -/
def cluster (g : Grammar) (s : Switch) (rest : List (Text × Mark)) :
    List CodePoint → Except Exit (List (Switch × Text) × List (Text × Mark))
  | [] =>
    match s.effect, rest with
    | .help, _ => .ok ([(s, "")], rest)
    | .store _, (arg, .plain) :: rest => .ok ([(s, arg)], rest)
    | .store _, _ => g.failAt s "expected one argument"
  | p :: ps =>
    match s.effect, g.switch? ⟨[.char '-', p]⟩ with
    | .store _, _ => .ok ([(s, ⟨p :: ps⟩)], rest)
    | .help, none => g.failIgnored s ⟨p :: ps⟩
    | .help, some t => do
      let (uses, rest) ← g.cluster t rest ps
      .ok ((s, "") :: uses, rest)

/-- An option with its value; letters of more options can follow a short name only. -/
def takeSwitch (g : Grammar) (s : Switch) (name : Text) (value : Option Text)
    (rest : List (Text × Mark)) : Except Exit (List (Switch × Text) × List (Text × Mark)) :=
  match s.effect, value with
  | _, none => g.cluster s rest []
  | .store _, some v => .ok ([(s, v)], rest)
  | .help, some v =>
    if v.isEmpty || isLong name then g.failIgnored s v else g.cluster s rest v.points

def takeUse (g : Grammar) (p : Parsed) (arg : Text) (u : Use) (rest : List (Text × Mark)) :
    Except Exit (Parsed × List (Text × Mark)) :=
  match u.switch with
  | none => .ok ({ p with extras := p.extras ++ [arg] }, rest)
  | some s => do
    let (uses, rest) ← g.takeSwitch s u.name u.value rest
    let p ← uses.foldlM (fun p (s, v) => g.perform p s v) p
    .ok (p, rest)

/-- Takes what is given by place from the front, if it is still to come and fits. A separator in front
of a single value is dropped; in front of a command it stays. -/
def takePlaced (g : Grammar) (p : Parsed) (args : List (Text × Mark)) :
    Except Exit (Option (Parsed × List (Text × Mark))) :=
  let isSeparator : Text × Mark → Bool
    | (_, .separator) => true
    | _ => false
  let body := args.dropWhile isSeparator
  match g.positional, p.placed, body with
  | some (.value _), none, (arg, .plain) :: rest =>
    .ok (some ({ p with placed := some [arg] }, rest.dropWhile isSeparator))
  | some (.command name choices), none, (_, .plain) :: _ =>
    let words : List Text := args.map (·.1)
    let first := words.headD ""
    if choices.any fun c => first == Text.ofString c then .ok (some ({ p with placed := some words }, []))
    else
      g.fail ("argument " ++ name ++ ": invalid choice: " ++ Text.quoted first ++
        " (choose from " ++ ", ".intercalate (choices.map fun (c : String) => Text.quoted c) ++ ")")
  | _, _, _ => .ok none

/-- Takes arguments from the front until none is left: what is given by place before the next option,
then that option. -/
def takeAll (g : Grammar) : Nat → Parsed → List (Text × Mark) → Except Exit Parsed
  | 0, p, _ => .ok p
  | fuel + 1, p, args => do
    match args with
    | [] => .ok p
    | (arg, .use u) :: rest =>
      let (p, rest) ← g.takeUse p arg u rest
      g.takeAll fuel p rest
    | _ =>
      match ← g.takePlaced p args with
      | some (p, rest) => g.takeAll fuel p rest
      | none =>
        let isUse : Text × Mark → Bool
          | (_, .use _) => true
          | _ => false
        let before := args.takeWhile fun a => !isUse a
        g.takeAll fuel { p with extras := p.extras ++ before.map (·.1) }
          (args.dropWhile fun a => !isUse a)

/-- Parses a command line; what is given by place must be there. -/
def parse (g : Grammar) (args : List Text) : Except Exit Parsed := do
  let marked ← g.markAll args
  let p ← g.takeAll (args.length + 1) ⟨[], none, []⟩ marked
  match g.positional, p.placed with
  | some (.value name), none => g.fail ("the following arguments are required: " ++ name)
  | some (.command name _), none => g.fail ("the following arguments are required: " ++ name)
  | _, _ => .ok p

end Grammar

end Thermostat.CommandLine
