import Thermostat.Action.Session
import Thermostat.Calendar.Iso
import Thermostat.Folder
import Thermostat.CommandLine.Invocation
import Thermostat.Json.Reader
import Thermostat.Json.Writer
import Thermostat.Settings.Config

/-! A run of the program: what it shows, what it writes, and how it ends. -/
namespace Thermostat.CommandLine

/-- What a run finds on its machine: the time, the accounts, and how deep lists and objects may stand in
one another in the text of arguments, which depends on how much of its stack the interpreter has left. -/
structure Machine where
  stamp : String
  accounts : Accounts
  depth : Nat

inductive Ending
  | finished (code : Nat)
  | exited (code : Nat)
  | failed (kind : String) (message : Text)

/-- All that a run leaves: its ending, what it shows, and the files. -/
structure Report where
  ending : Ending
  out : Text
  err : Text
  folder : Folder

/-- The log of a run so far, and what it showed. -/
structure Progress where
  journal : Log.Journal
  err : Text

namespace Progress

def log (p : Progress) (stamp : String) (records : List Log.Record) : Progress :=
  let (journal, shown) := p.journal.writeAll stamp records
  ⟨journal, p.err ++ shown⟩

def finish (p : Progress) (ending : Ending) (out : Text) : Report :=
  ⟨ending, out, p.err, p.journal.folder⟩

end Progress

def loggerName : String := "ecobee_actions.cli"

def errorRecord (message : Text) : Log.Record :=
  { level := .error, logger := loggerName, message := some message }

def actionList : String :=
  String.join (Action.all.map fun a =>
    a.name ++ ": " ++ a.text ++ "\n" ++
      String.join (a.parameterDocs.map fun p => "    " ++ p.name ++ ": " ++ p.text ++ "\n") ++ "\n")

/-- The options of a section with their values, up to the first that has none. -/
def showOptions (s : Settings.Store) (name : Text) : List Text → Text × Option Settings.Fault
  | [] => ("", none)
  | option :: rest =>
    match s.value name option with
    | .error f => ("", some f)
    | .ok v =>
      let (more, fault) := showOptions s name rest
      (option ++ " = " ++ v ++ "\n" ++ more, fault)

/-- Sections with their options, up to the first option that has no value. -/
def showSections (s : Settings.Store) : List Text → Text × Option Settings.Fault
  | [] => ("", none)
  | name :: rest =>
    match showOptions s name (s.optionNames name) with
    | (shown, some f) => ("[" ++ name ++ "]\n" ++ shown, some f)
    | (shown, none) =>
      let (more, fault) := showSections s rest
      ("[" ++ name ++ "]\n" ++ shown ++ "\n" ++ more, fault)

def showConfig (c : Settings.Config) : Text × Option Settings.Fault :=
  let (shown, fault) := showSections c.store (c.store.sections.map (·.1))
  ("Configuration loaded from " ++ c.source.text ++ "\n\n" ++ shown, fault)

def digitLimit : Nat := maxDigits

def dateTimeEnding : Text := "_date_time"

def namesMoment (name : Text) : Bool := dateTimeEnding.points.isSuffixOf name.points

/-- An argument that is a moment by its name is read as one where that is possible. -/
def readMoment (name : Text) (v : Value) : Value :=
  match v with
  | .text l =>
    if namesMoment name then
      match DateTime.read? l.content with
      | some d => .dateTime d
      | none => v
    else v
  | _ => v

/-- Why there are no arguments: their text is complained about, or reading it is given up. -/
inductive Unread
  | complaint (message : String)
  | failure (kind message : String)

/-- The arguments of an action from their text. -/
def readArguments (depth : Nat) (text : Text) : Except Unread (List (Text × Value)) :=
  match Json.read (some digitLimit) depth text with
  | .error (.longNumber limit digits) =>
    .error (.complaint (Json.ReadError.message (.longNumber limit digits)))
  | .error (.tooDeep c) => .error (.failure "RecursionError" (Json.ReadError.message (.tooDeep c)))
  | .error e => .error (.complaint ("--args is not valid JSON: " ++ e.message))
  | .ok (.dict entries) => .ok (entries.map fun (k, v) => (k, readMoment k v))
  | .ok _ => .error (.complaint "--args must be a JSON object")

def paramTree : Param → Json.Tree
  | .flag b => .bool b
  | .number n => .int n
  | .text l => .text l.content

def requestTree (r : Request) : Json.Tree :=
  .dict [("type", .text r.kind.wireName), ("params", .dict (r.params.map fun (k, p) => (k, paramTree p)))]

/-- A selection as an action takes it; one without a text is an empty list. -/
def selectionValue (selection : Option Text) : Value :=
  (selection.map fun t => .text (.text t)).getD (.list [])

/-- A request with the selection that it is for. -/
def sentTree (selection : Option Text) (r : Request) : Json.Tree :=
  .dict [("selection", (selection.map Json.Tree.text).getD (.list [])),
    ("functions", .list [requestTree r])]

def actionName (t : Text) : Text :=
  ⟨t.points.map fun p => if p == .char '-' then .char '_' else p⟩

def findAction? (name : Text) : Option Action := (actionName name).toString?.bind Action.ofName?

/-- Makes the request of an action and shows it: the records, the ending, and what is shown. Arguments
without a text are a failure, and so are those that are too deep. -/
def render (depth : Nat) (scale : TemperatureScale) (action : Text) (selection arguments : Option Text) :
    List Log.Record × Ending × Text :=
  match findAction? action, arguments.map (readArguments depth) with
  | none, _ => ([errorRecord ("Unknown action: " ++ action)], .finished 1, "")
  | some _, none =>
    ([], .failed "TypeError" "the JSON object must be str, bytes or bytearray, not list", "")
  | some _, some (.error (.complaint m)) => ([errorRecord m], .finished 1, "")
  | some _, some (.error (.failure kind m)) => ([], .failed kind m, "")
  | some a, some (.ok named) =>
    let session : Session := { scale := scale, route := .provider }
    let (_, answer) := session.call a [selectionValue selection] named
    match answer.outcome, answer.sent with
    | .mismatched m, _ =>
      (answer.records ++ [errorRecord ("Invalid arguments for " ++ a.name ++ ": " ++ m)],
        .finished 1, "")
    | .answered true, (_, request) :: _ =>
      (answer.records, .finished 0, Json.write 0 (sentTree selection request) ++ "\n")
    | _, _ => (answer.records, .finished 1, "")

def perform (m : Machine) (p : Progress) (c : Settings.Config) : Command → Report
  | .listActions => p.finish (.finished 0) actionList
  | .showConfig =>
    match showConfig c with
    | (shown, none) => p.finish (.finished 0) shown
    | (shown, some f) => p.finish (.failed f.label f.message) shown
  | .render action selection arguments =>
    let (records, ending, shown) := render m.depth c.scale action selection arguments
    (p.log m.stamp records).finish ending shown

/-- The file of settings of a run. -/
def Invocation.source (i : Invocation) (accounts : Accounts) : Path :=
  (i.config.map Path.ofText).getD (Settings.defaultSource accounts)

/-- A run with the given arguments among the files of the working directory. All records bear the
same time stamp. -/
def run (m : Machine) (folder : Folder) (args : List Text) : Report :=
  let start : Progress := ⟨.initial folder, ""⟩
  match parseInvocation (Settings.defaultSource m.accounts) args with
  | .error (.help text) => start.finish (.exited 0) text
  | .error (.wrong usage program message) =>
    { start with err := usage ++ program ++ ": error: " ++ message ++ "\n" }.finish (.exited 2) ""
  | .ok invocation =>
    let (records, result) := Settings.Config.load m.accounts folder (invocation.source m.accounts)
    let p := start.log m.stamp records
    match result with
    | .error e => p.finish (.failed e.label e.message) ""
    | .ok c =>
      match p.journal.configure c.logSettings with
      | (journal, some o) => { p with journal := journal }.finish (.failed o.label o.message) ""
      | (journal, none) => perform m { p with journal := journal } c invocation.command

end Thermostat.CommandLine
