import Thermostat.CommandLine.Grammar
import Thermostat.CommandLine.Wrap
import Thermostat.Path

/-! The commands of the program, their options, and their texts of help. -/
namespace Thermostat.CommandLine

def programName : String := "ecobee-actions"

/-- What the program is asked to do. A selection or arguments can be given without a text. -/
inductive Command
  | listActions
  | showConfig
  | render (action : Text) (selection arguments : Option Text)

/-- A command, with the file of settings if one is named. -/
structure Invocation where
  config : Option Text
  command : Command

def helpSwitch : Switch := ⟨["-h", "--help"], .help⟩

def commandNames : List String := ["list-actions", "show-config", "render"]

def mainUsage : String :=
  "usage: ecobee-actions [-h] [-c CONFIG] \x7blist-actions,show-config,render\x7d ...\n"

def helpIndent : String := String.ofList (List.replicate 24 ' ')

/-- The width of the explanations of options, behind their indent. -/
def helpWidth : Nat := 54

/-- The help of the program, which names the file of settings that holds where none is named. -/
def mainHelp (source : Path) : Text :=
  let explanation := wrap helpWidth ("Path to configuration file (default: " ++ source.text ++ ")")
  mainUsage ++
  "\n" ++
  "Invoke ecobee thermostat functions from automation rules\n" ++
  "\n" ++
  "positional arguments:\n" ++
  "  \x7blist-actions,show-config,render\x7d\n" ++
  "    list-actions        Describe every available action\n" ++
  "    show-config         Print the resolved configuration and exit\n" ++
  "    render              Build an action's request and print it without sending\n" ++
  "                        it\n" ++
  "\n" ++
  "options:\n" ++
  "  -h, --help            show this help message and exit\n" ++
  "  -c CONFIG, --config CONFIG\n" ++
  Text.join (explanation.map fun line => helpIndent ++ line ++ "\n")

def mainGrammar (source : Path) : Grammar :=
  { program := programName, usage := mainUsage, help := mainHelp source,
    switches := [helpSwitch, ⟨["-c", "--config"], .store "config"⟩],
    positional := some (.command "command" commandNames) }

def plainGrammar (name : String) : Grammar :=
  let usage := "usage: ecobee-actions " ++ name ++ " [-h]\n"
  { program := programName ++ " " ++ name, usage := usage,
    help := (usage ++ "\noptions:\n  -h, --help  show this help message and exit\n" : String),
    switches := [helpSwitch], positional := none }

def renderUsage : String :=
  "usage: ecobee-actions render [-h] [--selection SELECTION] [--args ARGS] action\n"

def renderHelp : String := renderUsage ++
  "\n" ++
  "positional arguments:\n" ++
  "  action                Action name, e.g. set_hold\n" ++
  "\n" ++
  "options:\n" ++
  "  -h, --help            show this help message and exit\n" ++
  "  --selection SELECTION\n" ++
  "                        Thermostat selection\n" ++
  "  --args ARGS           Action arguments as a JSON object, e.g.\n" ++
  "                        '\x7b\"cool_hold_temp\": 76\x7d'\n"

def renderGrammar : Grammar :=
  { program := programName ++ " render", usage := renderUsage, help := renderHelp,
    switches := [helpSwitch, ⟨["--selection"], .store "selection"⟩, ⟨["--args"], .store "args"⟩],
    positional := some (.value "action") }

/-- The value of an option, where nothing was said the given one. -/
def Parsed.valueOr (p : Parsed) (key fallback : String) : Option Text :=
  (Entries.get? p.values key).getD (some fallback)

def parseCommand (name : Text) (args : List Text) : Except Exit (Command × List Text) :=
  if name == "render" then do
    let p ← renderGrammar.parse args
    .ok (.render ((p.placed.getD []).headD "") (p.valueOr "selection" "registered")
      (p.valueOr "args" "\x7b\x7d"), p.extras)
  else do
    let listing := name == "list-actions"
    let p ← (plainGrammar (if listing then "list-actions" else "show-config")).parse args
    .ok (if listing then .listActions else .showConfig, p.extras)

/-- Parses the command line of the program, given the file of settings that holds where none is named;
nothing may be left over. -/
def parseInvocation (source : Path) (args : List Text) : Except Exit Invocation := do
  let p ← (mainGrammar source).parse args
  let words := p.placed.getD []
  let (command, extras) ← parseCommand (words.headD "") (words.drop 1)
  match p.extras ++ extras with
  | [] => .ok ⟨(Entries.get? p.values "config").join, command⟩
  | left => (mainGrammar source).fail ("unrecognized arguments: " ++ .intercalate " " left)

end Thermostat.CommandLine
