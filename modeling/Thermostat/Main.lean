import Std.Time.DateTime.Timestamp
import Thermostat.CommandLine.Run
import Thermostat.Log.Stamp

/-! The program itself: it reads the files that a run may look at, and leaves what the run reports. -/
namespace Thermostat.CommandLine

def readText? (p : Path) : IO (Option String) := do
  try
    return some (← IO.FS.readFile p.text.printed)
  catch _ => return none

/-- A folder together with the files of the given paths that can be read. -/
def readInto (folder : Folder) (paths : List Path) : IO Folder := do
  let texts ← paths.mapM readText?
  return (paths.zip texts).foldl
    (fun f (p, text) => (text.map fun t => f.put p t).getD f) folder

/-- The log file of a configuration with the older ones beside it, and all that lies above it, where a
file would be in the way. -/
def logPaths (c : Settings.Config) : List Path :=
  match c.logPath with
  | some p =>
    (List.range (Log.Files.backups + 1)).map (Log.Files.backupPlace p.place) ++
      (List.range p.parts.length).map fun n => { p with parts := p.parts.take n }
  | none => []

/-- The files that a run may look at: its settings, and those at which its log file would be. -/
def gather (accounts : Accounts) (args : List Text) : IO Folder := do
  let here : Folder := { Folder.empty with working := .ofText (← IO.currentDir).toString }
  match parseInvocation (Settings.defaultSource accounts) args with
  | .error _ => return here
  | .ok invocation =>
    let source := invocation.source accounts
    let folder ← readInto here [source]
    match Settings.Config.load accounts folder source with
    | (_, .error _) => return folder
    | (_, .ok c) => readInto folder (logPaths c)

/-- Makes the directories that were not there, removes the files that are gone, and writes those that
differ from what was there. -/
def leave (before after : Folder) : IO Unit := do
  for (place, _) in before.files do
    if !after.files.has place then
      IO.FS.removeFile place.text.printed
  for place in after.directories do
    if !before.directories.contains place then
      IO.FS.createDirAll place.text.printed
  for (place, text) in after.files do
    if before.files.get? place != some text then
      IO.FS.writeFile place.text.printed text

/-- The account that runs the program, and all accounts that the system lists. -/
def presentAccounts : IO Accounts := do
  let home ← IO.getEnv "HOME"
  let table ← readText? (.ofText "/etc/passwd")
  return ⟨.ofText (home.getD "/"), Path.listedHomes (table.getD "")⟩

/-- What is left of a stack of 1000 calls where the text of arguments is read. -/
def usualDepth : Nat := 992

def presentStamp : IO String := do
  let now ← Std.Time.Timestamp.now
  return (Log.Stamp.ofMilliseconds? now.toMillisecondsSinceUnixEpoch.val).getD ""

/-- The code that a run ends with, and what is shown of a failure. -/
def Ending.code : Ending → Nat × Text
  | .finished code => (code, "")
  | .exited code => (code, "")
  | .failed kind message => (1, kind ++ ": " ++ message ++ "\n")

end Thermostat.CommandLine

open Thermostat Thermostat.CommandLine in
def main (args : List String) : IO UInt32 := do
  let args := args.map Text.ofString
  let machine : Machine := ⟨← presentStamp, ← presentAccounts, usualDepth⟩
  let folder ← gather machine.accounts args
  let report := run machine folder args
  leave folder report.folder
  let (code, shown) := report.ending.code
  (← IO.getStdout).putStr report.out.printed
  (← IO.getStderr).putStr (report.err ++ shown).printed
  return code.toUInt32
