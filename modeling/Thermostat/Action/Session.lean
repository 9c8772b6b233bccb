import Thermostat.Action.Request
import Thermostat.Request.Text

/-! A session of calls: how requests reach whoever performs them, and how each outcome is reported. -/
namespace Thermostat

/-- What goes wrong in a call once its arguments fit. -/
inductive Failure
  /-- An argument is refused. -/
  | rejected (message : Text)
  /-- Nobody is there to perform the request. -/
  | notQueued (message : Text)
  /-- Something else fails. -/
  | failed (cause : Log.Cause)
  /-- The whole program is to stop; this is not reported but passed on. -/
  | interrupted (cause : Log.Cause)

namespace Failure

def ofFault : Fault → Failure
  | .rejected r => .rejected (Fault.message (.rejected r))
  | f => .failed ⟨f.label, f.message⟩

end Failure

/-- What looking for the service gives. -/
inductive Lookup
  | absent
  | withoutProvider
  | ready
  | failing (f : Failure)

/-- What the provider does with a request. -/
inductive Provider
  | answers (v : Value)
  | fails (f : Failure)

/-- How a session finds its provider: by looking for the service at every call, or once for all. -/
inductive Route
  | lookup
  | provider
  | nobody
deriving DecidableEq

/-- A session of calls on one scale. -/
structure Session where
  scale : TemperatureScale
  route : Route := .lookup
  service : Lookup := .ready
  provider : Provider := .answers (.bool true)
  lookups : Nat := 0
  calls : Nat := 0

inductive Outcome
  | answered (accepted : Bool)
  | mismatched (message : Text)
  | interrupted (cause : Log.Cause)

/-- All that a call shows: how it ends, its records, and the requests that it sent. -/
structure Answer where
  outcome : Outcome
  records : List Log.Record
  sent : List (Value × Request)

namespace Session

def loggerName : String := "ecobee_actions.actions"

def notConfigured (what : String) (selection : Value) : Failure :=
  match selection.plain with
  | .ok t => .notQueued (what ++ " is not configured, Action for selection " ++ t ++ " not queued.")
  | .error e => .ofFault (.ofUnwritten e)

/-- Looks for the provider; where a session looks, the look is counted. -/
def resolve (s : Session) (selection : Value) : Session × Except Failure Unit :=
  match s.route with
  | .provider => (s, .ok ())
  | .nobody => (s, .error (notConfigured "Ecobee Action Provider" selection))
  | .lookup =>
    ({ s with lookups := s.lookups + 1 },
     match s.service with
     | .absent => .error (notConfigured "Ecobee Service" selection)
     | .withoutProvider => .error (notConfigured "Ecobee Action Provider" selection)
     | .ready => .ok ()
     | .failing f => .error f)

def perform (s : Session) : Session × Except Failure Bool :=
  ({ s with calls := s.calls + 1 },
   match s.provider with
   | .answers v => .ok v.isTruthy
   | .fails f => .error f)

def record (level : Log.Level) (message : Option Text) : Log.Record :=
  { level := level, logger := loggerName, message := message }

def traceRecord (request : Request) (selection : Value) : Log.Record :=
  record .debug do
    let r ← request.literal?
    let t ← selection.plain?
    some ("Attempting to call Ecobee function '" ++ r ++ "' against selection '" ++ t ++ "'")

/-- The report of a failed call, and how the call then ends. -/
def report (action : Action) (selection : Value) : Failure → List Log.Record × Outcome
  | .rejected m =>
    ([record .error (selection.plain?.map fun t =>
      "Ecobee action " ++ action.name ++ " rejected for selection '" ++ t ++ "': " ++ m)],
     .answered false)
  | .notQueued m =>
    ([record .error (selection.plain?.map fun t =>
      "Ecobee action " ++ action.name ++ " not queued for selection '" ++ t ++ "': " ++ m)],
     .answered false)
  | .failed cause =>
    ([{ record .error (selection.plain?.map fun t =>
          "Ecobee action " ++ action.name ++ " failed for selection '" ++ t ++ "'") with
        cause := some cause }],
     .answered false)
  | .interrupted cause => ([], .interrupted cause)

/-- The warning about a request that was sent and not accepted. -/
def refusalRecord (request : Request) (selection : Value) : Log.Record :=
  record .warning (selection.plain?.map fun t =>
    "Ecobee function " ++ request.kind.wireName ++ " was not accepted for selection '" ++ t ++ "'")

/-- Sends a request that was made. -/
def send (s : Session) (action : Action) (selection : Value) (request : Request) :
    Session × Answer :=
  let trace := traceRecord request selection
  match s.resolve selection with
  | (s, .error f) =>
    let (records, outcome) := report action selection f
    (s, ⟨outcome, trace :: records, []⟩)
  | (s, .ok ()) =>
    match s.perform with
    | (s, .error f) =>
      let (records, outcome) := report action selection f
      (s, ⟨outcome, trace :: records, [(selection, request)]⟩)
    | (s, .ok true) => (s, ⟨.answered true, [trace], [(selection, request)]⟩)
    | (s, .ok false) =>
      (s, ⟨.answered false, [trace, refusalRecord request selection], [(selection, request)]⟩)

/-- Makes the request of an action from arguments that fit, and sends it. -/
def invoke (s : Session) (action : Action) (a : Arguments) : Session × Answer :=
  let selection := a.value "selection"
  match action.makeRequest s.scale a with
  | (made, .error f) =>
    let (records, outcome) := report action selection (.ofFault f)
    (s, ⟨outcome, made ++ records, []⟩)
  | (made, .ok request) =>
    let (s, answer) := s.send action selection request
    (s, { answer with records := made ++ answer.records })

/-- Calls an action; arguments that do not fit leave the session as it is. -/
def call (s : Session) (action : Action) (placed : List Value) (named : List (Text × Value)) :
    Session × Answer :=
  match action.signature.bind placed named with
  | .error m => (s, ⟨.mismatched (action.signature.message m), [], []⟩)
  | .ok a => s.invoke action a

inductive Step
  | service (l : Lookup)
  | provider (p : Provider)
  | call (action : Action) (placed : List Value) (named : List (Text × Value))

/-- Takes a step; only a call has an answer. -/
def step (s : Session) : Step → Session × Option Answer
  | .service l => ({ s with service := l }, none)
  | .provider p => ({ s with provider := p }, none)
  | .call action placed named =>
    let (s, a) := s.call action placed named
    (s, some a)

/-- Takes steps one after the other, with the answer and the session after each. -/
def run (s : Session) : List Step → List (Session × Option Answer)
  | [] => []
  | t :: ts =>
    let (s, a) := s.step t
    (s, a) :: s.run ts

end Session

end Thermostat
