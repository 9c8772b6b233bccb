import Thermostat.Action.Session
import Thermostat.Proofs.Call.Binding

/-! The course of a call: how far it comes, and what it leaves behind at each end. -/
namespace Thermostat

/-- How far a call comes whose arguments fit: its request cannot be made, nobody is found to perform
it, or it is delivered. -/
inductive Course
  | unmade (f : Fault)
  | unresolved (request : Request) (f : Failure)
  | delivered (request : Request) (result : Except Failure Bool)

/-- What goes wrong in the course of a call. -/
def Course.failure? : Course → Option Failure
  | .unmade f => some (.ofFault f)
  | .unresolved _ f => some f
  | .delivered _ (.error f) => some f
  | .delivered _ (.ok _) => none

namespace Session

/-- The course that a call takes. -/
def course (s : Session) (action : Action) (a : Arguments) : Course :=
  match (action.makeRequest s.scale a).2 with
  | .error f => .unmade f
  | .ok request =>
    match (s.resolve (a.value "selection")).2 with
    | .error f => .unresolved request f
    | .ok () => .delivered request s.perform.2

def moved (s : Session) (selection : Value) : Course → Session
  | .unmade _ => s
  | .unresolved _ _ => (s.resolve selection).1
  | .delivered _ _ => (s.resolve selection).1.perform.1

def outcome (action : Action) (selection : Value) : Course → Outcome
  | .unmade f => (report action selection (.ofFault f)).2
  | .unresolved _ f => (report action selection f).2
  | .delivered _ (.error f) => (report action selection f).2
  | .delivered _ (.ok accepted) => .answered accepted

/-- The records of a call of some course, but those of making its request. -/
def ownRecords (action : Action) (selection : Value) : Course → List Log.Record
  | .unmade f => (report action selection (.ofFault f)).1
  | .unresolved r f => traceRecord r selection :: (report action selection f).1
  | .delivered r (.error f) => traceRecord r selection :: (report action selection f).1
  | .delivered r (.ok true) => [traceRecord r selection]
  | .delivered r (.ok false) => [traceRecord r selection, refusalRecord r selection]

/-- The requests that a call of some course hands to the provider. -/
def sent (selection : Value) : Course → List (Value × Request)
  | .delivered r _ => [(selection, r)]
  | _ => []

theorem perform_resolve (s : Session) (selection : Value) :
    (s.resolve selection).1.perform.2 = s.perform.2 := by
  unfold resolve perform
  cases s.route <;> rfl

/-- A call whose arguments fit does what its course says. -/
theorem invoke_eq (s : Session) (action : Action) (a : Arguments) :
    s.invoke action a =
      (s.moved (a.value "selection") (s.course action a),
       { outcome := outcome action (a.value "selection") (s.course action a),
         records := (action.makeRequest s.scale a).1 ++
           ownRecords action (a.value "selection") (s.course action a),
         sent := sent (a.value "selection") (s.course action a) }) := by
  unfold invoke course
  obtain ⟨made, result⟩ := action.makeRequest s.scale a
  cases result with
  | error f => rfl
  | ok request =>
    have same := s.perform_resolve (a.value "selection")
    unfold send
    cases resolved : s.resolve (a.value "selection") with
    | mk s' found =>
      rw [resolved] at same
      cases found with
      | error f => simp only [moved, resolved, outcome, ownRecords, sent]
      | ok u =>
        cases performed : s'.perform with
        | mk s'' answered =>
          rw [performed] at same
          subst same
          cases h : s.perform.2 with
          | error f =>
            rw [h] at performed
            simp only [moved, resolved, performed, outcome, ownRecords, sent]
          | ok b =>
            rw [h] at performed
            cases b <;> simp only [moved, resolved, performed, outcome, ownRecords, sent]

theorem report_ne_accepted {action : Action} {selection : Value} {f : Failure} :
    (report action selection f).2 ≠ .answered true := by
  cases f <;> simp [report]

theorem report_ofFault (action : Action) (selection : Value) (f : Fault) :
    (report action selection (.ofFault f)).2 = .answered false := by
  cases f <;> rfl

end Session

end Thermostat
