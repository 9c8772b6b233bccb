import Thermostat.Value.Text

/-! Why an argument is refused, and why a request cannot be made. -/
namespace Thermostat

/-- The ways in which an argument is refused. -/
inductive Rejection
  | notBoolean (value : Value) (parameter : Text)
  | notInteger (value : Value) (parameter : Text)
  | notWhole (value : Value) (parameter : Text)
  | notNumeric (value : Value) (parameter : Text)
  | notFinite (value : Value) (parameter : Text)
  | missing (parameter : Text)
  /-- The value is no word of the list with this title and these choices. -/
  | notListed (value : Value) (title choices : String) (parameter : Option Text)
  | unknownScale (value : Value)
  | notMoment (value : Value) (parameter : Text)
  /-- Of start and end only one has an offset. -/
  | mixedOffsets
  | reversedWindow
  | hoursNotPositive (hours : Int)
  | hoursMissing
  | windowMissing
  | minutesOutOfRange (least greatest minutes : Int)
  | nameTooLong (greatest : Nat)
  | notEvent (typeName : String)
  | notMapping (typeName : String)

namespace Rejection

def parameter : Rejection → Option Text
  | notBoolean _ p => some p
  | notInteger _ p => some p
  | notWhole _ p => some p
  | notNumeric _ p => some p
  | notFinite _ p => some p
  | missing p => some p
  | notListed _ _ _ p => p
  | unknownScale _ => some "temperature_scale"
  | notMoment _ p => some p
  | mixedOffsets => some "endDateTime"
  | reversedWindow => some "endDateTime"
  | hoursNotPositive _ => some "holdHours"
  | hoursMissing => some "holdHours"
  | windowMissing => some "holdType"
  | minutesOutOfRange _ _ _ => some "fanMinOnTime"
  | nameTooLong _ => some "name"
  | notEvent _ => some "event"
  | notMapping _ => some "params"

/-- A wording with a whole number, or with the literal form of a value, if that can be written. -/
def worded (written? : Option String) (wording : String → Text) : Except Unwritten Text :=
  match written? with
  | some s => .ok (wording s)
  | none => .error .tooManyDigits

def expected (parameter : Text) (what : String) (value : Value) : Except Unwritten Text :=
  worded value.literal? fun t => parameter ++ " must be " ++ what ++ ", got " ++ t

/-- The wording of a refusal. There is none where the value itself cannot be written. -/
def message : Rejection → Except Unwritten Text
  | notBoolean v p => expected p "a boolean" v
  | notInteger v p => expected p "an integer" v
  | notWhole v p => expected p "a whole number" v
  | notNumeric v p => expected p "numeric" v
  | notFinite v p => expected p "finite" v
  | missing p => .ok (p ++ " is required")
  | notListed v title choices p =>
    let name : Text := match p with
      | some t => if t.isEmpty then title else t
      | none => title
    v.plain.map fun t => "Invalid " ++ name ++ " '" ++ t ++ "'. Valid values: " ++ choices ++ "."
  | unknownScale v =>
    v.plain.map fun t => "Invalid temperature scale '" ++ t ++ "'. Valid values: F, C."
  | notMoment v p => expected p "a datetime" v
  | mixedOffsets =>
    .ok "startDateTime and endDateTime must both be naive or both be timezone-aware"
  | reversedWindow => .ok "endDateTime must not be earlier than startDateTime"
  | hoursNotPositive n => worded (intText? n) fun t => "holdHours must be positive, got " ++ t
  | hoursMissing => .ok "holdHours must be specified when using holdType='holdHours'"
  | windowMissing =>
    .ok "startDateTime and endDateTime must be specified when using holdType='dateTime'"
  | minutesOutOfRange least greatest n =>
    worded (intText? n) fun t =>
      "fanMinOnTime must be between " ++ toString least ++ " and " ++ toString greatest ++ ", got " ++ t
  | nameTooLong greatest => .ok ("name must be at most " ++ toString greatest ++ " characters")
  | notEvent t => .ok ("event must be a HoldEvent, got " ++ t)
  | notMapping t => .ok ("params must be a mapping, got " ++ t)

end Rejection

/-- The ways in which a request cannot be made from its arguments. -/
inductive Fault
  | rejected (r : Rejection)
  /-- A number with too many digits had to be written. -/
  | unwritable
  | signal (s : Decimal.Signal)

namespace Fault

def ofUnwritten : Unwritten → Fault
  | .tooManyDigits => unwritable
  | .signal s => signal s

/-- Refuses an argument; where the wording cannot be written, that is the fault. -/
def ofRejection (r : Rejection) : Fault :=
  match r.message with
  | .ok _ => rejected r
  | .error e => ofUnwritten e

/-- The kind of a fault as logs and answers name it. -/
def label : Fault → String
  | rejected _ => "InvalidFunctionParameter"
  | unwritable => "ValueError"
  | signal .invalidOperation => "InvalidOperation"
  | signal .overflow => "Overflow"

def message : Fault → Text
  | rejected r => r.message.toOption.getD ""
  | unwritable => tooManyDigits
  | signal .invalidOperation => "[<class 'decimal.InvalidOperation'>]"
  | signal .overflow => "[<class 'decimal.Overflow'>]"

def parameter : Fault → Option Text
  | rejected r => r.parameter
  | _ => none

end Fault

def refuse {α : Type} (r : Rejection) : Except Fault α := .error (.ofRejection r)

/-- A decimal operation as a step of making a request. -/
def arithmetic {α : Type} : Except Decimal.Signal α → Except Fault α
  | .ok a => .ok a
  | .error s => .error (.signal s)

end Thermostat
