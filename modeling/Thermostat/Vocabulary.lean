import Thermostat.Text.Point

/-! The closed word lists of the thermostat's requests, and words as texts. -/
namespace Thermostat

inductive HoldType
  | dateTime
  | nextTransition
  | indefinite
  | holdHours
deriving DecidableEq

inductive FanMode
  | auto
  | on
deriving DecidableEq

inductive VentilatorMode
  | auto
  | minOnTime
  | on
  | off
deriving DecidableEq

inductive AckType
  | accept
  | decline
  | defer
  | unacknowledged
deriving DecidableEq

inductive PlugState
  | on
  | off
  | resume
deriving DecidableEq

inductive TemperatureScale
  | fahrenheit
  | celsius
deriving DecidableEq

/-- A word of one of the lists. -/
inductive Word
  | holdType (w : HoldType)
  | fanMode (w : FanMode)
  | ventilatorMode (w : VentilatorMode)
  | ackType (w : AckType)
  | plugState (w : PlugState)
  | temperatureScale (w : TemperatureScale)
deriving DecidableEq

/-- A closed list of words: its title, its words in order, and how each is named and written. -/
class Vocabulary (α : Type) where
  title : String
  all : List α
  name : α → String
  literal : α → String
  word : α → Word
  /-- The word itself, where it belongs to this list. -/
  ofWord? : Word → Option α

instance : Vocabulary HoldType where
  title := "HoldType"
  all := [.dateTime, .nextTransition, .indefinite, .holdHours]
  name
    | .dateTime => "DATE_TIME"
    | .nextTransition => "NEXT_TRANSITION"
    | .indefinite => "INDEFINITE"
    | .holdHours => "HOLD_HOURS"
  literal
    | .dateTime => "dateTime"
    | .nextTransition => "nextTransition"
    | .indefinite => "indefinite"
    | .holdHours => "holdHours"
  word := .holdType
  ofWord?
    | .holdType w => some w
    | _ => none

instance : Vocabulary FanMode where
  title := "FanMode"
  all := [.auto, .on]
  name
    | .auto => "AUTO"
    | .on => "ON"
  literal
    | .auto => "auto"
    | .on => "on"
  word := .fanMode
  ofWord?
    | .fanMode w => some w
    | _ => none

instance : Vocabulary VentilatorMode where
  title := "VentilatorMode"
  all := [.auto, .minOnTime, .on, .off]
  name
    | .auto => "AUTO"
    | .minOnTime => "MIN_ON_TIME"
    | .on => "ON"
    | .off => "OFF"
  literal
    | .auto => "auto"
    | .minOnTime => "minontime"
    | .on => "on"
    | .off => "off"
  word := .ventilatorMode
  ofWord?
    | .ventilatorMode w => some w
    | _ => none

instance : Vocabulary AckType where
  title := "AckType"
  all := [.accept, .decline, .defer, .unacknowledged]
  name
    | .accept => "ACCEPT"
    | .decline => "DECLINE"
    | .defer => "DEFER"
    | .unacknowledged => "UNACKNOWLEDGED"
  literal
    | .accept => "accept"
    | .decline => "decline"
    | .defer => "defer"
    | .unacknowledged => "unacknowledged"
  word := .ackType
  ofWord?
    | .ackType w => some w
    | _ => none

instance : Vocabulary PlugState where
  title := "PlugState"
  all := [.on, .off, .resume]
  name
    | .on => "ON"
    | .off => "OFF"
    | .resume => "RESUME"
  literal
    | .on => "on"
    | .off => "off"
    | .resume => "resume"
  word := .plugState
  ofWord?
    | .plugState w => some w
    | _ => none

instance : Vocabulary TemperatureScale where
  title := "TemperatureScale"
  all := [.fahrenheit, .celsius]
  name
    | .fahrenheit => "FAHRENHEIT"
    | .celsius => "CELSIUS"
  literal
    | .fahrenheit => "F"
    | .celsius => "C"
  word := .temperatureScale
  ofWord?
    | .temperatureScale w => some w
    | _ => none

namespace Vocabulary

/-- The word of the list that is written so. -/
def ofLiteral? (α : Type) [Vocabulary α] (t : Text) : Option α :=
  (all (α := α)).find? fun w => Text.ofString (literal w) == t

def choices (α : Type) [Vocabulary α] : String :=
  ", ".intercalate ((all (α := α)).map literal)

/-- Title and name, as a word is shown in running text. -/
def plain [Vocabulary α] (w : α) : String := title α ++ "." ++ name w

/-- Title, name and quoted literal, as a word is shown among values. -/
def shown [Vocabulary α] (w : α) : String := "<" ++ plain w ++ ": '" ++ literal w ++ "'>"

end Vocabulary

namespace Word

/-- Applies a function of lists of words to the list that a word belongs to. -/
def withList {β : Type} (f : (α : Type) → [Vocabulary α] → α → β) : Word → β
  | .holdType w => f HoldType w
  | .fanMode w => f FanMode w
  | .ventilatorMode w => f VentilatorMode w
  | .ackType w => f AckType w
  | .plugState w => f PlugState w
  | .temperatureScale w => f TemperatureScale w

def title (w : Word) : String := w.withList fun α _ _ => Vocabulary.title α
def literal (w : Word) : String := w.withList fun _ _ v => Vocabulary.literal v
def plain (w : Word) : String := w.withList fun _ _ v => Vocabulary.plain v
def shown (w : Word) : String := w.withList fun _ _ v => Vocabulary.shown v

end Word

/-- A text as callers give it: plain, or a word of one of the lists, which counts as its literal. -/
inductive Label
  | text (t : Text)
  | word (w : Word)
deriving DecidableEq

namespace Label

def content : Label → Text
  | .text t => t
  | .word w => w.literal

def length (l : Label) : Nat := l.content.length

end Label

end Thermostat
