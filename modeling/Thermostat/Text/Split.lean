/-! Cutting texts at characters. -/
namespace Thermostat.Text

variable {α : Type}

/-- The parts between the characters of a kind; there is always at least one part. -/
def splitAt (p : α → Bool) : List α → List (List α)
  | [] => [[]]
  | c :: cs =>
    if p c then [] :: splitAt p cs
    else
      match splitAt p cs with
      | [] => [[c]]
      | part :: parts => (c :: part) :: parts

/-- What stands before and after the first character of a kind, if there is one. -/
def cutAt? (p : α → Bool) : List α → Option (List α × List α)
  | [] => none
  | c :: cs => if p c then some ([], cs) else (cutAt? p cs).map fun (a, b) => (c :: a, b)

end Thermostat.Text
