/-! Entries by name, in the order in which the names first came. -/
namespace Thermostat

/-- Values by name. Each name has one place; the first entry of a name is the one that counts. -/
abbrev Entries (κ α : Type) : Type := List (κ × α)

namespace Entries

variable {κ α : Type} [DecidableEq κ]

def get? (es : Entries κ α) (name : κ) : Option α := (es.find? fun e => e.1 == name).map (·.2)

/-- Sets a value: a known name keeps its place and takes the new value, a new one goes to the end. -/
def set (name : κ) (v : α) : Entries κ α → Entries κ α
  | [] => [(name, v)]
  | (k, w) :: es => if k == name then (k, v) :: es else (k, w) :: set name v es

def setAll (es more : Entries κ α) : Entries κ α := more.foldl (fun es e => es.set e.1 e.2) es

def erase (es : Entries κ α) (name : κ) : Entries κ α := es.filter fun e => e.1 != name

def has (es : Entries κ α) (name : κ) : Bool := es.any fun e => e.1 == name

theorem get?_set_self (es : Entries κ α) (name : κ) (v : α) :
    (es.set name v).get? name = some v := by
  induction es with
  | nil => simp [set, get?]
  | cons e es ih =>
    obtain ⟨k, w⟩ := e
    by_cases h : k = name
    · simp [set, get?, h]
    · simp only [get?] at ih
      simp [set, get?, h, ih]

theorem get?_set_of_ne (es : Entries κ α) {name other : κ} (v : α) (ne : other ≠ name) :
    (es.set name v).get? other = es.get? other := by
  induction es with
  | nil => simp [set, get?, ne.symm]
  | cons e es ih =>
    obtain ⟨k, w⟩ := e
    simp only [get?] at ih
    by_cases h : k = name
    · subst h
      simp [set, get?, ne.symm]
    · by_cases hk : k = other
      · subst hk
        simp [set, get?, h]
      · simp [set, get?, h, hk, ih]

end Entries

end Thermostat
