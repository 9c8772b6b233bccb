import Thermostat.Text.Point
import Thermostat.Text.Range
import Thermostat.Text.Case.Upper
import Thermostat.Text.Case.Lower
import Thermostat.Text.Case.Context

/-! Upper and lower case of whole texts, with images of several characters and the final sigma. -/
namespace Thermostat.Text

namespace Case

/-- The image of a code point under a table of runs, itself when no run holds it. -/
def imageInRuns (runs : List (Nat × Nat × Nat × Int)) (n : Nat) : Nat :=
  match runs.find? fun r => r.1 ≤ n && n ≤ r.2.1 && (n - r.1) % r.2.2.1 == 0 with
  | some r => (Int.ofNat n + r.2.2.2).toNat
  | none => n

/-- The image of a code point: its expansion if it has one, else one character. A half of a pair has
no case. -/
def image (expansions : List (Nat × List Nat)) (runs : List (Nat × Nat × Nat × Int)) :
    CodePoint → List CodePoint
  | .half n => [.half n]
  | .char c =>
    match expansions.find? fun e => e.1 == c.toNat with
    | some e => e.2.map CodePoint.ofNat
    | none => [.ofNat (imageInRuns runs c.toNat)]

def isCased (p : CodePoint) : Bool := inRanges casedRanges p.number

def isIgnorable (p : CodePoint) : Bool := inRanges ignorableRanges p.number

/-- Whether the first code point that is not skipped has case. -/
def startsCased (ps : List CodePoint) : Bool :=
  match ps.dropWhile isIgnorable with
  | [] => false
  | p :: _ => isCased p

/-- A capital sigma ends a word if cased text stands before it and none after it. -/
def sigmaImage (before after : List CodePoint) : Char :=
  if startsCased before && !startsCased after then 'ς' else 'σ'

/-- Lower case of a text, given the code points before it in reverse order. -/
def lowerFrom : List CodePoint → List CodePoint → List CodePoint
  | _, [] => []
  | before, p :: rest =>
    (if p == .char 'Σ' then [.char (sigmaImage before rest)] else image lowerExpansions lowerRuns p) ++
      lowerFrom (p :: before) rest

end Case

def upper (t : Text) : Text := ⟨t.points.flatMap (Case.image Case.upperExpansions Case.upperRuns)⟩

def lower (t : Text) : Text := ⟨Case.lowerFrom [] t.points⟩

end Thermostat.Text
