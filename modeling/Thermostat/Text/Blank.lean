import Thermostat.Text.Point
import Thermostat.Text.Range

/-! White space of every script, and trimming. -/
namespace Thermostat.Text

/-- Ranges of white-space characters, separators of information included. -/
def blankRanges : List (Nat × Nat) :=
  [(9, 13), (28, 32), (133, 133), (160, 160), (5760, 5760), (8192, 8202), (8232, 8233),
   (8239, 8239), (8287, 8287), (12288, 12288)]

def isBlank (c : Char) : Bool := inRanges blankRanges c.toNat

def isBlankPoint (p : CodePoint) : Bool := inRanges blankRanges p.number

/-- Drops the items of a kind at the end of a list. -/
def dropEnd {α : Type} (p : α → Bool) (l : List α) : List α := (l.reverse.dropWhile p).reverse

def trimChars (cs : List Char) : List Char := dropEnd isBlank (cs.dropWhile isBlank)

def trimRightPoints (ps : List CodePoint) : List CodePoint := dropEnd isBlankPoint ps

def trimPoints (ps : List CodePoint) : List CodePoint := trimRightPoints (ps.dropWhile isBlankPoint)

def trim (t : Text) : Text := ⟨trimPoints t.points⟩

def trimRight (t : Text) : Text := ⟨trimRightPoints t.points⟩

def isBlankText (t : Text) : Bool := t.points.all isBlankPoint

theorem isBlankText_iff {t : Text} :
    isBlankText t = true ↔ ∀ p ∈ t.points, isBlankPoint p = true := by
  simp [isBlankText]

end Thermostat.Text
