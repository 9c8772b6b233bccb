/-! Texts as sequences of code points: characters, and halves of surrogate pairs that stand alone. -/
namespace Thermostat

/-- A code point: a character, or a half of a surrogate pair that has no other half. Halves are counted
from the first one. -/
inductive CodePoint
  | char (c : Char)
  | half (n : Fin 0x800)
deriving DecidableEq

namespace CodePoint

def firstHalf : Nat := 0xD800

def number : CodePoint → Nat
  | char c => c.toNat
  | half n => firstHalf + n

/-- The code point of a number. Numbers beyond all code points give the character of number zero. -/
def ofNat (n : Nat) : CodePoint :=
  if h : firstHalf ≤ n ∧ n - firstHalf < 0x800 then half ⟨n - firstHalf, h.2⟩ else char (.ofNat n)

theorem ofNat_number (p : CodePoint) : ofNat p.number = p := by
  cases p with
  | char c =>
    have h : ¬ (firstHalf ≤ c.toNat ∧ c.toNat - firstHalf < 0x800) := by
      have valid : c.toNat < 0xD800 ∨ 0xDFFF < c.toNat ∧ c.toNat < 0x110000 := c.valid
      simp only [firstHalf]
      omega
    simp [ofNat, number, h]
  | half n => simp [ofNat, number]

def isHigh : CodePoint → Bool
  | char _ => false
  | half n => n < 0x400

def isLow : CodePoint → Bool
  | char _ => false
  | half n => 0x400 ≤ n.val

def toChar? : CodePoint → Option Char
  | char c => some c
  | half _ => none

def isHalf (p : CodePoint) : Bool := p.toChar?.isNone

/-- Whether a code point is a character of a kind. -/
def satisfies (p : CodePoint) (kind : Char → Bool) : Bool := p.toChar?.any kind

end CodePoint

/-- A text, which need not be a sequence of characters only. -/
structure Text where
  points : List CodePoint
deriving DecidableEq

namespace Text

def ofString (s : String) : Text := ⟨s.toList.map .char⟩

instance : Coe String Text := ⟨ofString⟩

instance : Append Text := ⟨fun a b => ⟨a.points ++ b.points⟩⟩

instance : Inhabited Text := ⟨⟨[]⟩⟩

theorem points_append (a b : Text) : (a ++ b).points = a.points ++ b.points := rfl

/-- The text as a string, unless it holds a half of a pair. -/
def toString? (t : Text) : Option String := (t.points.mapM CodePoint.toChar?).map String.ofList

theorem toString?_ofString (s : String) : (ofString s).toString? = some s := by
  have h (cs : List Char) : (cs.map CodePoint.char).mapM CodePoint.toChar? = some cs := by
    induction cs with
    | nil => rfl
    | cons c cs ih => simp [CodePoint.toChar?, ih]
  simp [toString?, ofString, h]

theorem ofString_inj {s t : String} : ofString s = ofString t ↔ s = t := by
  refine ⟨fun h => ?_, congrArg ofString⟩
  have := toString?_ofString s
  rw [h, toString?_ofString] at this
  exact (Option.some.inj this).symm

def isEmpty (t : Text) : Bool := t.points.isEmpty

def length (t : Text) : Nat := t.points.length

def take (n : Nat) (t : Text) : Text := ⟨t.points.take n⟩

def drop (n : Nat) (t : Text) : Text := ⟨t.points.drop n⟩

def join (ts : List Text) : Text := ⟨ts.flatMap points⟩

def intercalate (between : Text) (ts : List Text) : Text :=
  ⟨between.points.intercalate (ts.map points)⟩

end Text

end Thermostat
