import Thermostat.Text.Quoted

/-! What cannot be written as characters: runs of halves of pairs, and the complaint about them. In names
of files a half can stand for a byte. -/
namespace Thermostat.Text

/-- A run of halves in a text: where it begins, with which half, and how many there are. -/
structure HalfRun where
  start : Nat
  first : CodePoint
  count : Nat
deriving DecidableEq

def halfRun? (passes : CodePoint → Bool) (t : Text) : Option HalfRun :=
  let before := t.points.takeWhile fun p => !p.isHalf || passes p
  match t.points.drop before.length with
  | [] => none
  | p :: rest => some ⟨before.length, p, (rest.takeWhile CodePoint.isHalf).length + 1⟩

def unwritable? (t : Text) : Option HalfRun := halfRun? (fun _ => false) t

/-- The byte that a half stands for in the name of a file. -/
def byte? (p : CodePoint) : Option UInt8 :=
  if 0xDC80 ≤ p.number ∧ p.number ≤ 0xDCFF then some (p.number - 0xDC00).toUInt8 else none

/-- The first run of halves in a text that is to be a path. -/
def unusable? (t : Text) : Option HalfRun := halfRun? (fun p => (byte? p).isSome) t

/-- The character whose bytes stand at the front as halves, and the number of these bytes. -/
def spelledChar? (ps : List CodePoint) : Option (Char × Nat) :=
  [2, 3, 4].findSome? fun n => do
    let bytes ← (ps.take n).mapM byte?
    match (← String.fromUTF8? ⟨bytes.toArray⟩).toList with
    | [c] => some (c, n)
    | _ => none

/-- Puts characters in place of halves that stand for their bytes, after so many that are done with. -/
def joinBytes : Nat → List CodePoint → List CodePoint
  | _, [] => []
  | done + 1, _ :: ps => joinBytes done ps
  | 0, p :: ps =>
    match spelledChar? (p :: ps) with
    | some (c, n) => .char c :: joinBytes (n - 1) ps
    | none => p :: joinBytes 0 ps

/-- The name that a file has if it is asked for by a text. -/
def fileName (t : Text) : Text := ⟨joinBytes 0 t.points⟩

theorem byte?_char (c : Char) : byte? (.char c) = none := by
  have valid : c.toNat < 0xD800 ∨ 0xDFFF < c.toNat ∧ c.toNat < 0x110000 := c.valid
  have outside : ¬ (0xDC80 ≤ c.toNat ∧ c.toNat ≤ 0xDCFF) := by omega
  simp [byte?, CodePoint.number, outside]

namespace HalfRun

def label : String := "UnicodeEncodeError"

def message (r : HalfRun) : String :=
  let place :=
    if r.count == 1 then
      "character '" ++ escapeCode r.first.number ++ "' in position " ++ toString r.start
    else
      "characters in position " ++ toString r.start ++ "-" ++ toString (r.start + r.count - 1)
  "'utf-8' codec can't encode " ++ place ++ ": surrogates not allowed"

end HalfRun

end Thermostat.Text
