import Thermostat.Text.Digit
import Thermostat.Text.Point
import Thermostat.Text.Printable

/-! Quoted text: single quotes, or double ones where the text holds single quotes only. -/
namespace Thermostat.Text

/-- A double quote is used only where it avoids escaping single ones. -/
def quoteFor (hasSingle hasDouble : Bool) : Char := if hasSingle && !hasDouble then '"' else '\''

/-- Escape of a character that is not shown as it is, with as few hexadecimal digits as fit. -/
def escapeCode (n : Nat) : String :=
  if n < 0x100 then "\\x" ++ hex 2 n
  else if n < 0x10000 then "\\u" ++ hex 4 n
  else "\\U" ++ hex 8 n

/-- One character inside the given quotes. -/
def quoteChar (quote c : Char) : String :=
  if c == quote || c == '\\' then String.ofList ['\\', c]
  else if c == '\n' then "\\n"
  else if c == '\r' then "\\r"
  else if c == '\t' then "\\t"
  else if isPrintable c then String.singleton c
  else escapeCode c.toNat

/-- One code point inside the given quotes; a half of a pair is no character and is escaped. -/
def quotePoint (quote : Char) (p : CodePoint) : String :=
  match p.toChar? with
  | some c => quoteChar quote c
  | none => escapeCode p.number

def quoted (t : Text) : String :=
  let q := quoteFor (t.points.contains (.char '\'')) (t.points.contains (.char '"'))
  String.singleton q ++ String.join (t.points.map (quotePoint q)) ++ String.singleton q

/-- A text for where only characters can stand: halves of pairs are written as escapes. -/
def printed (t : Text) : String :=
  String.join (t.points.map fun p =>
    match p with
    | .char c => String.singleton c
    | .half _ => escapeCode p.number)

/-- One byte inside the given quotes; only ASCII is shown as it is. -/
def quoteByte (quote : Char) (b : Nat) : String :=
  if b < 0x80 then
    let c := Char.ofNat b
    if c == quote || c == '\\' || c == '\n' || c == '\r' || c == '\t' then quoteChar quote c
    else if 0x20 ≤ b && b < 0x7f then String.singleton c
    else escapeCode b
  else escapeCode b

def quotedBytes (bytes : List Nat) : String :=
  let q := quoteFor (bytes.contains 0x27) (bytes.contains 0x22)
  "b" ++ String.singleton q ++ String.join (bytes.map (quoteByte q)) ++ String.singleton q

end Thermostat.Text
