import Thermostat.Text.Digit
import Thermostat.Text.Point

/-! Writing structured text, one part a line, with two blanks for each level. -/
namespace Thermostat.Json

inductive Tree
  | null
  | bool (b : Bool)
  | int (n : Int)
  | text (t : Text)
  | list (items : List Tree)
  | dict (entries : List (Text × Tree))

def escapeUnit (n : Nat) : String := "\\u" ++ Text.hex 4 n

/-- The escape by a letter of a character that has one. -/
def letterEscape? : Char → Option String
  | '"' => some "\\\""
  | '\\' => some "\\\\"
  | '\n' => some "\\n"
  | '\r' => some "\\r"
  | '\t' => some "\\t"
  | '\x08' => some "\\b"
  | '\x0c' => some "\\f"
  | _ => none

/-- The escape of a code point by one unit, or by two halves where one is too small. -/
def escapeCode (n : Nat) : String :=
  if n < 0x10000 then escapeUnit n
  else escapeUnit (0xD800 + (n - 0x10000) / 0x400) ++ escapeUnit (0xDC00 + (n - 0x10000) % 0x400)

/-- One code point between quotes; all but printable ASCII is escaped. -/
def escapePoint (p : CodePoint) : String :=
  match p.toChar? with
  | none => escapeCode p.number
  | some c =>
    match letterEscape? c with
    | some s => s
    | none => if ' ' ≤ c && c ≤ '~' then String.singleton c else escapeCode p.number

def quote (t : Text) : String := "\"" ++ String.join (t.points.map escapePoint) ++ "\""

def indent (level : Nat) : String := String.ofList (List.replicate (2 * level) ' ')

/-- Parts between brackets, each on a line of its own one level in; brackets alone if there are none. -/
def bracket (level : Nat) (left right : String) (parts : List String) : String :=
  if parts.isEmpty then left ++ right
  else
    left ++ "\n" ++ ",\n".intercalate (parts.map (indent (level + 1) ++ ·)) ++ "\n" ++
      indent level ++ right

mutual

def write (level : Nat) : Tree → String
  | .null => "null"
  | .bool b => if b then "true" else "false"
  | .int n => toString n
  | .text t => quote t
  | .list items => bracket level "[" "]" (writeItems (level + 1) items)
  | .dict entries => bracket level "\x7b" "\x7d" (writeEntries (level + 1) entries)

def writeItems (level : Nat) : List Tree → List String
  | [] => []
  | t :: ts => write level t :: writeItems level ts

def writeEntries (level : Nat) : List (Text × Tree) → List String
  | [] => []
  | (k, t) :: es => (quote k ++ ": " ++ write level t) :: writeEntries level es

end

end Thermostat.Json
