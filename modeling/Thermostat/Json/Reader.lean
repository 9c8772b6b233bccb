import Thermostat.Entries
import Thermostat.Value.Basic

/-! Reading structured text: one value with everything in it, and the place where a text stops being one. -/
namespace Thermostat.Json

inductive Flaw
  | expectedValue
  | expectedName
  | expectedColon
  | expectedComma
  | extraData
  | unterminated
  | controlCharacter
  | badEscape
  | badUnicodeEscape
  | byteOrderMark
deriving DecidableEq

def Flaw.message : Flaw → String
  | .expectedValue => "Expecting value"
  | .expectedName => "Expecting property name enclosed in double quotes"
  | .expectedColon => "Expecting ':' delimiter"
  | .expectedComma => "Expecting ',' delimiter"
  | .extraData => "Extra data"
  | .unterminated => "Unterminated string starting at"
  | .controlCharacter => "Invalid control character at"
  | .badEscape => "Invalid \\escape"
  | .badUnicodeEscape => "Invalid \\uXXXX escape"
  | .byteOrderMark => "Unexpected UTF-8 BOM (decode using utf-8-sig)"

/-- What lists and objects have in common: other values stand in them. -/
inductive Container
  | list
  | object
deriving DecidableEq

/-- Why reading stopped: a flaw with the number of code points from there to the end, a number with
more digits than are allowed, or a list or an object too deep inside of others. -/
inductive Stop
  | flaw (f : Flaw) (remaining : Nat)
  | longNumber (digits : Nat)
  | tooDeep (c : Container)
deriving DecidableEq

def stopAt {α : Type} (f : Flaw) (ps : List CodePoint) : Except Stop α :=
  .error (.flaw f ps.length)

def isSpace (c : Char) : Bool := c == ' ' || c == '\t' || c == '\n' || c == '\r'

def skipSpace (ps : List CodePoint) : List CodePoint := ps.dropWhile (·.satisfies isSpace)

def hexDigit? (c : Char) : Option Nat :=
  if c.isDigit then some (c.toNat - '0'.toNat)
  else if 'a' ≤ c && c ≤ 'f' then some (c.toNat - 'a'.toNat + 10)
  else if 'A' ≤ c && c ≤ 'F' then some (c.toNat - 'A'.toNat + 10)
  else none

def hex4? (ps : List CodePoint) : Option Nat := do
  if ps.length < 4 then none
  (ps.take 4).foldlM (fun n p => (p.toChar?.bind hexDigit?).map (16 * n + ·)) 0

/-- The second half of a pair behind a first half: its escape must not end the text. -/
def lowHalf? (ps : List CodePoint) : Except Stop (Option CodePoint) :=
  match ps with
  | .char '\\' :: .char 'u' :: rest =>
    if rest.length ≤ 4 then .ok none
    else
      match hex4? rest with
      | none => stopAt .badUnicodeEscape (.char 'u' :: rest)
      | some n =>
        let p := CodePoint.ofNat n
        .ok (if p.isLow then some p else none)
  | _ => .ok none

/-- The code point that two halves of a pair stand for. -/
def pairOf (high low : CodePoint) : CodePoint :=
  .ofNat (0x10000 + (high.number - 0xD800) * 0x400 + (low.number - 0xDC00))

/-- An escape by code, behind its letter; its digits must not end the text. The escapes of both halves
of a pair are read as one; a half alone stays what it is. -/
def readCode (ps : List CodePoint) : Except Stop (CodePoint × List CodePoint) := do
  if ps.length ≤ 4 then stopAt .badUnicodeEscape (.char 'u' :: ps)
  else
    match hex4? ps with
    | none => stopAt .badUnicodeEscape (.char 'u' :: ps)
    | some n =>
      let p := CodePoint.ofNat n
      let rest := ps.drop 4
      if p.isHigh then
        match ← lowHalf? rest with
        | some low => .ok (pairOf p low, rest.drop 6)
        | none => .ok (p, rest)
      else .ok (p, rest)

def plainEscape? : Char → Option Char
  | '"' => some '"'
  | '\\' => some '\\'
  | '/' => some '/'
  | 'b' => some '\x08'
  | 'f' => some '\x0c'
  | 'n' => some '\n'
  | 'r' => some '\r'
  | 't' => some '\t'
  | _ => none

/-- A text behind its opening quote, which stands at the given place; what was read of it so far stands
in reverse order. -/
def readPoints (start : Nat) :
    Nat → List CodePoint → List CodePoint → Except Stop (Text × List CodePoint)
  | 0, _, _ => .error (.flaw .unterminated start)
  | fuel + 1, acc, ps =>
    match ps with
    | [] => .error (.flaw .unterminated start)
    | .char '"' :: rest => .ok (⟨acc.reverse⟩, rest)
    | .char '\\' :: [] => .error (.flaw .unterminated start)
    | .char '\\' :: p :: rest =>
      if p == .char 'u' then do
        let (p, rest) ← readCode rest
        readPoints start fuel (p :: acc) rest
      else
        match p.toChar?.bind plainEscape? with
        | some d => readPoints start fuel (.char d :: acc) rest
        | none => stopAt .badEscape ps
    | p :: rest =>
      if p.number < 0x20 then stopAt .controlCharacter ps
      else readPoints start fuel (p :: acc) rest

def readText (ps : List CodePoint) : Except Stop (Text × List CodePoint) :=
  readPoints (ps.length + 1) (ps.length + 1) [] ps

def spanDigits (ps : List CodePoint) : List Char × List CodePoint :=
  let isDigit (p : CodePoint) : Bool := p.satisfies Char.isDigit
  ((ps.takeWhile isDigit).filterMap CodePoint.toChar?, ps.dropWhile isDigit)

/-- A point with at least one digit, or nothing. -/
def spanFraction (ps : List CodePoint) : List Char × List CodePoint :=
  match ps with
  | .char '.' :: rest =>
    let (ds, rest) := spanDigits rest
    if ds.isEmpty then ([], ps) else ('.' :: ds, rest)
  | _ => ([], ps)

def spanSign (ps : List CodePoint) : List Char × List CodePoint :=
  match ps with
  | .char '-' :: rest => (['-'], rest)
  | .char '+' :: rest => (['+'], rest)
  | _ => ([], ps)

/-- An exponent with at least one digit, or nothing. -/
def spanExponent (ps : List CodePoint) : List Char × List CodePoint :=
  match ps with
  | p :: rest =>
    if p == .char 'e' || p == .char 'E' then
      let (sign, rest) := spanSign rest
      let (ds, rest) := spanDigits rest
      if ds.isEmpty then ([], ps) else ('e' :: sign ++ ds, rest)
    else ([], ps)
  | [] => ([], [])

/-- Whole digits: a single zero, or digits that do not start with one. -/
def spanWhole (ps : List CodePoint) : List Char × List CodePoint :=
  match ps with
  | .char '0' :: rest => (['0'], rest)
  | _ => spanDigits ps

def digitsValue (ds : List Char) : Nat := Text.ofDigits (ds.filterMap Text.asciiDigit?)

/-- A number: whole if it has neither fraction nor exponent. -/
def readNumber (limit : Option Nat) (ps : List CodePoint) : Except Stop (Value × List CodePoint) :=
  let (negative, body) := match ps with
    | .char '-' :: rest => (true, rest)
    | _ => (false, ps)
  let (whole, rest) := spanWhole body
  if whole.isEmpty then stopAt .expectedValue ps
  else
    let (fraction, rest) := spanFraction rest
    let (exponent, rest) := spanExponent rest
    if fraction.isEmpty && exponent.isEmpty then
      if limit.any (· < whole.length) then .error (.longNumber whole.length)
      else
        let n : Int := digitsValue whole
        .ok (.int (if negative then -n else n), rest)
    else
      match Numeral.readFinite negative (whole ++ fraction ++ exponent) with
      | some d => .ok (.float (.ofDecimal d), rest)
      | none => stopAt .expectedValue ps

def words : List (Text × Value) :=
  [("null", .none), ("true", .bool true), ("false", .bool false), ("NaN", .float .notANumber),
   ("Infinity", .float (.infinite false)), ("-Infinity", .float (.infinite true))]

/-- The depth that is left inside of a list or an object. -/
def enter (c : Container) : Nat → Except Stop Nat
  | 0 => .error (.tooDeep c)
  | depth + 1 => .ok depth

mutual

/-- A value from its first code point on, given how deep lists and objects may stand in one another. -/
def readValue (limit : Option Nat) :
    Nat → Nat → List CodePoint → Except Stop (Value × List CodePoint)
  | 0, _, ps => stopAt .expectedValue ps
  | fuel + 1, depth, ps =>
    match ps with
    | [] => stopAt .expectedValue ps
    | .char '"' :: rest => do
      let (t, rest) ← readText rest
      .ok (.text (.text t), rest)
    | .char '[' :: rest => do
      let inner ← enter .list depth
      match skipSpace rest with
      | .char ']' :: rest => .ok (.list [], rest)
      | rest => readItems limit fuel inner [] rest
    | .char '\x7b' :: rest => do
      let inner ← enter .object depth
      match skipSpace rest with
      | .char '\x7d' :: rest => .ok (.dict [], rest)
      | rest => readEntries limit fuel inner [] rest
    | ps =>
      match words.find? fun w => w.1.points.isPrefixOf ps with
      | some (w, v) => .ok (v, ps.drop w.length)
      | none => readNumber limit ps

/-- The items of a list from one of them on; those before stand in reverse order. -/
def readItems (limit : Option Nat) :
    Nat → Nat → List Value → List CodePoint → Except Stop (Value × List CodePoint)
  | 0, _, _, ps => stopAt .expectedValue ps
  | fuel + 1, depth, before, ps => do
    let (v, rest) ← readValue limit fuel depth ps
    match skipSpace rest with
    | .char ']' :: rest => .ok (.list (v :: before).reverse, rest)
    | .char ',' :: rest => readItems limit fuel depth (v :: before) (skipSpace rest)
    | rest => stopAt .expectedComma rest

/-- The entries of an object from one of them on, those before it given. -/
def readEntries (limit : Option Nat) :
    Nat → Nat → List (Text × Value) → List CodePoint → Except Stop (Value × List CodePoint)
  | 0, _, _, ps => stopAt .expectedValue ps
  | fuel + 1, depth, before, ps =>
    match ps with
    | .char '"' :: rest => do
      let (name, rest) ← readText rest
      match skipSpace rest with
      | .char ':' :: rest => do
        let (v, rest) ← readValue limit fuel depth (skipSpace rest)
        let entries := Entries.set name v before
        match skipSpace rest with
        | .char '\x7d' :: rest => .ok (.dict entries, rest)
        | .char ',' :: rest => readEntries limit fuel depth entries (skipSpace rest)
        | rest => stopAt .expectedComma rest
      | rest => stopAt .expectedColon rest
    | ps => stopAt .expectedName ps

end

/-- Why a text is not read: a flaw at a place counted from its beginning, a long number, or a list or
an object too deep inside of others. -/
inductive ReadError
  | flaw (f : Flaw) (position line column : Nat)
  | longNumber (limit digits : Nat)
  | tooDeep (c : Container)

/-- Line and column of a place, both from 1. -/
def lineColumn (ps : List CodePoint) (position : Nat) : Nat × Nat :=
  let before := ps.take position
  (before.count (.char '\n') + 1, (before.reverse.takeWhile (· != .char '\n')).length + 1)

/-- Reads a text that is one value with white space around it. Lists and objects may stand in one
another as deep as is given. -/
def read (limit : Option Nat) (depth : Nat) (text : Text) : Except ReadError Value :=
  let ps := text.points
  let fail {α : Type} (f : Flaw) (remaining : Nat) : Except ReadError α :=
    let position := ps.length - remaining
    let (line, column) := lineColumn ps position
    .error (.flaw f position line column)
  if ps.head? == some (.ofNat 0xFEFF) then fail .byteOrderMark ps.length
  else
    match readValue limit (2 * ps.length + 2) depth (skipSpace ps) with
    | .error (.flaw f remaining) => fail f remaining
    | .error (.longNumber digits) => .error (.longNumber (limit.getD 0) digits)
    | .error (.tooDeep c) => .error (.tooDeep c)
    | .ok (v, rest) =>
      match skipSpace rest with
      | [] => .ok v
      | rest => fail .extraData rest.length

def ReadError.message : ReadError → String
  | .flaw f position line column =>
    f.message ++ ": line " ++ toString line ++ " column " ++ toString column ++
      " (char " ++ toString position ++ ")"
  | .longNumber limit digits =>
    "Exceeds the limit (" ++ toString limit ++ " digits) for integer string conversion: value has " ++
      toString digits ++ " digits; use sys.set_int_max_str_digits() to increase the limit"
  | .tooDeep c =>
    "maximum recursion depth exceeded while decoding a JSON " ++
      (match c with
        | .list => "array"
        | .object => "object") ++ " from a unicode string"

end Thermostat.Json
