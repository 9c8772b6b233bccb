import Thermostat.Calendar.DateTime
import Thermostat.Power
import Thermostat.Text.Blank

/-! Reading dates and times in their standard written forms, calendar and week dates, with and without marks. -/
namespace Thermostat

namespace Iso

/-- The value of exactly n digits at the front, and the rest. -/
def takeDigits : Nat → List Char → Option (Nat × List Char)
  | n, cs =>
    let (ds, _) := Text.spanDigits (cs.take n)
    if ds.length == n then some (Text.ofDigits ds, cs.drop n) else none

/-- A week date after its year: a week, and a day unless the text ends with the week. -/
def readWeekDate (year : Nat) (marked : Bool) (cs : List Char) : Option Date := do
  let (week, rest) ← takeDigits 2 cs
  match rest with
  | [] => Date.ofWeek? year week 1
  | c :: more =>
    let rest ← if marked then (if c == '-' then some more else none) else some rest
    let (day, _) ← takeDigits 1 rest
    Date.ofWeek? year week day

def readMonthDay (year : Nat) (marked : Bool) (cs : List Char) : Option Date := do
  let (month, rest) ← takeDigits 2 cs
  let rest ← if marked then (match rest with | '-' :: more => some more | _ => none) else some rest
  let (day, rest) ← takeDigits 2 rest
  if rest.isEmpty then Date.ofYmd? year month day else none

/-- A date alone. Marks stand between all its parts or between none. -/
def readDate (cs : List Char) : Option Date := do
  let (year, rest) ← takeDigits 4 cs
  let (marked, rest) := match rest with
    | '-' :: more => (true, more)
    | _ => (false, rest)
  match rest with
  | 'W' :: more => readWeekDate year marked more
  | _ => readMonthDay year marked rest

/-- Where the date ends in a text of at least seven characters. After an unmarked week date the
number of digits tells whether the first of them is a day; after a marked one a digit in the tenth
place makes the mark before it the separator. -/
def dateLength (cs : List Char) : Option Nat :=
  let n := cs.length
  if n == 7 then some 7
  else if cs[4]? == some '-' then
    if cs[5]? == some 'W' then
      if cs[8]? == some '-' then
        if n == 9 then none
        else if (cs[10]?.map Char.isDigit).getD false then some 8
        else some 10
      else some 8
    else some 10
  else if cs[4]? == some 'W' then
    let digits := (Text.spanDigits (cs.drop 7)).1.length
    if digits < 2 then some (7 + digits)
    else if (7 + digits) % 2 == 0 then some 7
    else some 8
  else some 8

/-- Hours, minutes, seconds and microseconds, and whether something stood behind them. -/
structure Clock where
  hour : Nat
  minute : Nat
  second : Nat
  microsecond : Nat
  clean : Bool

/-- A fraction of a second: up to six digits count, further ones are dropped, and what then follows
makes the clock unclean. -/
def readFraction (cs : List Char) : Option (Nat × Bool) := do
  let n := min 6 cs.length
  let (value, rest) ← takeDigits n cs
  let rest := rest.dropWhile Char.isDigit
  some (value * powerOfTen (6 - n), rest.isEmpty || rest.head? == some '\x00')

/-- One character behind a clock: nothing, or a NUL, ends it cleanly. -/
def endsClean : List Char → Option Bool
  | [] => some true
  | [c] => if c.toNat < 0x80 then some (c == '\x00') else none
  | _ => none

/-- The parts of a clock after its first: up to the given number of pairs of digits, then a fraction.
Colons stand before all of the pairs or before none; a fraction starts with a point or a comma. -/
def readClockParts (colons : Bool) : Nat → List Nat → List Char → Option (List Nat × Nat × Bool)
  | pairs, parts, rest =>
    match endsClean rest with
    | some clean => some (parts, 0, clean)
    | none =>
      match rest with
      | [] => none
      | c :: more =>
        if !(colons && c == ':') && (c == '.' || c == ',') then do
          let (micro, clean) ← readFraction more
          some (parts, micro, clean)
        else if colons && c != ':' then none
        else
          let next := if colons then more else rest
          match pairs with
          | 0 => do
            let (micro, clean) ← readFraction next
            some (parts, micro, clean)
          | pairs + 1 => do
            let (n, rest) ← takeDigits 2 next
            readClockParts colons pairs (parts ++ [n]) rest

def readClock (cs : List Char) : Option Clock := do
  let (hour, rest) ← takeDigits 2 cs
  let (parts, micro, clean) ← readClockParts (rest.head? == some ':') 2 [hour] rest
  some ⟨parts[0]?.getD 0, parts[1]?.getD 0, parts[2]?.getD 0, micro, clean⟩

/-- Offsets of less than a second are taken as zero. -/
def offsetOf? (negative : Bool) (c : Clock) : Option Offset :=
  let seconds := c.hour * 3600 + c.minute * 60 + c.second
  if seconds == 0 then some .zero
  else
    let micro : Int := (seconds * 1000000 + c.microsecond : Nat)
    Offset.of? (if negative then -micro else micro)

/-- The offset behind a clock: a sign and a clean clock, or the letter Z at the end. -/
def readOffset : List Char → Option Offset
  | 'Z' :: rest => if rest.isEmpty || rest.head? == some '\x00' then some .zero else none
  | '+' :: rest => do
    let c ← readClock rest
    if c.clean then offsetOf? false c else none
  | '-' :: rest => do
    let c ← readClock rest
    if c.clean then offsetOf? true c else none
  | _ => none

def startsOffset (c : Char) : Bool := c == '+' || c == '-' || c == 'Z'

/-- A time of day with an optional offset. A clock that is not clean is accepted before an offset. -/
def readTime (cs : List Char) : Option (TimeOfDay × Option Offset) := do
  let zone := cs.dropWhile (fun c => !startsOffset c)
  let c ← readClock (cs.takeWhile fun c => !startsOffset c)
  let time := TimeOfDay.of? c.hour c.minute c.second c.microsecond
  if zone.isEmpty then
    if c.clean then do some ((← time), none) else none
  else do
    let o ← readOffset zone
    some ((← time), some o)

/-- A date, or a date, any one character and a time. -/
def readDateTime (cs : List Char) : Option DateTime := do
  if cs.length < 7 then none
  let n ← dateLength cs
  let date ← readDate (cs.take n)
  match cs.drop n with
  | [] => some ⟨date, .midnight, none⟩
  | _ :: rest => do
    let (time, offset) ← readTime rest
    some ⟨date, time, offset⟩

def expandZulu (ps : List CodePoint) : List CodePoint :=
  if ps.getLast? == some (.char 'Z') then ps.dropLast ++ (Text.ofString "+00:00").points else ps

/-- The places at which a date can end. -/
def separatorPlaces : List Nat := [7, 8, 10]

/-- Any one character separates a date from a time, and so does a half of a pair: the first half that
stands where a date can end is taken for the letter T. -/
def plainSeparator (ps : List CodePoint) : List CodePoint :=
  match separatorPlaces.find? fun i => ps[i]?.any CodePoint.isHalf with
  | some i => ps.set i (.char 'T')
  | none => ps

end Iso

/-- Reads a date or a moment; white space around it does not count. -/
def DateTime.read? (t : Text) : Option DateTime :=
  match Text.trimPoints t.points with
  | [] => none
  | ps => do
    let cs ← (Iso.plainSeparator (Iso.expandZulu ps)).mapM CodePoint.toChar?
    Iso.readDateTime cs

end Thermostat
