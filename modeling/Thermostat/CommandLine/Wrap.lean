import Thermostat.Text.Point

/-! Texts of help in lines of limited width. -/
namespace Thermostat.CommandLine

/-- Letters of words; all signs beyond ASCII count as letters. -/
def isWordLetter (p : CodePoint) : Bool :=
  p.satisfies fun c => c.isAlpha || c == '_' || '\x80' ≤ c

def isWordSign (p : CodePoint) : Bool := isWordLetter p || p.satisfies Char.isDigit

def isHyphen (p : CodePoint) : Bool := p == .char '-'

def isGap (p : CodePoint) : Bool := p == .char ' '

/-- Whether a dash of several hyphens may follow. -/
def mayPrecedeDash (p : CodePoint) : Bool :=
  isWordSign p || p.satisfies ['!', '"', '\'', '&', '.', ',', '?'].contains

/-- Whether a text begins with a dash in front of a word. -/
def beginsWithDash (ps : List CodePoint) : Bool :=
  2 ≤ (ps.takeWhile isHyphen).length && (ps.dropWhile isHyphen).head?.any isWordSign

/-- Whether a hyphen divides a word: letters stand on both sides, perhaps with one more hyphen among
them. What stands before is given in reverse order, the hyphen first. -/
def divides : List CodePoint → List CodePoint → Bool
  | h :: before, after =>
    let twoLetters : List CodePoint → Bool
      | p :: q :: more => isWordLetter p &&
        (isWordLetter q || (isHyphen q && more.head?.any isWordLetter))
      | _ => false
    isHyphen h && twoLetters before && twoLetters after
  | [], _ => false

/-- Whether a piece of a text ends between two code points: gaps and dashes are pieces, and words end at
both of them and behind the hyphens that divide them. The piece and all that stands before its end are
given in reverse order. -/
def endsPiece (before piece after : List CodePoint) : Bool :=
  match piece, after with
  | last :: _, next :: _ =>
    if isGap last || isGap next then isGap last != isGap next
    else if 2 ≤ piece.length && piece.all isHyphen && (before.drop piece.length).head?.any mayPrecedeDash then
      isWordSign next
    else (2 ≤ piece.length && divides before after) || (mayPrecedeDash last && beginsWithDash after)
  | _, _ => false

/-- The pieces of a text between which lines can be broken. What was read of it, and of the present
piece, stands in reverse order. -/
def pieces (before piece : List CodePoint) : List CodePoint → List (List CodePoint)
  | [] => if piece.isEmpty then [] else [piece.reverse]
  | p :: rest =>
    if endsPiece before piece (p :: rest) then piece.reverse :: pieces (p :: before) [p] rest
    else pieces (p :: before) (p :: piece) rest

/-- How much of a piece that is too long for any line goes to a line with so much room: up to the last
hyphen behind something else, or all that fits. -/
def cut (room : Nat) (piece : List CodePoint) : Nat :=
  let front := piece.take room
  let behind := (front.reverse.dropWhile fun p => !isHyphen p).length
  if front.length < piece.length && (front.take (behind - 1)).any fun p => !isHyphen p then behind
  else room

def trimGap (line : List CodePoint) : List CodePoint := (line.reverse.dropWhile isGap).reverse

/-- Puts pieces into lines, given what stands in the present line. A gap at the end of a line is left
out, and so is one at the beginning of a further line. A piece that is too long for any line is cut. -/
def fill (width : Nat) : Nat → Bool → List CodePoint → List (List CodePoint) → List (List CodePoint)
  | 0, _, _, _ => []
  | _ + 1, _, line, [] => if (trimGap line).isEmpty then [] else [trimGap line]
  | fuel + 1, further, line, piece :: rest =>
    if further && line.isEmpty && piece.all isGap then fill width fuel further line rest
    else if line.length + piece.length ≤ width then fill width fuel further (line ++ piece) rest
    else if width < piece.length then
      let n := cut (width - line.length) piece
      (line ++ piece.take n) :: fill width fuel true [] (piece.drop n :: rest)
    else trimGap line :: fill width fuel true [] (piece :: rest)

/-- The lines of a text that is broken to a width, which is not zero. -/
def wrap (width : Nat) (t : Text) : List Text :=
  (fill width (2 * t.length + 1) false [] (pieces [] [] t.points)).map Text.mk

end Thermostat.CommandLine
