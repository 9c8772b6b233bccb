import Thermostat.Path
import Thermostat.Value.Text

/-! What can be wrong with settings: with their text, with references between them, with single values. -/
namespace Thermostat.Settings

/-- The ways in which settings are refused. Lines are counted from 1. -/
inductive Fault
  /-- Lines that are neither a header nor an option. -/
  | malformed (source : Path) (lines : List (Nat × Text))
  | missingHeader (source : Path) (number : Nat) (line : Text)
  | duplicateSection (source : Path) (name : Text) (number : Nat)
  | duplicateOption (source : Path) (name option : Text) (number : Nat)
  /-- No section has the name, which is shown in literal form. -/
  | unknownSection (literal : String)
  /-- A value of this kind cannot be the name of a section. -/
  | notName (typeName : String)
  /-- A number with too many digits had to be written. -/
  | unwritable
  /-- A percent sign that begins no reference; the rest of the value begins with it. -/
  | strayPercent (rest : Text)
  /-- A reference that is not closed; the rest of the value begins with it. -/
  | openReference (rest : Text)
  | unknownReference (name option reference raw : Text)
  | endlessReference (name option raw : Text)
  | badPercent (value : Text) (position : Nat)
  | notBoolean (value : Text)
  | optionNotText
  | valueNotText
  | noHome (e : Path.HomeError)

def maxDepth : Nat := 10

namespace Fault

def sourceText (p : Path) : String := "PosixPath(" ++ Text.quoted p.text ++ ")"

/-- A line number with at least two places. -/
def numberText (n : Nat) : String := (if n < 10 then " " else "") ++ toString n

def label : Fault → String
  | malformed .. => "ParsingError"
  | missingHeader .. => "MissingSectionHeaderError"
  | duplicateSection .. => "DuplicateSectionError"
  | duplicateOption .. => "DuplicateOptionError"
  | unknownSection .. => "NoSectionError"
  | notName .. => "TypeError"
  | unwritable => "ValueError"
  | strayPercent .. => "InterpolationSyntaxError"
  | openReference .. => "InterpolationSyntaxError"
  | unknownReference .. => "InterpolationMissingOptionError"
  | endlessReference .. => "InterpolationDepthError"
  | badPercent .. => "ValueError"
  | notBoolean .. => "ValueError"
  | optionNotText => "TypeError"
  | valueNotText => "TypeError"
  | noHome .unknownAccount => "RuntimeError"
  | noHome .nullCharacter => "ValueError"
  | noHome (.unusable _) => Text.HalfRun.label

def message : Fault → Text
  | malformed source lines =>
    "Source contains parsing errors: " ++ sourceText source ++
      String.join (lines.map fun (n, line) =>
        "\n\t[line " ++ numberText n ++ "]: " ++ Text.quoted line)
  | missingHeader source number line =>
    "File contains no section headers.\nfile: " ++ sourceText source ++ ", line: " ++
      toString number ++ "\n" ++ Text.quoted line
  | duplicateSection source name number =>
    "While reading from " ++ sourceText source ++ " [line " ++ numberText number ++ "]: section " ++
      Text.quoted name ++ " already exists"
  | duplicateOption source name option number =>
    "While reading from " ++ sourceText source ++ " [line " ++ numberText number ++ "]: option " ++
      Text.quoted option ++ " in section " ++ Text.quoted name ++ " already exists"
  | unknownSection literal => "No section: " ++ literal
  | notName typeName => "unhashable type: '" ++ typeName ++ "'"
  | unwritable => tooManyDigits
  | strayPercent rest => "'%' must be followed by '%' or '(', found: " ++ Text.quoted rest
  | openReference rest => "bad interpolation variable reference " ++ Text.quoted rest
  | unknownReference name option reference raw =>
    "Bad value substitution: option " ++ Text.quoted option ++ " in section " ++ Text.quoted name ++
      " contains an interpolation key " ++ Text.quoted reference ++
      " which is not a valid option name. Raw value: " ++ Text.quoted raw
  | endlessReference name option raw =>
    "Recursion limit exceeded in value substitution: option " ++ Text.quoted option ++
      " in section " ++ Text.quoted name ++
      " contains an interpolation key which cannot be substituted in " ++ toString maxDepth ++
      " steps. Raw value: " ++ Text.quoted raw
  | badPercent value position =>
    "invalid interpolation syntax in " ++ Text.quoted value ++ " at position " ++ toString position
  | notBoolean value => "Not a boolean: " ++ value
  | optionNotText => "option keys must be strings"
  | valueNotText => "option values must be strings"
  | noHome .unknownAccount => "Could not determine home directory."
  | noHome .nullCharacter => "embedded null byte"
  | noHome (.unusable r) => r.message

end Fault

end Thermostat.Settings
