import Mathlib.Data.List.TakeWhile
import Thermostat.Folder
import Thermostat.Proofs.Entries
import Thermostat.Proofs.Steps
import Thermostat.Proofs.Text.Split

/-! Files that are there: the directory above them is there as well, and what is written to them is read
from them. -/
namespace Thermostat

namespace Text

theorem unusable?_eq_none_iff {t : Text} :
    unusable? t = none ↔ ∀ p ∈ t.points, (!p.isHalf || (byte? p).isSome) = true := by
  have all : t.points.drop (t.points.takeWhile fun p => !p.isHalf || (byte? p).isSome).length = [] ↔
      ∀ p ∈ t.points, (!p.isHalf || (byte? p).isSome) = true := by
    have front := List.takeWhile_prefix (l := t.points) fun p => !p.isHalf || (byte? p).isSome
    rw [List.drop_eq_nil_iff, ← List.takeWhile_eq_self_iff]
    exact ⟨fun long => front.eq_of_length_le long, fun same => (congrArg List.length same).ge⟩
  rw [← all, unusable?, halfRun?]
  cases t.points.drop (t.points.takeWhile fun p => !p.isHalf || (byte? p).isSome).length <;> simp

end Text

namespace Folder

variable {f : Folder} {p place : Path} {text : String}

/-- A file that a path leads to, with what is in it. -/
structure Holds (f : Folder) (p : Path) (text : String) (place : Path) : Prop where
  found : f.find p = .ok place
  file : f.files.get? place = some text
  notDirectory : f.isDirectory place = false

theorem byteSize_le {s t : Text} (front : s.points <+: t.points) : byteSize s ≤ byteSize t := by
  obtain ⟨rest, whole⟩ := front
  rw [byteSize, byteSize, ← whole, List.foldl_append]
  clear whole
  generalize s.points.foldl (fun n p => n + (p.toChar?.map Char.utf8Size).getD 1) 0 = n
  induction rest generalizing n with
  | nil => exact Nat.le_refl n
  | cons q rest ih =>
    rw [List.foldl_cons]
    exact Nat.le_trans (Nat.le_add_right n _) (ih _)

/-- The text of the directory above is the beginning of a text, or a dot. -/
theorem parent_text (nonempty : p.parts ≠ []) :
    p.parent.text = "." ∨ p.parent.text.points <+: p.text.points := by
  have text : p.text = p.root ++ Text.intercalate "/" p.parts := by
    simp [Path.text, nonempty]
  have points (parts : List Text) : (Text.ofString p.root ++ Text.intercalate "/" parts).points =
      (Text.ofString p.root).points ++ [CodePoint.char '/'].intercalate (parts.map Text.points) := rfl
  rw [text]
  unfold Path.text
  split
  · exact Or.inl rfl
  · right
    obtain ⟨front, last, whole⟩ := (List.eq_nil_or_concat p.parts).resolve_left nonempty
    rw [List.concat_eq_append] at whole
    rw [Path.parent, whole, List.dropLast_concat, points, points, List.prefix_append_right_inj,
      List.map_append]
    cases front with
    | nil => exact List.nil_prefix
    | cons first rest =>
      rw [List.map_cons, List.cons_append, Text.intercalate_cons, Text.intercalate_cons,
        List.flatMap_append, ← List.append_assoc]
      exact List.prefix_append _ _

/-- All parts on the way to a place lead to directories. -/
theorem follow_append {place' : Path} {parts : List Text} {last : Text}
    (found : f.follow place (parts ++ [last]) = .ok place') :
    ∃ above, f.follow place parts = .ok above ∧ f.isDirectory above = true := by
  induction parts generalizing place with
  | nil =>
    by_cases directory : f.isDirectory place = true
    · exact ⟨place, rfl, directory⟩
    · simp [follow, directory] at found
  | cons part parts ih =>
    by_cases directory : f.isDirectory place = true
    · rw [List.cons_append, follow, if_pos directory] at found
      by_cases long : maxPart < byteSize part
      · rw [if_pos long] at found
        cases found
      · rw [if_neg long] at found
        rw [follow, if_pos directory, if_neg long]
        exact ih found
    · rw [List.cons_append, follow, if_neg directory] at found
      cases found

theorem find_eq_ok_iff : f.find p = .ok place ↔ Text.unusable? p.text = none ∧
    .char '\x00' ∉ p.text.points ∧ byteSize p.text ≤ maxPath ∧
    f.follow p.start p.parts = .ok place := by
  unfold find
  cases Text.unusable? p.text with
  | some r => simp
  | none =>
    by_cases null : CodePoint.char '\x00' ∈ p.text.points
    · simp [null]
    · by_cases long : maxPath < byteSize p.text
      · simp [null, long, Nat.not_le_of_lt long]
      · simp [null, long, Nat.le_of_not_lt long]

/-- Above a place that is no directory, there is one. -/
theorem find_parent (found : f.find p = .ok place) (notDirectory : f.isDirectory place = false) :
    ∃ above, f.find p.parent = .ok above ∧ f.isDirectory above = true := by
  obtain ⟨usable, noNull, short, follows⟩ := find_eq_ok_iff.mp found
  have nonempty : p.parts ≠ [] := by
    intro none
    rw [none, follow, Except.ok.injEq] at follows
    rw [← follows] at notDirectory
    simp [isDirectory, Path.start] at notDirectory
  obtain ⟨front, last, whole⟩ := (List.eq_nil_or_concat p.parts).resolve_left nonempty
  rw [List.concat_eq_append] at whole
  rw [whole] at follows
  obtain ⟨above, follows, directory⟩ := follow_append follows
  have parts : p.parent.parts = front := by rw [Path.parent, whole, List.dropLast_concat]
  refine ⟨above, find_eq_ok_iff.mpr ?_, directory⟩
  have start : p.parent.start = p.start := rfl
  rw [start, parts]
  rcases parent_text nonempty with dot | front
  · rw [dot]
    exact ⟨by decide, by decide, by decide, follows⟩
  · rw [Text.unusable?_eq_none_iff] at usable ⊢
    exact ⟨fun q mem => usable q (front.subset mem), fun mem => noNull (front.subset mem),
      (byteSize_le front).trans short, follows⟩

theorem Holds.makeDirectories (holds : f.Holds p text place) :
    f.makeDirectories p.parent = (f, none) := by
  obtain ⟨above, found, directory⟩ := find_parent holds.found holds.notDirectory
  have made : f.makeDirectory p.parent = .ok f := by
    simp only [makeDirectory, found, directory, if_true]
  rw [Folder.makeDirectories, made]

theorem Holds.read (holds : f.Holds p text place) : f.read p = .ok (some text) := by
  simp only [Folder.read, holds.found, holds.file]

section SameNames

variable {g : Folder}

theorem isDirectory_congr (directories : g.directories = f.directories)
    (names : g.files.map (·.1) = f.files.map (·.1)) (place : Path) :
    g.isDirectory place = f.isDirectory place := by
  have above (h : Folder) : (h.files.any fun e => isUpTo place e.1.parent) =
      (h.files.map (·.1)).any fun q => isUpTo place q.parent := by
    rw [List.any_map]
    rfl
  rw [isDirectory, isDirectory, directories, above, above, names]

theorem isFile_congr (names : g.files.map (·.1) = f.files.map (·.1)) (place : Path) :
    g.isFile place = f.isFile place := by
  rw [isFile, isFile, Bool.eq_iff_iff, Entries.has_iff, Entries.has_iff, names]

theorem follow_congr (directories : g.directories = f.directories)
    (names : g.files.map (·.1) = f.files.map (·.1)) (place : Path) (parts : List Text) :
    g.follow place parts = f.follow place parts := by
  induction parts generalizing place with
  | nil => rfl
  | cons part parts ih =>
    rw [follow, follow, isDirectory_congr directories names, isFile_congr names, ih]

/-- What is in files does not matter to where paths lead. -/
theorem find_congr (directories : g.directories = f.directories)
    (names : g.files.map (·.1) = f.files.map (·.1)) (p : Path) : g.find p = f.find p := by
  rw [find, find, follow_congr directories names]

end SameNames

theorem Holds.write_eq (holds : f.Holds p text place) (new : String) :
    f.write p new = .ok { f with files := f.files.set place new } := by
  have filePlace : f.filePlace p = .ok place := by
    simp only [Folder.filePlace, holds.found, holds.notDirectory, Bool.false_eq_true, if_false]
  rw [Folder.write, filePlace]
  rfl

theorem Holds.set (holds : f.Holds p text place) (new : String) :
    Folder.Holds { f with files := f.files.set place new } p new place := by
  have names : (f.files.set place new).map (·.1) = f.files.map (·.1) := by
    rw [Entries.names_set, if_pos]
    exact Entries.get?_isSome_iff.mp (by rw [holds.file]; rfl)
  refine ⟨?_, Entries.get?_set_self _ _ _, ?_⟩
  · exact (find_congr (f := f) (g := { f with files := f.files.set place new }) rfl names p).trans
      holds.found
  · exact (isDirectory_congr (f := f) (g := { f with files := f.files.set place new }) rfl names
      place).trans holds.notDirectory

end Folder

end Thermostat
