import Thermostat.Proofs.Log.Rotation
import Thermostat.Proofs.Log.Runs
import Thermostat.Proofs.Path

/-! Opening log files: a new file is empty, one that is there keeps its text, and no other one is touched. -/
namespace Thermostat

namespace Folder

variable {f g : Folder} {p place place' : Path}

/-- Where a path leads to anything, it leads to its place. -/
theorem eq_of_follow {parts : List Text} (found : f.follow place parts = .ok place') :
    place' = parts.foldl Path.enter place := by
  induction parts generalizing place with
  | nil => exact (Except.ok.inj found).symm
  | cons part parts ih =>
    rw [follow] at found
    split at found
    · split at found
      · cases found
      · exact ih found
    · cases found

theorem eq_place_of_find (found : f.find p = .ok place) : place = p.place :=
  eq_of_follow (find_eq_ok_iff.mp found).2.2.2

theorem filePlace_eq_ok (found : f.filePlace p = .ok place) :
    place = p.place ∧ f.isDirectory place = false := by
  unfold filePlace at found
  split at found
  · next found' =>
    split at found
    · cases found
    · next file =>
      obtain rfl := Except.ok.inj found
      exact ⟨eq_place_of_find found', Bool.eq_false_iff.mpr file⟩
  · cases found

theorem files_makeDirectory (made : f.makeDirectory p = .ok g) : g.files = f.files := by
  unfold makeDirectory at made
  split at made
  · cases made
  · split at made
    · rw [Except.ok.inj made]
    · split at made
      · cases made
      · rw [← Except.ok.inj made]

theorem files_makeDirectories (f : Folder) (p : Path) : (f.makeDirectories p).1.files = f.files := by
  fun_induction makeDirectories f p with
  | case1 p made eq => exact files_makeDirectory eq
  | case2 | case6 => rfl
  | case3 p q missing nonempty above o eq ih | case5 p q missing nonempty above eq o eq' ih =>
    rw [eq] at ih
    exact ih
  | case4 p q missing nonempty above eq made eq' ih =>
    rw [eq] at ih
    exact (files_makeDirectory eq').trans ih

end Folder

namespace Log

namespace Files

variable {place : Path}

theorem get?_ensure (place : Path) (fs : Files) (q : Path) :
    (ensure place fs).get? q = if q = place then some ((fs.get? place).getD "") else fs.get? q := by
  unfold ensure
  split
  · next there =>
    rw [Entries.has_iff, ← Entries.get?_isSome_iff] at there
    obtain ⟨text, found⟩ := Option.isSome_iff_exists.mp there
    split
    · next same => rw [same, found, Option.getD_some]
    · rfl
  · next new =>
    have absent : fs.get? place = none :=
      Entries.get?_eq_none_iff.mpr fun mem => new (Entries.has_iff.mpr mem)
    split
    · next same => rw [same, Entries.get?_set_self, absent, Option.getD_none]
    · next other => exact Entries.get?_set_of_ne _ _ other

theorem named_of_not_isDirectory {f : Folder} (file : f.isDirectory place = false) : Named place := by
  rw [Folder.isDirectory, Bool.or_eq_false_iff, Bool.or_eq_false_iff] at file
  exact file.1.1

end Files

variable {folder folder' : Folder} {p place : Path}

theorem openFile_error {o : Obstacle} (opened : openFile folder p = (folder', .error o)) :
    folder'.files = folder.files := by
  have made := folder.files_makeDirectories p.parent
  unfold openFile at opened
  split at opened
  · next eq =>
    rw [eq] at made
    rw [← (Prod.mk.inj opened).1, made]
  · next eq =>
    rw [eq] at made
    split at opened
    · rw [← (Prod.mk.inj opened).1, made]
    · split at opened
      · rw [← (Prod.mk.inj opened).1, made]
      · cases (Prod.mk.inj opened).2

theorem openFile_ok (opened : openFile folder p = (folder', .ok place)) :
    place = p.place ∧ Files.Named place ∧ folder'.files = Files.ensure place folder.files := by
  have made := folder.files_makeDirectories p.parent
  unfold openFile at opened
  split at opened
  · cases (Prod.mk.inj opened).2
  · next eq =>
    rw [eq] at made
    split at opened
    · cases (Prod.mk.inj opened).2
    · next found =>
      split at opened
      · cases (Prod.mk.inj opened).2
      · obtain ⟨rfl, same⟩ := Prod.mk.inj opened
        obtain rfl := Except.ok.inj same
        obtain ⟨whole, file⟩ := Folder.filePlace_eq_ok found
        exact ⟨whole.trans p.place_place, Files.named_of_not_isDirectory file,
          congrArg (Files.ensure _) made⟩

namespace Journal

variable {s : Journal} {c : Settings}

/-- What configuring comes to: a console and, if the settings name a file that could be opened, that one
as the log file. It is made if it is not there, and no other one is touched. -/
structure Opens (s : Journal) (c : Settings) (result : Journal × Option Obstacle) : Prop where
  configured : result.1.configured = true
  file : result.1.file = if result.2.isNone then c.path.map Path.place else none
  files : result.1.folder.files =
    result.1.file.elim s.folder.files fun place => Files.ensure place s.folder.files
  named : ∀ place, result.1.file = some place → Files.Named place

theorem configure_opens (s : Journal) (c : Settings) : s.Opens c (s.configure c) := by
  obtain ⟨path, eq⟩ | ⟨p, folder, o, -, opened, eq⟩ | ⟨p, folder, place, path, opened, eq⟩ :=
    s.configure_cases c
  · rw [eq]
    exact ⟨rfl, by rw [path]; rfl, rfl, nofun⟩
  · rw [eq]
    exact ⟨rfl, rfl, openFile_error opened, nofun⟩
  · obtain ⟨whole, named, files⟩ := openFile_ok opened
    rw [eq]
    refine ⟨rfl, by rw [path, whole]; rfl, files, fun q same => ?_⟩
    rw [← Option.some.inj same]
    exact named

end Journal

end Log

end Thermostat
