import Thermostat.Proofs.Log.Opening
import Thermostat.Proofs.Text.Whole

/-! Writing records: each one goes to the console once and, where there is a log file, to its end. -/
namespace Thermostat.Log

namespace Files

variable {place : Path} {line : Text} {f f' : Folder} {text : String}

/-- The text of the log file, or of an older one; of a file that is not there it is empty. -/
def textAt (place : Path) (n : Nat) (f : Folder) : String :=
  (f.files.get? (backupPlace place n)).getD ""

/-- The texts of a log file and the older ones, the oldest first. -/
def wholeLog (place : Path) (f : Folder) : String :=
  textAt place 3 f ++ textAt place 2 f ++ textAt place 1 f ++ textAt place 0 f

/-- Whether a line goes to the end of a log file as it is. -/
def Fits (place : Path) (line : Text) (f : Folder) : Prop :=
  (textAt place 0 f).utf8ByteSize + line.length < maxSize

instance : Decidable (Fits place line f) := inferInstanceAs (Decidable (_ < _))

/-- What appending a line adds to a log. -/
def added? (place : Path) (line : Text) (f : Folder) : Option String :=
  (makeRoom place line f).bind fun _ => line.toString?

/-- A log with some more text at its end. The oldest file can be lost, and then the text is all that is
in the log file; nothing happens to files that are not at or below one of the four places. -/
structure Extended (place : Path) (text : String) (f f' : Folder) : Prop where
  whole : ∃ lost, (lost = "" ∨ lost = textAt place 3 f) ∧
    wholeLog place f ++ text = lost ++ wholeLog place f'
  last : ∃ kept, (kept = textAt place 0 f ∨ kept = "") ∧ textAt place 0 f' = kept ++ text
  outside : ∀ q, (∀ n ≤ 3, Folder.isUpTo (backupPlace place n) q = false) →
    f'.files.get? q = f.files.get? q

/-- A line that fills a file of its own does not fit into any. -/
theorem not_fits_of_long (long : maxSize ≤ line.length) : ¬ Fits place line f :=
  Nat.not_lt_of_le (long.trans (Nat.le_add_left _ _))

/-- Nothing is in the way where there is no second older file. -/
theorem not_obstructed_of_free (short : f.isTooLong (backupPlace place 1) = false)
    (free : f.isOccupied (backupPlace place 2) = false) : ¬ Obstructed place f := by
  rintro (long | ⟨occupied, -⟩)
  · exact Bool.false_ne_true (short.symm.trans long)
  · exact Bool.false_ne_true (free.symm.trans occupied)

theorem makeRoom_of_fits (fits : Fits place line f) : makeRoom place line f = some f := if_pos fits

theorem makeRoom_of_not_fits (full : ¬ Fits place line f) :
    makeRoom place line f = rotate place f := if_neg full

theorem Extended.refl (place : Path) (f : Folder) : Extended place "" f f :=
  ⟨⟨"", Or.inl rfl, by rw [String.append_empty, String.empty_append]⟩,
    ⟨textAt place 0 f, Or.inl rfl, String.append_empty.symm⟩, fun _ _ => rfl⟩

theorem Rotated.extended (rotated : Rotated place f f') : Extended place "" f f' := by
  have current : textAt place 0 f' = "" := congrArg (Option.getD · "") rotated.current
  have first : textAt place 1 f' = textAt place 0 f := congrArg (Option.getD · "") rotated.first
  have second : textAt place 2 f' = textAt place 1 f := congrArg (Option.getD · "") rotated.second
  have third : textAt place 3 f' =
      if f.isOccupied (backupPlace place 2) then textAt place 2 f else textAt place 3 f := by
    rw [textAt, rotated.third]
    split <;> rfl
  refine ⟨?_, ⟨"", Or.inr rfl, current⟩, rotated.outside⟩
  rw [wholeLog, wholeLog, current, first, second, third]
  cases occupied : f.isOccupied (backupPlace place 2) with
  | true =>
    refine ⟨textAt place 3 f, Or.inr rfl, ?_⟩
    simp only [if_true, String.append_empty, String.append_assoc]
  | false =>
    have empty : textAt place 2 f = "" := by
      rw [textAt, (get?_of_not_isOccupied occupied).1]
      rfl
    refine ⟨"", Or.inl rfl, ?_⟩
    simp only [empty, Bool.false_eq_true, if_false, String.append_empty, String.empty_append]

theorem makeRoom_extended (named : Named place) (made : makeRoom place line f = some f') :
    Extended place "" f f' := by
  by_cases fits : Fits place line f
  · rw [makeRoom_of_fits fits] at made
    obtain rfl := Option.some.inj made
    exact Extended.refl place f
  · rw [makeRoom_of_not_fits fits] at made
    exact (rotate_spec named made).extended

/-- What is added to the log file is added to the whole log. -/
theorem Extended.set (named : Named place) (room : Extended place "" f f') (text : String) :
    Extended place text f { f' with files := f'.files.set place (textAt place 0 f' ++ text) } := by
  have older {n : Nat} (pos : 0 < n) (le : n ≤ 3) : textAt place n
      { f' with files := f'.files.set place (textAt place 0 f' ++ text) } = textAt place n f' :=
    congrArg (Option.getD · "") (Entries.get?_set_of_ne _ _ (backupPlace_ne named pos le))
  have current : textAt place 0
      { f' with files := f'.files.set place (textAt place 0 f' ++ text) } = textAt place 0 f' ++ text :=
    congrArg (Option.getD · "") (Entries.get?_set_self _ _ _)
  obtain ⟨⟨lost, oldest, whole⟩, ⟨kept, before, last⟩, outside⟩ := room
  rw [String.append_empty] at whole last
  refine ⟨⟨lost, oldest, ?_⟩, ⟨kept, before, ?_⟩, fun q away => ?_⟩
  · rw [whole, wholeLog, wholeLog, current, older (by omega) (by omega), older (by omega) (by omega),
      older (by omega) (by omega)]
    simp only [String.append_assoc]
  · rw [current, last]
  · exact (Entries.get?_set_of_ne _ _ (ne_of_outside away)).trans (outside q away)

/-- Appending a line adds it to the log, or nothing. -/
theorem append_extended (named : Named place) :
    Extended place ((added? place line f).getD "") f (append place line f) := by
  rw [append, added?]
  cases made : makeRoom place line f with
  | none => exact Extended.refl place f
  | some f' =>
    rw [Option.bind_some]
    cases line.toString? with
    | none => exact makeRoom_extended named made
    | some text => exact (makeRoom_extended named made).set named text

/-- A line is added just if it holds no half of a pair and nothing is in the way of the room that it
needs. -/
theorem added?_eq_some_iff (named : Named place) (there : f.files.has place = true) :
    added? place line f = some text ↔
      line = Text.ofString text ∧ (Fits place line f ∨ ¬ Obstructed place f) := by
  have room : (makeRoom place line f).isSome = true ↔ Fits place line f ∨ ¬ Obstructed place f := by
    by_cases fits : Fits place line f
    · rw [makeRoom_of_fits fits]
      exact iff_of_true rfl (Or.inl fits)
    · rw [makeRoom_of_not_fits fits, rotate_isSome_iff named there]
      exact (or_iff_right fits).symm
  rw [← room, added?, ← Text.toString?_eq_some_iff]
  cases makeRoom place line f with
  | none => simp
  | some f' => simp

/-- A line that fits changes nothing but the log file. -/
theorem get?_append_of_fits (fits : Fits place line f) {q : Path} (other : q ≠ place) :
    (append place line f).files.get? q = f.files.get? q := by
  rw [append, makeRoom_of_fits fits]
  cases line.toString? with
  | none => rfl
  | some text => exact Entries.get?_set_of_ne _ _ other

/-- Where there is no room for a line, the file of the log is the first of the older ones afterwards. -/
theorem first_append (named : Named place) (there : f.files.has place = true)
    (full : ¬ Fits place line f) (clear : ¬ Obstructed place f) :
    (append place line f).files.get? (backupPlace place 1) = f.files.get? place := by
  obtain ⟨f', moved⟩ := Option.isSome_iff_exists.mp ((rotate_isSome_iff named there).mpr clear)
  have first := (rotate_spec named moved).first
  rw [append, makeRoom_of_not_fits full, moved]
  cases line.toString? with
  | none => exact first
  | some text =>
    exact (Entries.get?_set_of_ne _ _ (backupPlace_ne named (by omega) (by omega))).trans first

theorem has_append (named : Named place) (there : f.files.has place = true) :
    (append place line f).files.has place = true := by
  rw [Entries.has_iff, ← Entries.get?_isSome_iff] at there ⊢
  have kept (f' : Folder) (made : makeRoom place line f = some f') :
      (f'.files.get? place).isSome = true := by
    by_cases fits : Fits place line f
    · rw [makeRoom_of_fits fits] at made
      rw [← Option.some.inj made, there]
    · rw [makeRoom_of_not_fits fits] at made
      rw [(rotate_spec named made).current]
      rfl
  rw [append]
  cases made : makeRoom place line f with
  | none => exact there
  | some f' =>
    cases line.toString? with
    | none => exact kept f' made
    | some text => rw [Entries.get?_set_self]; rfl

/-- What becomes of the files when a line is written to a log: it comes to the end, unless it holds a
half of a pair or something is in the way of the room that it needs. -/
structure Appended (place : Path) (line : Text) (f f' : Folder) : Prop where
  added : ∃ added : Option String,
    (∀ text, added = some text ↔
      line = Text.ofString text ∧ (Fits place line f ∨ ¬ Obstructed place f)) ∧
    Extended place (added.getD "") f f'
  others : Fits place line f → ∀ q, q ≠ place → f'.files.get? q = f.files.get? q

theorem append_appended (named : Named place) (there : f.files.has place = true) :
    Appended place line f (append place line f) :=
  ⟨⟨added? place line f, fun _ => added?_eq_some_iff named there, append_extended named⟩,
    fun fits _ other => get?_append_of_fits fits other⟩

end Files

namespace Journal

variable {s : Journal} {stamp text : Text} {r : Record}

/-- Whether the logger of a record passes it on. -/
def Passes (s : Journal) (r : Record) : Prop :=
  Level.notset < r.level ∧ s.hierarchy.effectiveLevel r.logger ≤ r.level

instance : Decidable (s.Passes r) := inferInstanceAs (Decidable (_ ∧ _))

/-- The log file is one that is there and has a name. -/
def Ready (s : Journal) : Prop :=
  ∀ place, s.file = some place → Files.Named place ∧ s.folder.files.has place = true

@[simp]
theorem isSome_line? (stamp : Text) (r : Record) : (line? stamp r).isSome = r.message.isSome :=
  Option.isSome_map

theorem length_message_le {message : Text} (worded : r.message = some message)
    (written : line? stamp r = some text) : message.length ≤ text.length := by
  rw [line?, worded, Option.map_some] at written
  rw [← Option.some.inj written]
  simp only [Text.join, Text.length, List.flatMap_cons, List.length_append]
  omega

theorem passes_iff : s.Passes r ↔ (s.hierarchy.add r.logger).isEnabled r.logger r.level = true := by
  rw [Passes, Hierarchy.isEnabled, Hierarchy.effectiveLevel_add (Nat.le_refl _), Bool.and_eq_true,
    decide_eq_true_iff, decide_eq_true_iff]

theorem write_of_not_passes (held : ¬ s.Passes r) :
    s.write stamp r = ({ s with hierarchy := s.hierarchy.add r.logger }, Text.ofString "") := by
  rw [passes_iff, Bool.not_eq_true] at held
  unfold write
  simp only [held, Bool.not_false, if_true]

/-- A record without a text is written nowhere. -/
theorem write_of_wordless (wordless : r.message = none) :
    s.write stamp r = ({ s with hierarchy := s.hierarchy.add r.logger }, Text.ofString "") := by
  have none : line? stamp r = none := by rw [line?, wordless, Option.map_none]
  unfold write
  simp only [none, wordless, ite_self]

theorem write_of_passes (passes : s.Passes r) (configured : s.configured = true)
    (written : line? stamp r = some text) :
    s.write stamp r =
      ({ s with
        hierarchy := s.hierarchy.add r.logger,
        folder := s.file.elim s.folder fun place => Files.append place text s.folder },
        text) := by
  rw [passes_iff] at passes
  unfold write
  simp only [passes, configured, written, Bool.not_true, Bool.false_eq_true, if_false]
  cases s.file <;> rfl

theorem write_of_not_configured (raw : s.configured = false) :
    (s.write stamp r).1 = { s with hierarchy := s.hierarchy.add r.logger } := by
  unfold write
  simp only [raw, Bool.not_false, if_true]
  split <;> rfl

/-- The file that a record goes to, and its line. -/
def filing? (s : Journal) (stamp : Text) (r : Record) : Option (Path × Text) :=
  if s.configured = true ∧ s.Passes r then
    s.file.bind fun place => (line? stamp r).map fun text => (place, text)
  else none

/-- Logging a record makes its logger known and adds to the file that it goes to. -/
theorem write_fst (s : Journal) (stamp : Text) (r : Record) :
    (s.write stamp r).1 =
      { s with
        hierarchy := s.hierarchy.add r.logger,
        folder := (s.filing? stamp r).elim s.folder fun (place, text) =>
          Files.append place text s.folder } := by
  unfold filing?
  by_cases passes : s.Passes r
  · cases configured : s.configured with
    | true =>
      rw [if_pos ⟨rfl, passes⟩]
      cases written : line? stamp r with
      | some text =>
        rw [write_of_passes passes configured written, configured]
        cases s.file <;> rfl
      | none =>
        have wordless : r.message = none := Option.map_eq_none_iff.mp written
        rw [write_of_wordless wordless, configured]
        cases s.file <;> rfl
    | false =>
      have raw : ¬ (false = true ∧ s.Passes r) := fun both => Bool.false_ne_true both.1
      rw [write_of_not_configured configured, if_neg raw, configured]
      rfl
  · rw [write_of_not_passes passes, if_neg fun both => passes both.2]
    rfl

theorem file_write (s : Journal) (stamp : Text) (r : Record) : (s.write stamp r).1.file = s.file := by
  rw [write_fst]

theorem filing?_eq_some {place : Path} (entry : s.filing? stamp r = some (place, text)) :
    s.file = some place ∧ line? stamp r = some text := by
  unfold filing? at entry
  split at entry
  · obtain ⟨q, file, entry⟩ := Option.bind_eq_some_iff.mp entry
    obtain ⟨t, written, same⟩ := Option.map_eq_some_iff.mp entry
    obtain ⟨rfl, rfl⟩ := Prod.mk.inj same
    exact ⟨file, written⟩
  · cases entry

theorem ready_configure (s : Journal) (c : Settings) : (s.configure c).1.Ready := by
  intro place file
  have opens := s.configure_opens c
  refine ⟨opens.named place file, ?_⟩
  rw [opens.files, file, Option.elim_some, Entries.has_iff, ← Entries.get?_isSome_iff,
    Files.get?_ensure, if_pos rfl]
  rfl

theorem Ready.write (ready : s.Ready) (stamp : Text) (r : Record) : (s.write stamp r).1.Ready := by
  intro place file
  rw [file_write] at file
  obtain ⟨named, there⟩ := ready place file
  refine ⟨named, ?_⟩
  rw [write_fst]
  cases entry : s.filing? stamp r with
  | none => exact there
  | some e =>
    obtain rfl : place = e.1 := Option.some.inj (file.symm.trans (filing?_eq_some entry).1)
    exact Files.has_append named there

/-- Logging records leaves the log file, once it is open, as it was set. -/
theorem Ready.records (ready : s.Ready) (logged : List (Text × Record)) :
    (s.after (Step.records logged)).Ready ∧
      (s.after (Step.records logged)).configured = s.configured ∧
      (s.after (Step.records logged)).file = s.file := by
  induction logged generalizing s with
  | nil => exact ⟨ready, rfl, rfl⟩
  | cons l logged ih =>
    obtain ⟨ready', configured, file⟩ := ih (ready.write l.1 l.2)
    have same : (s.write l.1 l.2).1.configured = s.configured := by rw [write_fst]
    exact ⟨ready', configured.trans same, file.trans (s.file_write l.1 l.2)⟩

/-- What logging a record does: what the console shows, and what becomes of the files. A record has a
line just if it has a text. -/
structure Recorded (s : Journal) (file : Option Path) (stamp : Text) (r : Record) : Prop where
  worded : (line? stamp r).isSome = r.message.isSome
  held : ¬ s.Passes r ∨ r.message = none →
    (s.write stamp r).2 = Text.ofString "" ∧ (s.write stamp r).1.folder = s.folder
  shown : s.Passes r → ∀ text, line? stamp r = some text → (s.write stamp r).2 = text
  unfiled : file = none → (s.write stamp r).1.folder = s.folder
  filed : s.Passes r → ∀ text, line? stamp r = some text → ∀ place, file = some place →
    Files.Appended place text s.folder (s.write stamp r).1.folder

theorem Ready.recorded (ready : s.Ready) (configured : s.configured = true) (stamp : Text)
    (r : Record) : s.Recorded s.file stamp r := by
  refine ⟨isSome_line? stamp r, ?_, fun passes text written => ?_, fun none => ?_,
    fun passes text written place file => ?_⟩
  · rintro (held | wordless)
    · rw [write_of_not_passes held]
      exact ⟨rfl, rfl⟩
    · rw [write_of_wordless wordless]
      exact ⟨rfl, rfl⟩
  · rw [write_of_passes passes configured written]
  · rw [write_fst, filing?, none, Option.bind_none, ite_self]
    rfl
  · obtain ⟨named, there⟩ := ready place file
    rw [write_of_passes passes configured written, file]
    exact Files.append_appended named there

end Journal

end Thermostat.Log
