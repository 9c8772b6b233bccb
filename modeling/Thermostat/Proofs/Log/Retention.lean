import Thermostat.Proofs.Log.Writing

/-! What log files keep: the lines written last, in order and each of them whole, over all runs that
write to one log. -/
namespace Thermostat.Log

namespace Files

variable {place : Path} {line : Text} {text : String} {f f' start : Folder} {n count : Nat}
  {lines lost : List String} {parts : Nat → List String}

/-- Whether one place is another one, or lies below the place of a log file just as the other one does
below the place of a log file. -/
def Along (place a b : Path) : Prop :=
  a = b ∨ ∃ m ≤ 3, ∃ n ≤ 3, ∃ rest, a = Folder.below (backupPlace place m) rest ∧
    b = Folder.below (backupPlace place n) rest

/-- A file that is one of the log, or that was there at the start. Files in a directory that stands at
the place of an older log file move with it. -/
def Accounted (place : Path) (start : Folder) (e : Path × String) : Prop :=
  (∃ n ≤ 3, e.1 = backupPlace place n) ∨ ∃ e₀ ∈ start.files, e₀.2 = e.2 ∧ Along place e₀.1 e.1

/-- How lines are spread over the files of a log, given those that are lost, how often the files were
moved on, and the files at the start. -/
structure Retained (place : Path) (start : Folder) (lines : List String) (count : Nat)
    (lost : List String) (parts : Nat → List String) (f : Folder) : Prop where
  lines_eq : lines = lost ++ parts 3 ++ parts 2 ++ parts 1 ++ parts 0
  texts : ∀ n ≤ 3, textAt place n f = String.join (parts n)
  unused : ∀ n ≤ 3, count < n → f.files.get? (backupPlace place n) = none ∧ parts n = []
  complete : count ≤ 3 → lost = []
  accounted : ∀ e ∈ f.files, Accounted place start e
  outside : ∀ q, (∀ n ≤ 3, Folder.isUpTo (backupPlace place n) q = false) →
    f.files.get? q = start.files.get? q

theorem Accounted.carry (named : Named place) (le : n < 3) {e : Path × String}
    (accounted : Accounted place start e) :
    Accounted place start
      (Folder.carry (backupPlace place n) (backupPlace place (n + 1)) e.1, e.2) := by
  cases under : Folder.isUpTo (backupPlace place n) e.1 with
  | false =>
    rw [Folder.carry_of_not_isUpTo under]
    exact accounted
  | true =>
    obtain ⟨rest, at'⟩ := Folder.isUpTo_iff_below.mp under
    -- a place below that of one log file is below that of no other one
    have only {m : Nat} (le' : m ≤ 3) {rest' : List Text}
        (same : e.1 = Folder.below (backupPlace place m) rest') : m = n := by
      by_contra ne
      have apart := (named.apart (by omega) le' (Ne.symm ne)).not_isUpTo under
      rw [Folder.isUpTo_iff_below.mpr ⟨rest', same⟩] at apart
      cases apart
    rcases accounted with
      ⟨m, le', same⟩ | ⟨e₀, mem, text, same | ⟨k, le₀, m, le', rest', same₀, same⟩⟩
    · left
      have root : e.1 = Folder.below (backupPlace place m) [] := by
        rw [same, Folder.below, List.append_nil]
      obtain rfl := only le' root
      exact ⟨m + 1, by omega, by rw [same]; exact Folder.carry_self _ _⟩
    · right
      refine ⟨e₀, mem, text, Or.inr ⟨n, by omega, n + 1, by omega, rest, same.trans at', ?_⟩⟩
      rw [at']
      exact Folder.carry_below _ _ rest
    · right
      obtain rfl := only le' same
      refine ⟨e₀, mem, text, Or.inr ⟨k, le₀, m + 1, by omega, rest', same₀, ?_⟩⟩
      rw [same]
      exact Folder.carry_below _ _ rest'

theorem accounted_shift (named : Named place) (le : n < 3)
    (shifted : shift (backupPlace place n) (backupPlace place (n + 1)) f = some f')
    (all : ∀ e ∈ f.files, Accounted place start e) : ∀ e ∈ f'.files, Accounted place start e := by
  rcases shift_cases shifted with ⟨-, rfl⟩ | ⟨-, -, rfl⟩
  · exact all
  · intro moved mem
    obtain ⟨e, old, rfl⟩ := List.mem_map.mp mem
    exact (all e (List.mem_filter.mp old).1).carry named le

theorem accounted_set (all : ∀ e ∈ f.files, Accounted place start e) (text : String) :
    ∀ e ∈ f.files.set place text, Accounted place start e := by
  intro e mem
  rcases Entries.mem_set mem with rfl | old
  · exact Or.inl ⟨0, by omega, rfl⟩
  · exact all e old

theorem accounted_rotate (named : Named place) (rotated : rotate place f = some f')
    (all : ∀ e ∈ f.files, Accounted place start e) : ∀ e ∈ f'.files, Accounted place start e := by
  obtain ⟨f₁, f₂, f₃, shifted₁, shifted₂, shifted₃, rfl⟩ := rotate_stages rotated
  have all₁ := accounted_shift named (by omega) shifted₁ all
  have all₂ := accounted_shift named (by omega) shifted₂ all₁
  have all₃ := accounted_shift named (by omega) shifted₃ all₂
  exact accounted_set all₃ ""

theorem retained_start (none : ∀ n ≤ 3, f.files.get? (backupPlace place n) = none) :
    Retained place f [] 0 [] (fun _ => []) f := by
  refine ⟨rfl, fun n le => ?_, fun n le _ => ⟨none n le, rfl⟩, fun _ => rfl, fun e mem => ?_,
    fun _ _ => rfl⟩
  · rw [textAt, none n le]
    rfl
  · exact Or.inr ⟨e, mem, rfl, Or.inl rfl⟩

/-- The lines of each file once the files were moved on, given those of the last one. -/
def movedOn (parts : Nat → List String) (oldest : List String) : Nat → List String
  | 0 => []
  | 1 => parts 0
  | 2 => parts 1
  | _ => oldest

theorem Retained.textAt_eq (retained : Retained place start lines count lost parts f) {m : Nat}
    (le : n ≤ 3) (same : f'.files.get? (backupPlace place m) = f.files.get? (backupPlace place n)) :
    textAt place m f' = String.join (parts n) :=
  (congrArg (Option.getD · "") same).trans (retained.texts n le)

/-- The lines of all files but the last one are those of the file before. -/
theorem Retained.movedOn (named : Named place)
    (retained : Retained place start lines count lost parts f) (rotated : rotate place f = some f')
    {lost' oldest : List String} (split : lost ++ parts 3 ++ parts 2 = lost' ++ oldest)
    (third : textAt place 3 f' = String.join oldest)
    (unused : count < 2 → f'.files.get? (backupPlace place 3) = none ∧ oldest = [])
    (complete : count < 3 → lost' = []) :
    Retained place start lines (count + 1) lost' (Files.movedOn parts oldest) f' := by
  have moved := rotate_spec named rotated
  refine ⟨?_, ?_, ?_, fun le => complete (by omega),
    accounted_rotate named rotated retained.accounted,
    fun q away => (moved.outside q away).trans (retained.outside q away)⟩
  · simp only [Files.movedOn, List.append_nil]
    rw [retained.lines_eq, split]
  · intro n le
    match n with
    | 0 => exact congrArg (Option.getD · "") moved.current
    | 1 => exact retained.textAt_eq (n := 0) (by omega) moved.first
    | 2 => exact retained.textAt_eq (by omega) moved.second
    | 3 => exact third
  · intro n le lt
    match n with
    | 2 =>
      obtain ⟨none, nil⟩ := retained.unused 1 (by omega) (by omega)
      exact ⟨moved.second.trans none, nil⟩
    | 3 => exact unused (by omega)

/-- Moving the files on takes their lines along. Those of the oldest file are lost just if something is
moved to its place. -/
theorem Retained.rotate (named : Named place)
    (retained : Retained place start lines count lost parts f) (rotated : rotate place f = some f') :
    ∃ lost' parts', Retained place start lines (count + 1) lost' parts' f' := by
  have third := (rotate_spec named rotated).third
  cases occupied : f.isOccupied (backupPlace place 2) with
  | true =>
    rw [occupied, if_pos rfl] at third
    refine ⟨lost ++ parts 3, _, retained.movedOn named rotated rfl
      (retained.textAt_eq (by omega) third) (fun lt => ?_) fun lt => ?_⟩
    · obtain ⟨none, nil⟩ := retained.unused 2 (by omega) lt
      exact ⟨third.trans none, nil⟩
    · rw [retained.complete (by omega), (retained.unused 3 (by omega) lt).2, List.append_nil]
  | false =>
    rw [occupied, if_neg Bool.false_ne_true] at third
    have free : String.join (parts 2) = "" := by
      rw [← retained.texts 2 (by omega), textAt, (get?_of_not_isOccupied occupied).1]
      rfl
    refine ⟨lost, _, retained.movedOn named rotated (List.append_assoc _ _ _) ?_ (fun lt => ?_)
      fun lt => retained.complete (by omega)⟩
    · rw [String.join_append, free, String.append_empty]
      exact retained.textAt_eq (by omega) third
    · obtain ⟨none, nil⟩ := retained.unused 3 (by omega) (by omega)
      rw [nil, (retained.unused 2 (by omega) lt).2]
      exact ⟨third.trans none, rfl⟩

/-- A line that is added is the last one of the log file. -/
theorem Retained.add (named : Named place)
    (retained : Retained place start lines count lost parts f) (text : String) :
    Retained place start (lines ++ [text]) count lost
      (Function.update parts 0 (parts 0 ++ [text]))
      { f with files := f.files.set place (textAt place 0 f ++ text) } := by
  have older {n : Nat} (pos : 0 < n) (le : n ≤ 3) :
      (f.files.set place (textAt place 0 f ++ text)).get? (backupPlace place n) =
        f.files.get? (backupPlace place n) :=
    Entries.get?_set_of_ne _ _ (backupPlace_ne named pos le)
  have same {n : Nat} (pos : 0 < n) : Function.update parts 0 (parts 0 ++ [text]) n = parts n :=
    Function.update_of_ne (by omega) _ _
  refine ⟨?_, fun n le => ?_, fun n le lt => ?_, retained.complete,
    accounted_set retained.accounted _, fun q away => ?_⟩
  · rw [Function.update_self, same (by omega), same (by omega), same (by omega), retained.lines_eq]
    simp only [List.append_assoc]
  · rcases Nat.eq_zero_or_pos n with rfl | pos
    · rw [Function.update_self, String.join_append, ← retained.texts 0 le]
      have single : String.join [text] = text := by simp
      rw [single]
      exact congrArg (Option.getD · "") (Entries.get?_set_self _ _ _)
    · rw [same pos, ← retained.texts n le]
      exact congrArg (Option.getD · "") (older pos le)
  · have pos : 0 < n := by omega
    obtain ⟨none, nil⟩ := retained.unused n le lt
    exact ⟨(older pos le).trans none, (same pos).trans nil⟩
  · exact (Entries.get?_set_of_ne _ _ (ne_of_outside away)).trans (retained.outside q away)

/-- Only the files count. -/
theorem Retained.of_files (retained : Retained place start lines count lost parts f)
    (same : f'.files = f.files) : Retained place start lines count lost parts f' := by
  obtain ⟨working, files, directories⟩ := f
  obtain ⟨working', files', directories'⟩ := f'
  obtain rfl : files' = files := same
  exact ⟨retained.lines_eq, retained.texts, retained.unused, retained.complete, retained.accounted,
    retained.outside⟩

/-- Making an empty log file, if there is none, changes no lines. -/
theorem Retained.ensure (named : Named place)
    (retained : Retained place start lines count lost parts f)
    (made : f'.files = Files.ensure place f.files) :
    Retained place start lines count lost parts f' := by
  have get? (q : Path) : f'.files.get? q =
      if q = place then some ((f.files.get? place).getD "") else f.files.get? q := by
    rw [made, get?_ensure]
  refine ⟨retained.lines_eq, fun n le => ?_, fun n le lt => ?_, retained.complete, ?_,
    fun q away => ?_⟩
  · rw [← retained.texts n le, textAt, textAt, get?]
    split
    · next same => rw [same, Option.getD_some]
    · rfl
  · obtain ⟨none, nil⟩ := retained.unused n le lt
    have other : backupPlace place n ≠ place := backupPlace_ne named (by omega) le
    exact ⟨by rw [get?, if_neg other, none], nil⟩
  · rw [made, Files.ensure]
    split
    · exact retained.accounted
    · exact accounted_set retained.accounted ""
  · rw [get?, if_neg (ne_of_outside away)]
    exact retained.outside q away

/-- How often the files of a log are moved on for a line: once, or not at all. -/
def moves (place : Path) (line : Text) (f : Folder) : Nat :=
  if Fits place line f ∨ (Files.rotate place f).isNone then 0 else 1

theorem moves_le_one (place : Path) (line : Text) (f : Folder) : moves place line f ≤ 1 := by
  unfold moves
  split <;> omega

theorem Retained.makeRoom (named : Named place)
    (retained : Retained place start lines count lost parts f)
    (made : Files.makeRoom place line f = some f') :
    ∃ lost' parts', Retained place start lines (count + moves place line f) lost' parts' f' := by
  by_cases fits : Fits place line f
  · rw [makeRoom_of_fits fits] at made
    rw [moves, if_pos (Or.inl fits), ← Option.some.inj made]
    exact ⟨lost, parts, retained⟩
  · rw [makeRoom_of_not_fits fits] at made
    have once : moves place line f = 1 := by
      rw [moves, made]
      exact if_neg (by simp [fits])
    rw [once]
    exact retained.rotate named made

/-- A line comes behind all others, or it is not written at all. -/
theorem Retained.append (named : Named place)
    (retained : Retained place start lines count lost parts f) (line : Text) :
    ∃ lost' parts', Retained place start (lines ++ (added? place line f).toList)
      (count + moves place line f) lost' parts' (Files.append place line f) := by
  rw [added?, Files.append]
  cases made : Files.makeRoom place line f with
  | none =>
    have still : moves place line f = 0 := by
      rw [moves]
      by_cases fits : Fits place line f
      · exact if_pos (Or.inl fits)
      · rw [makeRoom_of_not_fits fits] at made
        rw [made]
        exact if_pos (Or.inr rfl)
    rw [still, Option.bind_none, Option.toList_none, List.append_nil]
    exact ⟨lost, parts, retained⟩
  | some f' =>
    obtain ⟨lost', parts', room⟩ := retained.makeRoom named made
    rw [Option.bind_some]
    cases line.toString? with
    | none =>
      rw [Option.toList_none, List.append_nil]
      exact ⟨lost', parts', room⟩
    | some text => exact ⟨lost', _, room.add named text⟩

end Files

/-- The formatted lines of the records that steps log. -/
def Step.lines (steps : List Step) : List Text :=
  steps.flatMap fun
    | .configure _ => []
    | .record stamp r => (line? stamp r).toList

namespace Journal

open Files

variable {s : Journal} {place : Path} {start : Folder} {count : Nat} {lines lost : List String}
  {parts : Nat → List String}

/-- The lines that steps add to log files. -/
def written (s : Journal) : List Step → List String
  | [] => []
  | .configure c :: rest => (s.configure c).1.written rest
  | .record stamp r :: rest =>
    ((s.filing? stamp r).bind fun (place, text) => added? place text s.folder).toList ++
      (s.write stamp r).1.written rest

/-- How often steps move on the files of a log. -/
def rotations (s : Journal) : List Step → Nat
  | [] => 0
  | .configure c :: rest => (s.configure c).1.rotations rest
  | .record stamp r :: rest =>
    ((s.filing? stamp r).elim 0 fun (place, text) => moves place text s.folder) +
      (s.write stamp r).1.rotations rest

/-- What is written to log files are formatted records, in the order in which they were logged. -/
theorem written_sublist (s : Journal) (steps : List Step) :
    ((s.written steps).map Text.ofString).Sublist (Step.lines steps) := by
  induction steps generalizing s with
  | nil => exact List.Sublist.refl _
  | cons t steps ih =>
    cases t with
    | configure c => exact ih (s.configure c).1
    | record stamp r =>
      have first : (((s.filing? stamp r).bind fun (place, text) =>
          added? place text s.folder).toList.map Text.ofString).Sublist (line? stamp r).toList := by
        cases added : (s.filing? stamp r).bind fun (place, text) => added? place text s.folder with
        | none => exact List.nil_sublist _
        | some text =>
          obtain ⟨⟨place, line⟩, entry, added⟩ := Option.bind_eq_some_iff.mp added
          obtain ⟨f, -, string⟩ := Option.bind_eq_some_iff.mp added
          rw [(filing?_eq_some entry).2, Text.toString?_eq_some_iff.mp string]
          exact List.Sublist.refl _
      rw [written, List.map_append]
      exact first.append (ih (s.write stamp r).1)

theorem place_of_file_configure {c : Settings} (file : (s.configure c).1.file = some place) :
    ∃ p, c.path = some p ∧ p.place = place := by
  rw [(s.configure_opens c).file] at file
  split at file
  · exact Option.map_eq_some_iff.mp file
  · cases file

theorem retained_configure {c : Settings}
    (same : ∀ p, c.path = some p → p.place = place)
    (retained : Retained place start lines count lost parts s.folder) :
    Retained place start lines count lost parts (s.configure c).1.folder := by
  have opens := s.configure_opens c
  have made := opens.files
  cases file : (s.configure c).1.file with
  | none =>
    rw [file] at made
    exact retained.of_files made
  | some q =>
    obtain ⟨p, path, rfl⟩ := place_of_file_configure file
    obtain rfl := same p path
    rw [file] at made
    exact retained.ensure (opens.named _ file) made

theorem retained_write (ready : s.Ready) (here : ∀ q, s.file = some q → q = place)
    (retained : Retained place start lines count lost parts s.folder) (stamp : Text) (r : Record) :
    ∃ lost' parts', Retained place start
      (lines ++ ((s.filing? stamp r).bind fun (place, text) => added? place text s.folder).toList)
      (count + (s.filing? stamp r).elim 0 fun (place, text) => moves place text s.folder) lost' parts'
      (s.write stamp r).1.folder := by
  rw [write_fst]
  cases entry : s.filing? stamp r with
  | none =>
    rw [Option.bind_none, Option.toList_none, List.append_nil]
    exact ⟨lost, parts, retained⟩
  | some e =>
    obtain ⟨q, text⟩ := e
    obtain ⟨file, -⟩ := filing?_eq_some entry
    obtain rfl := here q file
    exact retained.append (ready q file).1 text

/-- Every step keeps the lines that were written last, whole and in order. -/
theorem retained_run (steps : List Step) (ready : s.Ready)
    (here : ∀ q, s.file = some q → q = place)
    (same : ∀ c p, Step.configure c ∈ steps → c.path = some p → p.place = place)
    (retained : Retained place start lines count lost parts s.folder) :
    ∃ lost' parts', Retained place start (lines ++ s.written steps) (count + s.rotations steps)
      lost' parts' (s.after steps).folder := by
  induction steps generalizing s lines count lost parts with
  | nil =>
    rw [written, rotations, List.append_nil]
    exact ⟨lost, parts, retained⟩
  | cons t steps ih =>
    have later (c : Settings) (p : Path) (mem : Step.configure c ∈ steps) :=
      same c p (List.mem_cons_of_mem t mem)
    cases t with
    | configure c =>
      have first (p : Path) := same c p List.mem_cons_self
      have here' (q : Path) (file : (s.configure c).1.file = some q) : q = place := by
        obtain ⟨p, path, rfl⟩ := place_of_file_configure file
        exact first p path
      exact ih (ready_configure s c) here' later (retained_configure first retained)
    | record stamp r =>
      have here' (q : Path) (file : (s.write stamp r).1.file = some q) : q = place := by
        rw [file_write] at file
        exact here q file
      obtain ⟨lost', parts', retained'⟩ := retained_write ready here retained stamp r
      have whole := ih (ready.write stamp r) here' later retained'
      rw [List.append_assoc, Nat.add_assoc] at whole
      exact whole

/-- Where no file of a log is there at the start, its files are spread over whole lines, as many as were
written last: all of them as long as the files were moved on three times at most. No other file is made
or changed. -/
theorem after_retained (folder : Folder) (steps : List Step)
    (same : ∀ c p, Step.configure c ∈ steps → c.path = some p → p.place = place)
    (none : ∀ n ≤ 3, folder.files.get? (backupPlace place n) = none) :
    ((((initial folder).written steps).map Text.ofString).Sublist (Step.lines steps)) ∧
    ∃ lost parts, Retained place folder ((initial folder).written steps)
        ((initial folder).rotations steps) lost parts ((initial folder).after steps).folder ∧
      String.join ((initial folder).written steps) =
        String.join lost ++ wholeLog place ((initial folder).after steps).folder := by
  have ready : (initial folder).Ready := nofun
  obtain ⟨lost, parts, retained⟩ :=
    retained_run steps ready nofun same (retained_start none)
  rw [List.nil_append, Nat.zero_add] at retained
  refine ⟨written_sublist _ steps, lost, parts, retained, ?_⟩
  rw [retained.lines_eq, wholeLog, retained.texts 3 (by omega), retained.texts 2 (by omega),
    retained.texts 1 (by omega), retained.texts 0 (by omega)]
  simp only [String.join_append, String.append_assoc]

/-- Files are moved on for a record at most once. -/
theorem rotations_le (s : Journal) (steps : List Step) :
    s.rotations steps ≤ (Step.lines steps).length := by
  induction steps generalizing s with
  | nil => exact Nat.le_refl 0
  | cons t steps ih =>
    cases t with
    | configure c => exact ih (s.configure c).1
    | record stamp r =>
      have once : ((s.filing? stamp r).elim 0 fun (place, text) => moves place text s.folder) ≤
          (line? stamp r).toList.length := by
        cases entry : s.filing? stamp r with
        | none => exact Nat.zero_le _
        | some e =>
          rw [(filing?_eq_some entry).2]
          exact moves_le_one e.1 e.2 s.folder
      have later := ih (s.write stamp r).1
      rw [rotations, Step.lines, List.flatMap_cons, List.length_append]
      exact Nat.add_le_add once later

theorem written_append (s : Journal) (steps steps' : List Step) :
    s.written (steps ++ steps') = s.written steps ++ (s.after steps).written steps' := by
  induction steps generalizing s with
  | nil => rfl
  | cons t steps ih =>
    cases t with
    | configure c => exact ih (s.configure c).1
    | record stamp r =>
      rw [List.cons_append, written, written, ih, List.append_assoc]
      rfl

section Samples

/-- A message that fills a log file on its own. -/
def longMessage : String := String.ofList (List.replicate maxSize 'b')

def note (message : String) : Record :=
  { level := Level.info, logger := "a", message := some (Text.ofString message) }

def noteLine (message : String) : String := "now | INFO | a | " ++ message ++ "\n"

theorem line?_note (message : String) :
    line? "now" (note message) = some (Text.ofString (noteLine message)) := by
  have worded : (note message).message = some (Text.ofString message) := rfl
  have spelled : Text.ofString (noteLine message) =
      Text.ofString "now | INFO | a | " ++ Text.ofString message ++ Text.ofString "\n" := by
    unfold noteLine
    rw [Text.ofString_append, Text.ofString_append]
  rw [line?, worded, Option.map_some, Option.some.injEq, spelled]
  refine Text.ext_points ?_
  simp only [note, Text.join, Text.points_append, List.flatMap_cons, List.flatMap_nil, List.append_nil,
    ← List.append_assoc]
  exact (List.append_nil _).trans rfl

theorem le_length_noteLine : maxSize ≤ (Text.ofString (noteLine longMessage)).length := by
  have length : (Text.ofString longMessage).length = maxSize := by
    simp only [Text.length, Text.ofString, longMessage, String.toList_ofList, List.length_map,
      List.length_replicate]
  have longer : (Text.ofString longMessage).length ≤ (Text.ofString (noteLine longMessage)).length :=
    length_message_le rfl (line?_note longMessage)
  rwa [length] at longer

/-- A log file that is opened twice, and moved on for a record that fills a file of its own. -/
theorem after_retained_reopened :
    let steps : List Step :=
      [.configure { path := some (.ofText "x.log") }, .record "now" (note "first"),
        .configure { path := some (.ofText "d/../x.log") }, .record "now" (note longMessage)]
    let folder := ((initial .empty).after steps).folder
    (∀ c p, Step.configure c ∈ steps → c.path = some p → p.place = .ofText "x.log") ∧
    (∀ n ≤ 3, Folder.empty.files.get? (backupPlace (.ofText "x.log") n) = none) ∧
    folder.files.get? (backupPlace (.ofText "x.log") 1) = some (noteLine "first") ∧
    wholeLog (.ofText "x.log") folder = noteLine "first" ++ noteLine longMessage := by
  intro steps folder
  let front : List Step :=
    [.configure { path := some (.ofText "x.log") }, .record "now" (note "first"),
      .configure { path := some (.ofText "d/../x.log") }]
  let s := (initial .empty).after front
  have whole : steps = front ++ [.record "now" (note longMessage)] := rfl
  have same : ∀ c p, Step.configure c ∈ steps → c.path = some p → p.place = .ofText "x.log" := by
    have all : ∀ t ∈ steps, ∀ c p, t = Step.configure c → c.path = some p →
        p.place = .ofText "x.log" := by
      simp only [steps, List.forall_mem_cons]
      refine ⟨?_, nofun, ?_, nofun, nofun⟩ <;>
      · rintro c p same path
        obtain rfl := Step.configure.inj same
        obtain rfl := Option.some.inj path
        decide +kernel
    exact fun c p mem => all _ mem c p rfl
  have none (n : Nat) (_ : n ≤ 3) :
      Folder.empty.files.get? (backupPlace (.ofText "x.log") n) = none := rfl
  -- what there is before the last record is small enough to be computed
  have file : s.file = some (.ofText "x.log") := by decide +kernel
  have ready : s.Ready := ready_configure ((initial .empty).after (front.take 2)) _
  obtain ⟨named, there⟩ := ready _ file
  have entry : s.filing? "now" (note longMessage) =
      some (.ofText "x.log", Text.ofString (noteLine longMessage)) := by
    have configured : s.configured = true := by decide +kernel
    have level : s.hierarchy.effectiveLevel "a" = Level.info := by decide +kernel
    have passes : s.Passes (note longMessage) := ⟨by decide, level.le⟩
    rw [filing?, if_pos ⟨configured, passes⟩, file, line?_note]
    rfl
  have full : ¬ Fits (.ofText "x.log") (Text.ofString (noteLine longMessage)) s.folder :=
    not_fits_of_long le_length_noteLine
  have clear : ¬ Obstructed (.ofText "x.log") s.folder :=
    not_obstructed_of_free (by decide +kernel) (by decide +kernel)
  have written : (initial .empty).written steps = [noteLine "first", noteLine longMessage] := by
    have early : (initial .empty).written front = [noteLine "first"] := by decide +kernel
    have added : added? (.ofText "x.log") (Text.ofString (noteLine longMessage)) s.folder =
        some (noteLine longMessage) :=
      (added?_eq_some_iff named there).mpr ⟨rfl, Or.inr clear⟩
    rw [whole, written_append, early, Journal.written, entry, Option.bind_some]
    dsimp only
    rw [added]
    rfl
  obtain ⟨-, lost, parts, retained, lines⟩ := after_retained .empty steps same none
  have few : (initial .empty).rotations steps ≤ 3 := (rotations_le _ steps).trans (by decide)
  refine ⟨same, none, ?_, ?_⟩
  · have first : s.folder.files.get? (.ofText "x.log") = some (noteLine "first") := by
      decide +kernel
    have last : (initial .empty).after steps = (s.write "now" (note longMessage)).1 := by
      rw [whole, after_append]
      rfl
    have state : folder = (s.write "now" (note longMessage)).1.folder := congrArg Journal.folder last
    rw [state, write_fst, entry, Option.elim_some]
    exact (first_append named there full clear).trans first
  · rw [retained.complete few, written] at lines
    exact (String.empty_append.symm.trans lines.symm).trans (by simp)

end Samples

end Journal

end Thermostat.Log
