import Thermostat.Log.Files
import Thermostat.Proofs.Move
import Thermostat.Proofs.Text.Append

/-! Moving log files aside: what is at each place afterwards, and what is in the way. -/
namespace Thermostat

namespace Folder

theorem byteSize_append (s t : Text) : byteSize (s ++ t) = byteSize s + byteSize t := by
  have sum (ps : List CodePoint) (n : Nat) :
      ps.foldl (fun n p => n + (p.toChar?.map Char.utf8Size).getD 1) n =
        n + ps.foldl (fun n p => n + (p.toChar?.map Char.utf8Size).getD 1) 0 := by
    induction ps generalizing n with
    | nil => rfl
    | cons p ps ih => rw [List.foldl_cons, List.foldl_cons, ih, ih (0 + _)]; omega
  rw [byteSize, byteSize, byteSize, Text.points_append, List.foldl_append, sum]

/-- A place below directories, from the root on: its last part stays the last one. -/
theorem exists_whole_concat (f : Folder) (root : String) (front : List Text) :
    ∃ above : Path, ∀ last ≠ Path.upward,
      f.whole ⟨root, front ++ [last]⟩ = { above with parts := above.parts ++ [last] } := by
  by_cases relative : root.isEmpty = true
  · let upwards := (front.takeWhile (· == Path.upward)).length
    let above := f.working.parts.take (f.working.parts.length - upwards) ++ front.drop upwards
    refine ⟨⟨f.working.root, above⟩, fun last ne => ?_⟩
    have same : ((front ++ [last]).takeWhile (· == Path.upward)).length = upwards := by
      rw [List.takeWhile_append, List.takeWhile_cons_of_neg (by simpa using ne), List.append_nil,
        ite_eq_right_iff.mpr]
      intro all
      rw [(List.takeWhile_prefix _).eq_of_length all]
    have le : upwards ≤ front.length := (List.takeWhile_prefix _).length_le
    simp only [whole, Path.isRelative, relative, if_true, same, List.drop_append_of_le_length le,
      above, List.append_assoc]
  · exact ⟨⟨root, front⟩, fun last _ => by simp only [whole, Path.isRelative, relative]; rfl⟩

/-- The text of a path ends in its last part. -/
theorem exists_text_concat (p : Path) :
    ∃ front : Text, ∀ last, Path.text { p with parts := p.parts ++ [last] } = front ++ last := by
  obtain ⟨root, parts⟩ := p
  have text (last : Text) : Path.text ⟨root, parts ++ [last]⟩ =
      Text.ofString root ++ Text.intercalate "/" (parts ++ [last]) := by
    simp [Path.text]
  have slash : (Text.ofString "/").points = [CodePoint.char '/'] := rfl
  cases parts with
  | nil =>
    refine ⟨root, fun last => (text last).trans ?_⟩
    exact (Text.append_right_inj _).mpr (Text.ext_points (by simp [Text.intercalate, slash]))
  | cons first rest =>
    refine ⟨root ++ Text.intercalate "/" (first :: rest) ++ "/", fun last => (text last).trans ?_⟩
    rw [Text.append_assoc, Text.append_assoc, Text.append_right_inj]
    refine Text.ext_points ?_
    simp [Text.points_append, Text.intercalate, slash, Text.intercalate_cons]

/-- Whether a name or a whole path is too long depends on nothing but the size of the last part. -/
theorem isTooLong_concat_congr {f : Folder} {root : String} {front : List Text} {last last' : Text}
    (ne : last ≠ Path.upward) (ne' : last' ≠ Path.upward) (same : byteSize last = byteSize last') :
    f.isTooLong ⟨root, front ++ [last]⟩ = f.isTooLong ⟨root, front ++ [last']⟩ := by
  obtain ⟨above, whole⟩ := f.exists_whole_concat root front
  obtain ⟨front', text⟩ := exists_text_concat above
  have sizes : byteSize (f.whole ⟨root, front ++ [last]⟩).text =
      byteSize (f.whole ⟨root, front ++ [last']⟩).text := by
    rw [whole last ne, whole last' ne', text, text, byteSize_append, byteSize_append, same]
  rw [isTooLong, isTooLong, sizes, List.getLast?_concat, List.getLast?_concat, Option.any_some,
    Option.any_some, same]

theorem isTooLong_of_working {f f' : Folder} (same : f'.working = f.working) (place : Path) :
    f'.isTooLong place = f.isTooLong place := by
  rw [isTooLong, isTooLong, whole, whole, same]

end Folder

namespace Log.Files

variable {place : Path} {front : List Text} {last : Text} {f f' : Folder} {m n : Nat}

/-- What is added to the name of a file at its place with a number. -/
def ending (n : Nat) : Text := if n == 0 then "" else "." ++ toString n

theorem backupPlace_eq (parts : place.parts = front ++ [last]) (n : Nat) :
    backupPlace place n = { place with parts := front ++ [last ++ ending n] } := by
  unfold backupPlace ending
  split
  · have same : last ++ Text.ofString "" = last := Text.ext_points (by simp [Text.points_append, Text.ofString])
    rw [same, ← parts]
  · rw [Path.extend, parts, List.getLast?_concat]
    dsimp only
    rw [List.dropLast_concat]

/-- A place with a name: not all of its parts lead upwards. -/
def Named (place : Path) : Prop := place.parts.all (· == Path.upward) = false

theorem Named.exists_parts (named : Named place) : ∃ front last, place.parts = front ++ [last] := by
  rcases List.eq_nil_or_concat place.parts with none | ⟨front, last, parts⟩
  · rw [Named, none] at named
    cases named
  · exact ⟨front, last, by rw [parts, List.concat_eq_append]⟩

theorem ending_inj (le : m ≤ 3) (le' : n ≤ 3) (same : ending m = ending n) : m = n := by
  have all : ∀ m ≤ 3, ∀ n ≤ 3, ending m = ending n → m = n := by decide
  exact all m le n le' same

/-- No log file or older one is above another one. -/
theorem Named.apart (named : Named place) (le : m ≤ 3) (le' : n ≤ 3) (ne : m ≠ n) :
    Folder.Apart (backupPlace place m) (backupPlace place n) := by
  obtain ⟨front, last, parts⟩ := named.exists_parts
  have apart (m n : Nat) (le : m ≤ 3) (le' : n ≤ 3) (ne : m ≠ n) :
      Folder.isUpTo (backupPlace place m) (backupPlace place n) = false := by
    rw [← Bool.not_eq_true]
    intro above
    obtain ⟨-, front'⟩ := Folder.isUpTo_iff.mp above
    rw [backupPlace_eq parts, backupPlace_eq parts] at front'
    have same := front'.eq_of_length (by simp)
    have names := List.append_cancel_left same
    exact ne (ending_inj le le' ((last.append_right_inj).mp (List.cons.inj names).1))
  exact ⟨apart m n le le' ne, apart n m le' le ne.symm⟩

theorem backupPlace_ne (named : Named place) (pos : 0 < n) (le : n ≤ 3) :
    backupPlace place n ≠ place := fun same => by
  have above := (named.apart (n := 0) le (by omega) (by omega)).1
  rw [same] at above
  exact Bool.false_ne_true (above.symm.trans (Folder.isUpTo_self place))

theorem ne_of_outside {q : Path} (away : ∀ n ≤ 3, Folder.isUpTo (backupPlace place n) q = false) :
    q ≠ place := by
  rintro rfl
  exact Bool.false_ne_true ((away 0 (by omega)).symm.trans (Folder.isUpTo_self q))

theorem ending_ne_upward (pos : 0 < n) (le : n ≤ 3) : last ++ ending n ≠ Path.upward := by
  intro same
  have ends : (ending n).points.getLast? = Path.upward.points.getLast? := by
    have nonempty : ∀ n ≤ 3, 0 < n → (ending n).points ≠ [] := by decide
    rw [← same, Text.points_append, List.getLast?_append_of_ne_nil _ (nonempty n le pos)]
  have digits : ∀ n ≤ 3, 0 < n → (ending n).points.getLast? ≠ Path.upward.points.getLast? := by decide
  exact digits n le pos ends

theorem Named.backup (named : Named place) (le : n ≤ 3) : Named (backupPlace place n) := by
  rcases Nat.eq_zero_or_pos n with rfl | pos
  · exact named
  · obtain ⟨front, last, parts⟩ := named.exists_parts
    rw [Named, backupPlace_eq parts, List.all_append, List.all_cons,
      beq_eq_false_iff_ne.mpr (ending_ne_upward pos le), Bool.false_and, Bool.and_false]

/-- All older files have names of one length. -/
theorem isTooLong_backup (named : Named place) (pos : 0 < n) (le : n ≤ 3) :
    f.isTooLong (backupPlace place n) = f.isTooLong (backupPlace place 1) := by
  obtain ⟨front, last, parts⟩ := named.exists_parts
  have size : ∀ n ≤ 3, 0 < n → Folder.byteSize (ending n) = 2 := by decide
  rw [backupPlace_eq parts, backupPlace_eq parts]
  refine Folder.isTooLong_concat_congr (ending_ne_upward pos le)
    (ending_ne_upward Nat.one_pos (by omega)) ?_
  rw [Folder.byteSize_append, Folder.byteSize_append, size n le pos, size 1 (by omega) Nat.one_pos]

/-- What moving on what is at one place makes of the files, if nothing is in the way. -/
structure Shifted (source target : Path) (f f' : Folder) : Prop where
  working : f'.working = f.working
  moved : f'.files.get? target =
    if f.isOccupied source then f.files.get? source else f.files.get? target
  emptied : f'.files.get? source = none
  noDirectory : f'.isDirectory source = false
  outside : ∀ q, Folder.isUpTo source q = false → Folder.isUpTo target q = false →
    f'.files.get? q = f.files.get? q

theorem get?_of_not_isOccupied (free : f.isOccupied place = false) :
    f.files.get? place = none ∧ f.isDirectory place = false := by
  rw [Folder.isOccupied, Bool.or_eq_false_iff] at free
  refine ⟨Entries.get?_eq_none_iff.mpr fun mem => ?_, free.2⟩
  exact Bool.false_ne_true (free.1.symm.trans (Entries.has_iff.mpr mem))

theorem shift_isSome_iff {source target : Path} :
    (shift source target f).isSome = true ↔
      (f.isOccupied source = true → f.isDirectory target = false ∧ f.isTooLong target = false) := by
  unfold shift
  cases f.isOccupied source <;> cases f.isDirectory target <;> cases f.isTooLong target <;> simp

/-- What is at a place stays if there is nothing, and moves to one that is no directory otherwise. -/
theorem shift_cases {source target : Path} (shifted : shift source target f = some f') :
    (f.isOccupied source = false ∧ f' = f) ∨
      (f.isOccupied source = true ∧ f.isDirectory target = false ∧
        f' = Folder.move source target { f with files := f.files.erase target }) := by
  unfold shift at shifted
  cases occupied : f.isOccupied source with
  | false =>
    rw [occupied, Bool.not_false, if_pos rfl] at shifted
    exact Or.inl ⟨rfl, (Option.some.inj shifted).symm⟩
  | true =>
    rw [occupied, Bool.not_true, if_neg Bool.false_ne_true] at shifted
    split at shifted
    · cases shifted
    · next clear =>
      rw [Bool.not_eq_true, Bool.or_eq_false_iff] at clear
      exact Or.inr ⟨rfl, clear.1, (Option.some.inj shifted).symm⟩

/-- Where a file is dropped, nothing is left at its place or below it. -/
theorem not_isUpTo_of_mem_erase {target : Path} (file : f.isDirectory target = false)
    {e : Path × String} (mem : e ∈ f.files.erase target) : Folder.isUpTo target e.1 = false := by
  obtain ⟨mem, other⟩ := List.mem_filter.mp mem
  rw [← Bool.not_eq_true]
  intro below
  exact bne_iff_ne.mp other (Folder.eq_of_isUpTo file mem below)

theorem shift_spec {source target : Path} (apart : Folder.Apart source target) (named : Named source)
    (shifted : shift source target f = some f') : Shifted source target f f' := by
  rcases shift_cases shifted with ⟨free, rfl⟩ | ⟨occupied, file, rfl⟩
  · obtain ⟨noFile, noDirectory⟩ := get?_of_not_isOccupied free
    exact ⟨rfl, by rw [free, if_neg Bool.false_ne_true], noFile, noDirectory, fun _ _ _ => rfl⟩
  · have kept {q : Path} (away : Folder.isUpTo target q = false) :
        (f.files.erase target).get? q = f.files.get? q := by
      refine Entries.get?_filter (fun name => name != target) (bne_iff_ne.mpr ?_)
      rintro rfl
      exact Bool.false_ne_true (away.symm.trans (Folder.isUpTo_self q))
    refine ⟨rfl, ?_, ?_, ?_, ?_⟩
    · rw [Folder.get?_move_target fun e => not_isUpTo_of_mem_erase file, kept apart.2, occupied,
        if_pos rfl]
    · exact Folder.get?_move_source apart (Folder.isUpTo_self source)
    · exact Folder.isDirectory_move_source apart named
    · intro q source' target'
      rw [Folder.get?_move_outside source' target', kept target']

/-- Where there is nothing to move, there is no file either that could be missing at the new place. -/
theorem Shifted.get?_target {source target : Path} (shifted : Shifted source target f f')
    (free : f.files.get? target = none) : f'.files.get? target = f.files.get? source := by
  rw [shifted.moved]
  cases occupied : f.isOccupied source with
  | true => rfl
  | false => rw [if_neg Bool.false_ne_true, free, (get?_of_not_isOccupied occupied).1]

/-- What is at the place of a log file and at those of older ones once they have been moved on. -/
structure Rotated (place : Path) (f f' : Folder) : Prop where
  current : f'.files.get? place = some ""
  first : f'.files.get? (backupPlace place 1) = f.files.get? place
  second : f'.files.get? (backupPlace place 2) = f.files.get? (backupPlace place 1)
  third : f'.files.get? (backupPlace place 3) =
    if f.isOccupied (backupPlace place 2) then f.files.get? (backupPlace place 2)
    else f.files.get? (backupPlace place 3)
  outside : ∀ q, (∀ n ≤ 3, Folder.isUpTo (backupPlace place n) q = false) →
    f'.files.get? q = f.files.get? q

theorem rotate_eq (place : Path) (f : Folder) :
    rotate place f =
      (shift (backupPlace place 2) (backupPlace place 3) f).bind fun f₁ =>
        (shift (backupPlace place 1) (backupPlace place 2) f₁).bind fun f₂ =>
          (shift (backupPlace place 0) (backupPlace place 1) f₂).map fun f₃ =>
            { f₃ with files := f₃.files.set place "" } := by
  have steps : ((List.range backups).reverse).foldlM
      (fun f n => shift (backupPlace place n) (backupPlace place (n + 1)) f) f =
      (shift (backupPlace place 2) (backupPlace place 3) f).bind fun f =>
        (shift (backupPlace place 1) (backupPlace place 2) f).bind fun f =>
          (shift (backupPlace place 0) (backupPlace place 1) f).bind some := rfl
  rw [rotate, steps]
  cases shift (backupPlace place 2) (backupPlace place 3) f with
  | none => rfl
  | some f₁ =>
    simp only [Option.bind_some]
    cases shift (backupPlace place 1) (backupPlace place 2) f₁ with
    | none => rfl
    | some f₂ =>
      simp only [Option.bind_some]
      cases shift (backupPlace place 0) (backupPlace place 1) f₂ <;> rfl

/-- The files go through two states on the way: each older one is moved on first. -/
theorem rotate_stages (rotated : rotate place f = some f') :
    ∃ f₁ f₂ f₃, shift (backupPlace place 2) (backupPlace place 3) f = some f₁ ∧
      shift (backupPlace place 1) (backupPlace place 2) f₁ = some f₂ ∧
      shift (backupPlace place 0) (backupPlace place 1) f₂ = some f₃ ∧
      f' = { f₃ with files := f₃.files.set place "" } := by
  rw [rotate_eq] at rotated
  obtain ⟨f₁, shifted₁, rotated⟩ := Option.bind_eq_some_iff.mp rotated
  obtain ⟨f₂, shifted₂, rotated⟩ := Option.bind_eq_some_iff.mp rotated
  obtain ⟨f₃, shifted₃, rfl⟩ := Option.map_eq_some_iff.mp rotated
  exact ⟨f₁, f₂, f₃, shifted₁, shifted₂, shifted₃, rfl⟩

theorem Named.shift_spec (named : Named place) (le : n < 3)
    (shifted : shift (backupPlace place n) (backupPlace place (n + 1)) f = some f') :
    Shifted (backupPlace place n) (backupPlace place (n + 1)) f f' :=
  Files.shift_spec (named.apart (by omega) (by omega) (by omega)) (named.backup (by omega)) shifted

theorem rotate_spec (named : Named place) (rotated : rotate place f = some f') :
    Rotated place f f' := by
  obtain ⟨f₁, f₂, f₃, shifted₁, shifted₂, shifted₃, rfl⟩ := rotate_stages rotated
  have older : Shifted (backupPlace place 2) (backupPlace place 3) f f₁ :=
    named.shift_spec (by omega) shifted₁
  have old : Shifted (backupPlace place 1) (backupPlace place 2) f₁ f₂ :=
    named.shift_spec (by omega) shifted₂
  have current : Shifted place (backupPlace place 1) f₂ f₃ :=
    named.shift_spec (n := 0) (by omega) shifted₃
  have apart {m n : Nat} (le : m ≤ 3) (le' : n ≤ 3) (ne : m ≠ n) :
      Folder.isUpTo (backupPlace place m) (backupPlace place n) = false :=
    (named.apart le le' ne).1
  have other {q : Path} (ne : q ≠ place) :
      (f₃.files.set place "").get? q = f₃.files.get? q := Entries.get?_set_of_ne _ _ ne
  refine ⟨Entries.get?_set_self _ _ _, ?_, ?_, ?_, fun q outside => ?_⟩
  · rw [other (backupPlace_ne named (by omega) (by omega)), current.get?_target old.emptied,
      old.outside place (apart (n := 0) (by omega) (by omega) (by omega))
        (apart (n := 0) (by omega) (by omega) (by omega)),
      older.outside place (apart (n := 0) (by omega) (by omega) (by omega))
        (apart (n := 0) (by omega) (by omega) (by omega))]
  · rw [other (backupPlace_ne named (by omega) (by omega)),
      current.outside _ (apart (m := 0) (by omega) (by omega) (by omega))
        (apart (by omega) (by omega) (by omega)),
      old.get?_target older.emptied,
      older.outside _ (apart (by omega) (by omega) (by omega)) (apart (by omega) (by omega) (by omega))]
  · rw [other (backupPlace_ne named (by omega) (by omega)),
      current.outside _ (apart (m := 0) (by omega) (by omega) (by omega))
        (apart (by omega) (by omega) (by omega)),
      old.outside _ (apart (by omega) (by omega) (by omega)) (apart (by omega) (by omega) (by omega)),
      older.moved]
  · rw [other (ne_of_outside outside), current.outside q (outside 0 (by omega)) (outside 1 (by omega)),
      old.outside q (outside 1 (by omega)) (outside 2 (by omega)),
      older.outside q (outside 2 (by omega)) (outside 3 (by omega))]

/-- What is in the way of moving a file aside: names or paths that are too long, or a directory at the
last place where another one would have to go. -/
def Obstructed (place : Path) (f : Folder) : Prop :=
  f.isTooLong (backupPlace place 1) = true ∨
    f.isOccupied (backupPlace place 2) = true ∧ f.isDirectory (backupPlace place 3) = true

theorem not_obstructed_of_rotate (named : Named place) (there : f.files.has place = true)
    (rotated : rotate place f = some f') : ¬ Obstructed place f := by
  obtain ⟨f₁, f₂, f₃, shifted₁, shifted₂, shifted₃, rfl⟩ := rotate_stages rotated
  have clear₁ := shift_isSome_iff.mp (Option.isSome_of_eq_some shifted₁)
  have clear₃ := shift_isSome_iff.mp (Option.isSome_of_eq_some shifted₃)
  have apart {m : Nat} (pos : 0 < m) (le : m ≤ 3) :
      Folder.isUpTo (backupPlace place m) place = false :=
    (named.apart (n := 0) le (by omega) (by omega)).1
  have older : Shifted (backupPlace place 2) (backupPlace place 3) f f₁ :=
    named.shift_spec (by omega) shifted₁
  have old : Shifted (backupPlace place 1) (backupPlace place 2) f₁ f₂ :=
    named.shift_spec (by omega) shifted₂
  have same : f₂.files.get? place = f.files.get? place := by
    rw [old.outside place (apart (by omega) (by omega)) (apart (by omega) (by omega)),
      older.outside place (apart (by omega) (by omega)) (apart (by omega) (by omega))]
  have occupied : f₂.isOccupied place = true := by
    rw [Entries.has_iff, ← Entries.get?_isSome_iff, ← same, Entries.get?_isSome_iff,
      ← Entries.has_iff] at there
    rw [Folder.isOccupied, Folder.isFile, there, Bool.true_or]
  rintro (long | ⟨occupied₂, directory⟩)
  · rw [← Folder.isTooLong_of_working (old.working.trans older.working)] at long
    exact Bool.false_ne_true ((clear₃ occupied).2.symm.trans long)
  · exact Bool.false_ne_true ((clear₁ occupied₂).1.symm.trans directory)

/-- Each place is free before something is moved to it, the last one apart. -/
theorem rotate_isSome (named : Named place) (clear : ¬ Obstructed place f) :
    (rotate place f).isSome = true := by
  rw [Obstructed, not_or, Bool.not_eq_true, not_and, Bool.not_eq_true] at clear
  obtain ⟨short, last⟩ := clear
  have short' {g : Folder} (same : g.working = f.working) {n : Nat} (pos : 0 < n) (le : n ≤ 3) :
      g.isTooLong (backupPlace place n) = false := by
    rw [Folder.isTooLong_of_working same, isTooLong_backup named pos le, short]
  obtain ⟨f₁, shifted₁⟩ := Option.isSome_iff_exists.mp
    (shift_isSome_iff.mpr fun occupied => ⟨last occupied, short' rfl (by omega) (by omega)⟩)
  have older : Shifted (backupPlace place 2) (backupPlace place 3) f f₁ :=
    named.shift_spec (by omega) shifted₁
  obtain ⟨f₂, shifted₂⟩ := Option.isSome_iff_exists.mp
    (shift_isSome_iff.mpr fun _ => ⟨older.noDirectory, short' older.working (by omega) (by omega)⟩)
  have old : Shifted (backupPlace place 1) (backupPlace place 2) f₁ f₂ :=
    named.shift_spec (by omega) shifted₂
  have working : f₂.working = f.working := old.working.trans older.working
  obtain ⟨f₃, shifted₃⟩ := Option.isSome_iff_exists.mp
    (shift_isSome_iff.mpr fun _ => ⟨old.noDirectory, short' working (by omega) (by omega)⟩)
  rw [rotate_eq, shifted₁, Option.bind_some, shifted₂, Option.bind_some, shifted₃]
  rfl

/-- Nothing else is in the way. -/
theorem rotate_isSome_iff (named : Named place) (there : f.files.has place = true) :
    (rotate place f).isSome = true ↔ ¬ Obstructed place f := by
  refine ⟨fun moved => ?_, rotate_isSome named⟩
  obtain ⟨f', rotated⟩ := Option.isSome_iff_exists.mp moved
  exact not_obstructed_of_rotate named there rotated

end Log.Files

end Thermostat
