import Mathlib.Data.List.Basic
import Thermostat.Path

/-! Places: what a path leads to leads to itself. -/
namespace Thermostat

namespace Text

variable {ps : List CodePoint} {p : CodePoint}

theorem byte?_bounds {b : UInt8} (byte : byte? p = some b) : 128 ≤ b.toNat := by
  unfold byte? at byte
  split at byte
  · next range =>
    obtain rfl := Option.some.inj byte
    have small : p.number - 0xDC00 < 256 := by omega
    rw [Nat.toUInt8, UInt8.toNat_ofNat', Nat.mod_eq_of_lt small]
    omega
  · cases byte

/-- What is spelled at the front of a list, by so many of its members as bytes. -/
theorem spelledChar?_eq_some {c : Char} {n : Nat} (spelled : spelledChar? ps = some (c, n)) :
    ∃ bytes s h, (ps.take n).mapM byte? = some bytes ∧
      s = String.fromUTF8 ⟨bytes.toArray⟩ h ∧ s.toList = [c] := by
  obtain ⟨k, -, found⟩ := List.exists_of_findSome?_eq_some spelled
  obtain ⟨bytes, mapped, found⟩ := Option.bind_eq_some_iff.mp found
  obtain ⟨s, read, found⟩ := Option.bind_eq_some_iff.mp found
  unfold String.fromUTF8? at read
  split at read
  · next valid =>
    split at found
    · next c' single =>
      obtain ⟨rfl, rfl⟩ := Prod.mk.inj (Option.some.inj found)
      exact ⟨bytes, s, valid, mapped, (Option.some.inj read).symm, single⟩
    · cases found
  · cases read

/-- Halves never spell a dot, which is written in a single small byte. -/
theorem spelledChar?_ne_dot {n : Nat} : spelledChar? ps ≠ some ('.', n) := by
  intro spelled
  obtain ⟨bytes, s, valid, mapped, rfl, single⟩ := spelledChar?_eq_some spelled
  have dot : String.fromUTF8 ⟨bytes.toArray⟩ valid = "." := String.toList_inj.mp single
  have same : (⟨bytes.toArray⟩ : ByteArray) = ".".toByteArray := congrArg String.toByteArray dot
  have data : bytes.toArray = ".".toByteArray.data := congrArg ByteArray.data same
  have small : bytes = [46] := congrArg Array.toList data
  subst small
  cases front : ps.take n with
  | nil =>
    rw [front] at mapped
    cases mapped
  | cons q qs =>
    rw [front, List.mapM_cons] at mapped
    obtain ⟨b, byte, mapped⟩ := Option.bind_eq_some_iff.mp mapped
    obtain ⟨rest, -, mapped⟩ := Option.bind_eq_some_iff.mp mapped
    obtain ⟨rfl, -⟩ := List.cons.inj (Option.some.inj mapped)
    exact absurd (byte?_bounds byte) (by decide)

theorem joinBytes_eq_drop (n : Nat) (ps : List CodePoint) :
    joinBytes n ps = joinBytes 0 (ps.drop n) := by
  induction n generalizing ps with
  | zero => rfl
  | succ n ih =>
    cases ps with
    | nil => rfl
    | cons p ps => exact ih ps

/-- Bytes that are left at the front were there before. -/
theorem take_joinBytes {k : Nat} {bytes : List UInt8}
    (mapped : ((joinBytes 0 ps).take k).mapM byte? = some bytes) :
    (joinBytes 0 ps).take k = ps.take k := by
  induction k generalizing ps bytes with
  | zero => rfl
  | succ k ih =>
    cases ps with
    | nil => rfl
    | cons p ps =>
      rw [joinBytes] at mapped ⊢
      split at mapped
      · next c n spelled =>
        rw [List.take_succ_cons, List.mapM_cons, byte?_char] at mapped
        cases mapped
      · next unspelled =>
        rw [List.take_succ_cons, List.mapM_cons] at mapped
        obtain ⟨b, -, mapped⟩ := Option.bind_eq_some_iff.mp mapped
        obtain ⟨rest, mapped, -⟩ := Option.bind_eq_some_iff.mp mapped
        rw [List.take_succ_cons, List.take_succ_cons, ih mapped]

/-- What is not spelled at the front is not spelled there when the rest is joined either. -/
theorem spelledChar?_joinBytes (unspelled : spelledChar? (p :: ps) = none) :
    spelledChar? (p :: joinBytes 0 ps) = none := by
  by_contra spelled
  obtain ⟨r, spelled⟩ := Option.ne_none_iff_exists'.mp spelled
  obtain ⟨n, mem, found⟩ := List.exists_of_findSome?_eq_some spelled
  have before := List.findSome?_eq_none_iff.mp unspelled n mem
  obtain ⟨bytes, mapped, -⟩ := Option.bind_eq_some_iff.mp found
  have same : (p :: joinBytes 0 ps).take n = (p :: ps).take n := by
    cases n with
    | zero => rfl
    | succ n =>
      rw [List.take_succ_cons, List.mapM_cons] at mapped
      obtain ⟨b, -, mapped⟩ := Option.bind_eq_some_iff.mp mapped
      obtain ⟨rest, mapped, -⟩ := Option.bind_eq_some_iff.mp mapped
      rw [List.take_succ_cons, List.take_succ_cons, take_joinBytes mapped]
  rw [same, before] at found
  cases found

theorem joinBytes_joinBytes (ps : List CodePoint) : joinBytes 0 (joinBytes 0 ps) = joinBytes 0 ps := by
  induction length : ps.length using Nat.strongRecOn generalizing ps with
  | ind n ih =>
    cases ps with
    | nil => rfl
    | cons p ps =>
      rw [List.length_cons] at length
      rw [joinBytes]
      split
      · next c k spelled =>
        have unspelled (qs : List CodePoint) : spelledChar? (.char c :: qs) = none := by
          simp [spelledChar?, byte?_char]
        have shorter : (ps.drop (k - 1)).length < n := by
          rw [List.length_drop]
          omega
        rw [joinBytes_eq_drop (k - 1) ps, joinBytes, unspelled]
        exact congrArg _ (ih _ shorter _ rfl)
      · next unspelled =>
        rw [joinBytes, spelledChar?_joinBytes unspelled]
        exact congrArg _ (ih ps.length (by omega) ps rfl)

/-- A dot in a joined text was there before. -/
theorem eq_cons_of_joinBytes {qs : List CodePoint} (joined : joinBytes 0 ps = .char '.' :: qs) :
    ∃ rest, ps = .char '.' :: rest ∧ joinBytes 0 rest = qs := by
  cases ps with
  | nil => cases joined
  | cons p ps =>
    rw [joinBytes] at joined
    split at joined
    · next c n spelled =>
      obtain ⟨same, -⟩ := List.cons.inj joined
      rw [CodePoint.char.inj same] at spelled
      exact absurd spelled spelledChar?_ne_dot
    · obtain ⟨rfl, same⟩ := List.cons.inj joined
      exact ⟨ps, rfl, same⟩

theorem fileName_fileName (t : Text) : t.fileName.fileName = t.fileName :=
  congrArg Text.mk (joinBytes_joinBytes t.points)

theorem eq_nil_of_joinBytes (joined : joinBytes 0 ps = []) : ps = [] := by
  cases ps with
  | nil => rfl
  | cons p ps =>
    rw [joinBytes] at joined
    split at joined <;> cases joined

end Text

namespace Path

variable {p : Path} {part : Text}

theorem fileName_ne_upward (other : part ≠ upward) : part.fileName ≠ upward := by
  intro same
  have joined : Text.joinBytes 0 part.points = [.char '.', .char '.'] := congrArg Text.points same
  obtain ⟨rest, first, joined⟩ := Text.eq_cons_of_joinBytes joined
  obtain ⟨rest', second, joined⟩ := Text.eq_cons_of_joinBytes joined
  have points : part.points = [.char '.', .char '.'] := by
    rw [first, second, Text.eq_nil_of_joinBytes joined]
  exact other (congrArg Text.mk points)

/-- The parts of a place: some that lead upwards, none of them below a root, and then names of files. -/
structure Settled (p : Path) (ups : Nat) (names : List Text) : Prop where
  parts : p.parts = List.replicate ups upward ++ names
  relative : ups ≠ 0 → p.isRelative = true
  names : ∀ name ∈ names, name ≠ upward ∧ name.fileName = name

theorem Settled.enter {ups : Nat} {names : List Text} (settled : p.Settled ups names) (part : Text) :
    ∃ ups names, (p.enter part).Settled ups names := by
  obtain ⟨parts, relative, files⟩ := settled
  unfold Path.enter
  by_cases up : part = upward
  · subst up
    rw [if_neg (by simp)]
    rcases List.eq_nil_or_concat names with rfl | ⟨names, last, rfl⟩
    · cases ups with
      | zero =>
        have none : p.parts = [] := parts
        simp only [none, List.getLast?_nil]
        split
        · next here => exact ⟨1, [], rfl, fun _ => here, nofun⟩
        · exact ⟨0, [], none, nofun, nofun⟩
      | succ ups =>
        have whole : p.parts = List.replicate ups upward ++ [upward] := by
          rw [parts, List.append_nil, List.replicate_succ']
        rw [whole, List.getLast?_concat]
        dsimp only
        rw [if_pos (by simp)]
        refine ⟨ups + 2, [], ?_, fun _ => relative (Nat.succ_ne_zero ups), nofun⟩
        rw [List.append_nil, List.replicate_succ', List.replicate_succ']
    · rw [List.concat_eq_append] at parts files
      obtain ⟨notUp, -⟩ := files last (List.mem_append_right _ (List.mem_singleton_self last))
      rw [← List.append_assoc] at parts
      rw [parts, List.getLast?_concat]
      dsimp only
      rw [if_neg (by simpa using notUp)]
      refine ⟨ups, names, ?_, relative, fun name mem => files name (List.mem_append_left _ mem)⟩
      rw [Path.parent, parts, List.dropLast_concat]
  · rw [if_pos (by simpa using up)]
    refine ⟨ups, names ++ [part.fileName], ?_, relative, fun name mem => ?_⟩
    · rw [parts, List.append_assoc]
    · rcases List.mem_append.mp mem with old | last
      · exact files name old
      · rw [List.mem_singleton.mp last]
        exact ⟨fileName_ne_upward up, Text.fileName_fileName part⟩

theorem settled_place (p : Path) : ∃ ups names, p.place.Settled ups names := by
  refine List.foldlRecOn (motive := fun q : Path => ∃ ups names, q.Settled ups names) p.parts _
    ⟨0, [], rfl, nofun, nofun⟩ ?_
  rintro q ⟨ups, names, settled⟩ part -
  exact settled.enter part

theorem enter_upward {ups : Nat} (relative : p.isRelative = true)
    (parts : p.parts = List.replicate ups upward) :
    p.enter upward = { p with parts := List.replicate (ups + 1) upward } := by
  unfold Path.enter
  rw [if_neg (by simp), parts]
  cases ups with
  | zero =>
    dsimp only [List.replicate_zero, List.getLast?_nil]
    rw [if_pos relative]
    rfl
  | succ ups =>
    have last : (List.replicate (ups + 1) upward).getLast? = some upward := by
      rw [List.replicate_succ', List.getLast?_concat]
    rw [last]
    dsimp only
    rw [if_pos (by simp), ← List.replicate_succ']

theorem enter_name {name : Text} (other : name ≠ upward) (file : name.fileName = name) :
    p.enter name = { p with parts := p.parts ++ [name] } := by
  rw [Path.enter, if_pos (by simpa using other), file]

theorem Settled.place_eq {ups : Nat} {names : List Text} (settled : p.Settled ups names) :
    p.place = p := by
  have upwards (n : Nat) (le : n ≤ ups) :
      (List.replicate n upward).foldl Path.enter p.start = { p with parts := List.replicate n upward } := by
    induction n with
    | zero => rfl
    | succ n ih =>
      have relative := settled.relative (by omega)
      rw [List.replicate_succ', List.foldl_concat, ih (by omega),
        enter_upward (p := { p with parts := List.replicate n upward }) relative rfl,
        List.replicate_succ']
  have named (q : Path) (names : List Text)
      (files : ∀ name ∈ names, name ≠ upward ∧ name.fileName = name) :
      names.foldl Path.enter q = { q with parts := q.parts ++ names } := by
    induction names generalizing q with
    | nil => rw [List.append_nil, List.foldl_nil]
    | cons name names ih =>
      obtain ⟨⟨other, file⟩, rest⟩ := List.forall_mem_cons.mp files
      rw [List.foldl_cons, enter_name other file, ih _ rest, List.append_assoc]
      rfl
  rw [place, settled.parts, List.foldl_append, upwards ups (Nat.le_refl ups), named _ _ settled.names,
    ← settled.parts]

/-- A place leads to itself. -/
theorem place_place (p : Path) : p.place.place = p.place := by
  obtain ⟨ups, names, settled⟩ := p.settled_place
  exact settled.place_eq

end Path

end Thermostat
