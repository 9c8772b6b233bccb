import Thermostat.Proofs.Calendar.Clock
import Thermostat.Proofs.Calendar.DateForm

/-! The letter Z at the end of a text. It stands for universal time behind a time of day, but behind a date
alone it is taken for the separator of a time. -/
namespace Thermostat

namespace Iso

/-- What the letter Z at the end of a text is replaced by. -/
def zeroOffset : List Char := ['+', '0', '0', ':', '0', '0']

section Offset

variable {z rest : List Char}

theorem nul_not_mem_zeroOffset : '\x00' ∉ zeroOffset := by decide

/-- A clock that ends in time cannot be followed by a further offset, unless a NUL stands between. -/
theorem nul_mem_of_readClock {clock : Clock} (read : readClock (z ++ zeroOffset) = some clock)
    (clean : clock.clean = true) : '\x00' ∈ z := by
  by_contra noNul
  have all := inClock_of_readClock read clean (by
    rw [List.mem_append, not_or]
    exact ⟨noNul, nul_not_mem_zeroOffset⟩)
  have sign : inClock '+' = true := all '+' (List.mem_append_right z List.mem_cons_self)
  cases sign

theorem zero_of_readOffset {s : Char} {o : Offset} (read : readOffset (s :: (z ++ zeroOffset)) = some o)
    (noNul : '\x00' ∉ z) : o = .zero := by
  have ended (negative : Bool) : ((readClock (z ++ zeroOffset)).bind fun c =>
      if c.clean then offsetOf? negative c else none) ≠ some o := by
    intro read
    simp only [Option.bind_eq_some_iff, Option.ite_none_right_eq_some] at read
    obtain ⟨clock, read, clean, -⟩ := read
    exact noNul (nul_mem_of_readClock read clean)
  unfold readOffset at read
  split at read
  · rw [Option.ite_none_right_eq_some] at read
    exact (Option.some.inj read.2).symm
  · next positive =>
    cases positive
    exact absurd read (ended false)
  · next negative =>
    cases negative
    exact absurd read (ended true)
  · cases read

theorem readClock_drop_zeroOffset : readClock (zeroOffset.drop 1) = some ⟨0, 0, 0, 0, true⟩ := rfl

theorem readOffset_zeroOffset : readOffset zeroOffset = some .zero := by
  change ((readClock (zeroOffset.drop 1)).bind fun c => if c.clean then offsetOf? false c else none) = _
  rw [readClock_drop_zeroOffset]
  rfl

theorem readTime_drop_zeroOffset : readTime (zeroOffset.drop 1) = some (.midnight, none) := by
  have clock : ∀ c ∈ zeroOffset.drop 1, (!startsOffset c) = true :=
    List.all_eq_true.mp (by decide)
  rw [readTime, List.takeWhile_eq_self_iff.mpr clock, List.dropWhile_eq_nil_iff.mpr clock,
    readClock_drop_zeroOffset]
  rfl

theorem zero_of_readTime {time : TimeOfDay} {offset : Option Offset}
    (read : readTime (rest ++ zeroOffset) = some (time, offset)) :
    ∃ o, offset = some o ∧ ('\x00' ∉ rest → o = .zero) := by
  have zone : (rest ++ zeroOffset).dropWhile (fun c => !startsOffset c) =
      rest.dropWhile (fun c => !startsOffset c) ++ zeroOffset := by
    rw [List.dropWhile_append]
    split
    · next empty =>
      rw [List.isEmpty_iff.mp empty]
      rfl
    · rfl
  have nonempty : (rest.dropWhile (fun c => !startsOffset c) ++ zeroOffset).isEmpty = false := by
    simp [zeroOffset]
  simp only [readTime, zone, nonempty, Option.bind_eq_bind, Option.bind_eq_some_iff,
    Bool.false_eq_true, if_false] at read
  obtain ⟨clock, -, o, read, t, -, same⟩ := read
  cases same
  refine ⟨o, rfl, fun noNul => ?_⟩
  -- The first sign behind the time is the appended one, or one that the text had before it.
  cases signed : rest.dropWhile (fun c => !startsOffset c) with
  | nil =>
    rw [signed, List.nil_append, readOffset_zeroOffset] at read
    exact (Option.some.inj read).symm
  | cons s z =>
    have mem : '\x00' ∉ z := fun mem =>
      noNul ((List.dropWhile_suffix _).subset (signed ▸ List.mem_cons_of_mem s mem))
    rw [signed] at read
    exact zero_of_readOffset read mem

end Offset

/-- Characters that are one of the written forms of a date, and read as the date. -/
structure Dated (cs : List Char) (date : Date) : Prop where
  form : DateForm cs
  read : readDate cs = some date

section Moment

variable {cs : List Char} {date : Date} {d : DateTime}

theorem Dated.ne_nil (dated : Dated cs date) : cs ≠ [] := by
  rintro rfl
  cases dated.read

theorem Dated.not_mem {c : Char} (dated : Dated cs date) (other : c.isDigit = false)
    (mark : c ≠ '-') (week : c ≠ 'W') : c ∉ cs := by
  intro mem
  obtain digit | same | same := dated.form.mem mem
  · rw [other] at digit
    cases digit
  · exact mark same
  · exact week same

theorem Dated.readDateTime_zeroOffset (dated : Dated cs date) :
    readDateTime (cs ++ zeroOffset) = some ⟨date, .midnight, none⟩ := by
  have length : ¬(cs ++ zeroOffset).length < 7 := by
    have positive := List.length_pos_iff.mpr dated.ne_nil
    simp [zeroOffset]
    omega
  have ends : dateLength (cs ++ zeroOffset) = some cs.length :=
    dated.form.dateLength_append (by decide) (by decide)
  rw [readDateTime, if_neg length, ends]
  simp only [Option.bind_eq_bind, Option.bind_some, List.take_left, List.drop_left, dated.read]
  change ((readTime (zeroOffset.drop 1)).bind fun p => some (⟨date, p.1, p.2⟩ : DateTime)) = _
  rw [readTime_drop_zeroOffset, Option.bind_some]

/-- A date holds no plus sign, so it ends before the offset. -/
theorem Dated.le_length {n : Nat} (dated : Dated ((cs ++ zeroOffset).take n) date) :
    n ≤ cs.length := by
  have sign : '+' ∉ (cs ++ zeroOffset).take n := dated.not_mem (by decide) (by decide) (by decide)
  by_contra beyond
  refine sign (List.mem_take_iff_getElem.mpr ⟨cs.length, ?_, ?_⟩)
  · simp [zeroOffset]
    omega
  · simp [zeroOffset]

/-- Behind a date alone the offset is lost. Behind anything else it counts, unless an offset before it
is ended by a NUL. -/
theorem readDateTime_zeroOffset_cases (read : readDateTime (cs ++ zeroOffset) = some d) :
    (Dated cs d.date ∧ d = ⟨d.date, .midnight, none⟩) ∨
      ∃ o, d.offset = some o ∧ ('\x00' ∉ cs → o = .zero) := by
  have whole := read
  simp only [readDateTime, Option.bind_eq_bind] at read
  split at read
  · cases read
  simp only [Option.bind_eq_some_iff] at read
  obtain ⟨n, ends, date, alone, read⟩ := read
  have dated : Dated ((cs ++ zeroOffset).take n) date := ⟨form_take ends alone, alone⟩
  have within := dated.le_length
  rw [List.drop_append_of_le_length within] at read
  rw [List.take_append_of_le_length within] at dated
  cases rest : cs.drop n with
  | nil =>
    rw [List.take_of_length_le (List.drop_eq_nil_iff.mp rest)] at dated
    rw [dated.readDateTime_zeroOffset] at whole
    cases whole
    exact .inl ⟨dated, rfl⟩
  | cons c rest' =>
    rw [rest] at read
    simp only [List.cons_append, Option.bind_eq_some_iff, Prod.exists] at read
    obtain ⟨time, offset, read, same⟩ := read
    obtain ⟨o, known, universal⟩ := zero_of_readTime read
    cases same
    refine .inr ⟨o, known, fun noNul => universal fun mem => noNul ?_⟩
    exact (List.drop_suffix n cs).subset (rest ▸ List.mem_cons_of_mem c mem)

end Moment

section Points

variable {body : List CodePoint} {cs : List Char} {date : Date}

theorem expandZulu_concat (body : List CodePoint) :
    expandZulu (body ++ [.char 'Z']) = body ++ zeroOffset.map .char := by
  have last : (body ++ [CodePoint.char 'Z']).getLast? = some (.char 'Z') := List.getLast?_concat
  rw [expandZulu, last, if_pos (by decide), List.dropLast_concat]
  rfl

/-- A half of a pair becomes the letter T, which no date holds. -/
theorem Dated.eq_of_plainSeparator (dated : Dated cs date)
    (chars : plainSeparator body = cs.map .char) : body = cs.map .char := by
  rcases plainSeparator_cases body with same | ⟨letter, -⟩
  · exact same.symm.trans chars
  · rw [chars] at letter
    obtain ⟨c, mem, same⟩ := List.mem_map.mp letter
    cases same
    exact absurd mem (dated.not_mem (by decide) (by decide) (by decide))

theorem nul_not_mem (chars : plainSeparator body = cs.map .char) (noNul : .char '\x00' ∉ body) :
    '\x00' ∉ cs := by
  intro mem
  have point : .char '\x00' ∈ plainSeparator body := chars ▸ List.mem_map_of_mem mem
  rcases plainSeparator_cases body with same | ⟨-, each⟩
  · exact noNul (same ▸ point)
  · rcases each _ point with within | letter
    · exact noNul within
    · cases letter

theorem read?_of_concat {t : Text} (ends : Text.trimPoints t.points = body ++ [.char 'Z'])
    {d : DateTime} :
    DateTime.read? t = some d ↔
      ∃ cs : List Char, plainSeparator body = cs.map .char ∧
        readDateTime (cs ++ zeroOffset) = some d := by
  have nonempty : body ++ [CodePoint.char 'Z'] ≠ [] := by simp
  rw [DateTime.read?, ends]
  split
  · next empty => exact absurd empty nonempty
  · rw [expandZulu_concat, plainSeparator_append (isHalf_map_char zeroOffset), Option.bind_eq_bind,
      Option.bind_eq_some_iff]
    simp only [Text.mapM_toChar?_eq_some_iff]
    constructor
    · rintro ⟨all, chars, read⟩
      obtain ⟨cs, behind, rfl, front, same⟩ := List.append_eq_map_iff.mp chars
      obtain rfl := (List.map_inj_right fun _ _ => CodePoint.char.inj).mp same
      exact ⟨cs, front.symm, read⟩
    · rintro ⟨cs, chars, read⟩
      exact ⟨cs ++ zeroOffset, by rw [chars, List.map_append], read⟩

end Points

end Iso

open Iso

/-- What is read where a text is a body and a letter Z behind it. Only dates alone are read without an
offset, and the offset is universal time unless the body holds a NUL. -/
structure DateTime.Designated (body : List CodePoint) (read : Option DateTime) : Prop where
  naive : ∀ d, (read = some d ∧ d.offset = none) ↔
    ∃ cs date, body = cs.map .char ∧ Dated cs date ∧ d = ⟨date, .midnight, none⟩
  universal : ∀ d o, read = some d → d.offset = some o → .char '\x00' ∉ body → o = .zero

theorem DateTime.read?_designated {t : Text} {body : List CodePoint}
    (ends : Text.trimPoints t.points = body ++ [.char 'Z']) : Designated body (read? t) where
  naive d := by
    rw [read?_of_concat ends]
    constructor
    · rintro ⟨⟨cs, chars, read⟩, naive⟩
      rcases readDateTime_zeroOffset_cases read with ⟨dated, same⟩ | ⟨o, offset, -⟩
      · exact ⟨cs, d.date, dated.eq_of_plainSeparator chars, dated, same⟩
      · rw [naive] at offset
        cases offset
    · rintro ⟨cs, date, rfl, dated, rfl⟩
      have alike := plainSeparator_eq_self (isHalf_map_char cs)
      exact ⟨⟨cs, alike, dated.readDateTime_zeroOffset⟩, rfl⟩
  universal d o read offset noNul := by
    obtain ⟨cs, chars, read⟩ := (read?_of_concat ends).mp read
    rcases readDateTime_zeroOffset_cases read with ⟨-, same⟩ | ⟨o', known, universal⟩
    · rw [same] at offset
      cases offset
    · rw [offset] at known
      cases known
      exact universal (nul_not_mem chars noNul)

theorem DateTime.read?_designated_week :
    Text.trimPoints (Text.ofString " 2026-W51-7T08:00Z\n").points =
        (Text.ofString "2026-W51-7T08:00").points ++ [.char 'Z'] ∧
      Designated (Text.ofString "2026-W51-7T08:00").points
        (read? (Text.ofString " 2026-W51-7T08:00Z\n")) :=
  ⟨by decide, read?_designated (by decide)⟩

theorem DateTime.not_universal_date :
    ¬∀ t d, (Text.trimPoints t.points).getLast? = some (.char 'Z') → read? t = some d →
      d.offset = some .zero := by
  intro universal
  let day : Date := { year := 2026, month := 12, day := 20 }
  have ends : Text.trimPoints (Text.ofString "2026-12-20Z").points =
      "2026-12-20".toList.map .char ++ [.char 'Z'] := by decide
  have form : DateForm ("2026".toList ++ '-' :: ("12".toList ++ '-' :: "20".toList)) :=
    .extended (digits_of_all rfl rfl) (digits_of_all rfl rfl) (digits_of_all rfl rfl)
  have dated : Dated "2026-12-20".toList day := ⟨form, by decide⟩
  have read : read? (Text.ofString "2026-12-20Z") = some ⟨day, .midnight, none⟩ :=
    (read?_of_concat ends).mpr
      ⟨_, plainSeparator_eq_self (isHalf_map_char _), dated.readDateTime_zeroOffset⟩
  have known := universal _ _ (by rw [ends]; rfl) read
  cases known

end Thermostat
