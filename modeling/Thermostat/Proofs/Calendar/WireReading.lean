import Thermostat.Proofs.Calendar.RoundTrip

/-! Moments read back from the date and the time that stand for them in requests: to the second, without
an offset, and only where the year has four digits. -/
namespace Thermostat

/-- The time of day without its part of a second. -/
def TimeOfDay.toSecond (t : TimeOfDay) : TimeOfDay :=
  { t with microsecond := 0, microsecond_lt := midnight.microsecond_lt }

namespace DateTime

/-- Date and time as requests send them, in one text. -/
def wire (d : DateTime) : String := d.date.wire ++ "T" ++ d.time.wire

/-- What the clock of a moment shows, to the second. -/
def shown (d : DateTime) : DateTime := ⟨d.date, d.time.toSecond, none⟩

end DateTime

theorem TimeOfDay.iso_toSecond (t : TimeOfDay) : t.toSecond.iso = t.wire := String.append_empty

theorem Date.wire_eq_iso {d : Date} (long : 1000 ≤ d.year) : d.wire = d.iso := by
  have digits : 3 < (toString d.year).length := by
    rw [← String.length_toList, Text.toList_toString, ← Nat.not_le,
      Nat.length_toDigits_le_iff (by decide) (by decide)]
    omega
  have year : Text.padded 4 d.year = toString d.year := by
    rw [← String.toList_inj, Text.toList_padded, Nat.sub_eq_zero_of_le digits, Text.toList_toString]
    rfl
  rw [wire, iso, year]

theorem DateTime.wire_eq_joined {d : DateTime} (long : 1000 ≤ d.date.year) :
    d.wire = d.shown.joined (String.singleton 'T') := by
  have letter : String.singleton 'T' = "T" := rfl
  rw [wire, Date.wire_eq_iso long, letter, joined]
  exact (congrArg (d.date.iso ++ "T" ++ ·) d.time.iso_toSecond.symm).trans String.append_empty.symm

namespace Iso

/-- Where digits are taken, each of them stands in the text. -/
theorem isDigit_of_takeDigits {n value i : Nat} {cs rest : List Char}
    (taken : takeDigits n cs = some (value, rest)) (within : i < n) :
    ∃ c, cs[i]? = some c ∧ c.isDigit = true := by
  obtain ⟨ds, ⟨length, all⟩, rfl, -⟩ := takeDigits_eq_some_iff.mp taken
  rw [← length] at within
  exact ⟨ds[i], by rw [List.getElem?_append_left within, List.getElem?_eq_getElem within],
    all _ (List.getElem_mem within)⟩

/-- A moment is only read from a text that begins with the four digits of a year. -/
theorem isDigit_of_readDateTime {cs : List Char} {d : DateTime} {i : Nat}
    (read : readDateTime cs = some d) (within : i < 4) : ∃ c, cs[i]? = some c ∧ c.isDigit = true := by
  simp only [readDateTime, Option.bind_eq_bind] at read
  split at read
  · cases read
  simp only [Option.bind_eq_some_iff] at read
  obtain ⟨n, -, date, dated, -⟩ := read
  simp only [readDate, Option.bind_eq_bind, Option.bind_eq_some_iff, Prod.exists] at dated
  obtain ⟨year, rest, taken, -⟩ := dated
  obtain ⟨c, place, digit⟩ := isDigit_of_takeDigits taken within
  rw [List.getElem?_take] at place
  split at place
  · exact ⟨c, place, digit⟩
  · cases place

theorem toList_wire (d : DateTime) :
    d.wire.toList = Nat.toDigits 10 d.date.year ++ '-' ::
      ((Text.padded 2 d.date.month).toList ++ '-' :: ((Text.padded 2 d.date.day).toList ++ 'T' ::
        ((Text.padded 2 d.time.hour).toList ++ ':' :: ((Text.padded 2 d.time.minute).toList ++ ':' ::
          (Text.padded 2 d.time.second).toList)))) := by
  simp [DateTime.wire, Date.wire, TimeOfDay.wire]

/-- Without its zeros a year leaves a mark among the first four characters. -/
theorem readDateTime_wire {d : DateTime} (short : d.date.year < 1000) :
    readDateTime d.wire.toList = none := by
  have few : (Nat.toDigits 10 d.date.year).length ≤ 3 :=
    (Nat.length_toDigits_le_iff (by decide) (by decide)).mpr short
  cases read : readDateTime d.wire.toList with
  | none => rfl
  | some e =>
    obtain ⟨c, mark, digit⟩ := isDigit_of_readDateTime read (Nat.lt_succ_of_le few)
    rw [toList_wire, List.getElem?_append_right (Nat.le_refl _), Nat.sub_self] at mark
    cases mark
    cases digit

theorem endsInDigit_wire (d : DateTime) : EndsInDigit d.wire.toList := by
  have time : EndsInDigit d.time.wire.toList := by
    rw [← TimeOfDay.iso_toSecond]
    exact endsInDigit_time d.time.toSecond
  rw [DateTime.wire, String.toList_append]
  exact time.append _

theorem head?_wire (d : DateTime) : ∃ c, d.wire.toList.head? = some c ∧ c.isDigit = true := by
  obtain ⟨c, cs, digits⟩ := List.exists_cons_of_ne_nil (Nat.toDigits_ne_nil (b := 10) (n := d.date.year))
  refine ⟨c, ?_, Text.isDigit_of_mem_toDigits (digits ▸ List.mem_cons_self)⟩
  rw [toList_wire, digits]
  rfl

end Iso

open Iso

theorem DateTime.read?_wire (d : DateTime) :
    read? (Text.ofString d.wire) = if 1000 ≤ d.date.year then some d.shown else none := by
  have read : read? ⟨[] ++ (Text.ofString d.wire).points ++ []⟩ = readDateTime d.wire.toList :=
    read?_of_digits (head?_wire d) (endsInDigit_wire d) (List.forall_mem_nil _) (List.forall_mem_nil _)
  rw [List.nil_append, List.append_nil] at read
  refine read.trans ?_
  split
  · next long => rw [wire_eq_joined long, readDateTime_joined, settled, shown, Option.map_none]
  · next short => exact readDateTime_wire (Nat.lt_of_not_le short)

end Thermostat
