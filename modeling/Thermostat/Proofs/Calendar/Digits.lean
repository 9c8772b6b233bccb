import Mathlib.Algebra.Group.Nat.Defs
import Mathlib.Data.List.TakeWhile
import Thermostat.Calendar.Iso
import Thermostat.Proofs.Text.Digits

/-! Digits in written dates and times: what exactly so many digits read as, and what is left of a text
behind them. -/
namespace Thermostat.Iso

/-- Exactly so many digits. -/
structure Digits (n : Nat) (ds : List Char) : Prop where
  length : ds.length = n
  all : ∀ c ∈ ds, c.isDigit = true

theorem digits_of_all {n : Nat} {ds : List Char} (length : ds.length = n)
    (all : ds.all Char.isDigit = true) : Digits n ds :=
  ⟨length, List.all_eq_true.mp all⟩

theorem Digits.uncons {n : Nat} {ds : List Char} (digits : Digits (n + 1) ds) :
    ∃ c cs, ds = c :: cs ∧ c.isDigit = true ∧ Digits n cs := by
  obtain ⟨c, cs, rfl⟩ := List.exists_cons_of_length_eq_add_one digits.length
  obtain ⟨first, rest⟩ := List.forall_mem_cons.mp digits.all
  exact ⟨c, cs, rfl, first, Nat.succ.inj digits.length, rest⟩

theorem Digits.eq_nil {ds : List Char} (digits : Digits 0 ds) : ds = [] :=
  List.length_eq_zero_iff.mp digits.length

theorem Digits.one {ds : List Char} (digits : Digits 1 ds) : ∃ a, ds = [a] ∧ a.isDigit = true := by
  obtain ⟨a, _, rfl, first, rest⟩ := digits.uncons
  obtain rfl := rest.eq_nil
  exact ⟨a, rfl, first⟩

theorem Digits.two {ds : List Char} (digits : Digits 2 ds) :
    ∃ a b, ds = [a, b] ∧ a.isDigit = true ∧ b.isDigit = true := by
  obtain ⟨a, _, rfl, first, rest⟩ := digits.uncons
  obtain ⟨b, rfl, second⟩ := rest.one
  exact ⟨a, b, rfl, first, second⟩

theorem Digits.four {ds : List Char} (digits : Digits 4 ds) : ∃ a b c d, ds = [a, b, c, d] := by
  obtain ⟨a, _, rfl, -, rest⟩ := digits.uncons
  obtain ⟨b, _, rfl, -, rest⟩ := rest.uncons
  obtain ⟨c, d, rfl, -⟩ := rest.two
  exact ⟨a, b, c, d, rfl⟩

theorem digits_padded {width n : Nat} (positive : 0 < width) (short : n < 10 ^ width) :
    Digits width (Text.padded width n).toList := by
  refine ⟨?_, fun _ => Text.isDigit_of_mem_padded⟩
  have fits := (Nat.length_toDigits_le_iff (by decide) positive).mpr short
  have same : (toString n).length = (Nat.toDigits 10 n).length := by
    rw [← String.length_toList, Text.toList_toString]
  rw [Text.toList_padded, List.length_append, List.length_replicate, same]
  exact Nat.sub_add_cancel fits

theorem spanDigits_eq (cs : List Char) :
    Text.spanDigits cs =
      ((cs.takeWhile Char.isDigit).filterMap Text.asciiDigit?, cs.dropWhile Char.isDigit) := by
  have next : (cs.dropWhile Char.isDigit).head?.all (fun c => !c.isDigit) = true := by
    have first := List.head?_dropWhile_not Char.isDigit cs
    cases head : (cs.dropWhile Char.isDigit).head? with
    | none => rfl
    | some c => simpa [head] using first
  have all (c : Char) (mem : c ∈ cs.takeWhile Char.isDigit) : c.isDigit = true :=
    List.mem_takeWhile_imp mem
  have span := Text.spanDigits_append all next
  rwa [List.takeWhile_append_dropWhile] at span

theorem takeDigits_eq (n : Nat) (cs : List Char) :
    takeDigits n cs =
      if ((cs.take n).takeWhile Char.isDigit).length = n then
        some (Nat.ofDigitChars 10 ((cs.take n).takeWhile Char.isDigit) 0, cs.drop n)
      else none := by
  have all (c : Char) (mem : c ∈ (cs.take n).takeWhile Char.isDigit) : c.isDigit = true :=
    List.mem_takeWhile_imp mem
  simp only [takeDigits, spanDigits_eq, Text.length_filterMap_asciiDigit? all,
    Text.ofDigits_filterMap all, beq_iff_eq]

/-- Digits are taken where there are as many as asked for, and no more of them are. -/
theorem takeDigits_eq_some_iff {n value : Nat} {cs rest : List Char} :
    takeDigits n cs = some (value, rest) ↔
      ∃ ds, Digits n ds ∧ cs = ds ++ rest ∧ value = Nat.ofDigitChars 10 ds 0 := by
  rw [takeDigits_eq]
  constructor
  · intro taken
    split at taken
    · next length =>
      cases taken
      have bound : (cs.take n).length ≤ ((cs.take n).takeWhile Char.isDigit).length := by
        rw [length]
        exact List.length_take_le n cs
      have all := (List.takeWhile_prefix Char.isDigit).eq_of_length_le bound
      refine ⟨_, ⟨length, fun c => List.mem_takeWhile_imp⟩, ?_, rfl⟩
      rw [all, List.take_append_drop]
    · cases taken
  · rintro ⟨ds, ⟨length, all⟩, rfl, rfl⟩
    rw [List.take_left' length, List.drop_left' length, List.takeWhile_eq_self_iff.mpr all,
      if_pos length]

theorem takeDigits_padded {width n : Nat} (positive : 0 < width) (short : n < 10 ^ width)
    (rest : List Char) : takeDigits width ((Text.padded width n).toList ++ rest) = some (n, rest) :=
  takeDigits_eq_some_iff.mpr
    ⟨_, digits_padded positive short, rfl, (Text.ofDigitChars_padded width n).symm⟩

end Thermostat.Iso
