import Thermostat.Text.Blank
import Thermostat.Text.Digit

/-! Decimal digits: what they read as, padded or not, and how they are told from what follows. -/
namespace Thermostat.Text

theorem toNat_of_isDigit {c : Char} (digit : c.isDigit = true) : 48 ≤ c.toNat ∧ c.toNat ≤ 57 := by
  simpa [Char.isDigit, UInt32.le_iff_toNat_le] using digit

theorem ne_of_isDigit {a c : Char} (digit : a.isDigit = true) (other : c.isDigit = false) : a ≠ c := by
  rintro rfl
  rw [digit] at other
  cases other

theorem not_isBlank_of_isDigit {c : Char} (digit : c.isDigit = true) : isBlank c = false := by
  obtain ⟨lower, upper⟩ := toNat_of_isDigit digit
  simp only [isBlank, blankRanges, inRanges, List.any_cons, List.any_nil, Bool.or_false,
    Bool.or_eq_false_iff, Bool.and_eq_false_iff, decide_eq_false_iff_not]
  omega

theorem asciiDigit?_of_isDigit {c : Char} (digit : c.isDigit = true) :
    asciiDigit? c = some (c.toNat - '0'.toNat) := if_pos digit

theorem asciiDigit?_eq_none {c : Char} (other : c.isDigit = false) : asciiDigit? c = none := by
  unfold asciiDigit?
  rw [other]
  rfl

theorem length_filterMap_asciiDigit? {ds : List Char} (digits : ∀ c ∈ ds, c.isDigit = true) :
    (ds.filterMap asciiDigit?).length = ds.length := by
  induction ds with
  | nil => rfl
  | cons c ds ih =>
    obtain ⟨first, digits⟩ := List.forall_mem_cons.mp digits
    rw [List.filterMap_cons_some (asciiDigit?_of_isDigit first), List.length_cons, ih digits,
      List.length_cons]

theorem ofDigits_filterMap {ds : List Char} (digits : ∀ c ∈ ds, c.isDigit = true) :
    ofDigits (ds.filterMap asciiDigit?) = Nat.ofDigitChars 10 ds 0 := by
  -- The number read so far is generalised: both sides read from the left.
  have each (n : Nat) : (ds.filterMap asciiDigit?).foldl (fun n d => 10 * n + d) n =
      Nat.ofDigitChars 10 ds n := by
    induction ds generalizing n with
    | nil => rfl
    | cons c ds ih =>
      obtain ⟨first, digits⟩ := List.forall_mem_cons.mp digits
      rw [List.filterMap_cons_some (asciiDigit?_of_isDigit first), List.foldl_cons, ih digits]
      rfl
  exact each 0

/-- A run of digits ends where no digit follows. -/
theorem spanDigits_append {ds rest : List Char} (digits : ∀ c ∈ ds, c.isDigit = true)
    (next : rest.head?.all (fun c => !c.isDigit) = true) :
    spanDigits (ds ++ rest) = (ds.filterMap asciiDigit?, rest) := by
  induction ds with
  | nil =>
    cases rest with
    | nil => rfl
    | cons c rest =>
      have other : c.isDigit = false := by simpa using next
      simp [spanDigits, asciiDigit?_eq_none other]
  | cons c ds ih =>
    obtain ⟨first, digits⟩ := List.forall_mem_cons.mp digits
    rw [List.cons_append, List.filterMap_cons_some (asciiDigit?_of_isDigit first)]
    simp [spanDigits, asciiDigit?_of_isDigit first, ih digits]

theorem spanDigits_of_digits {ds : List Char} (digits : ∀ c ∈ ds, c.isDigit = true) :
    spanDigits ds = (ds.filterMap asciiDigit?, []) := by
  have span : spanDigits (ds ++ []) = (ds.filterMap asciiDigit?, []) := spanDigits_append digits rfl
  rwa [List.append_nil] at span

theorem isDigit_of_mem_toDigits {n : Nat} {c : Char} (mem : c ∈ Nat.toDigits 10 n) :
    c.isDigit = true := Nat.isDigit_of_mem_toDigits (by decide) (by decide) mem

theorem toList_toString (n : Nat) : (toString n).toList = Nat.toDigits 10 n := by
  rw [Nat.toString_eq_ofList_toDigits, String.toList_ofList]

theorem toList_padded (width n : Nat) :
    (padded width n).toList =
      List.replicate (width - (toString n).length) '0' ++ Nat.toDigits 10 n := by
  simp [padded]

theorem isDigit_of_mem_padded {width n : Nat} {c : Char} (mem : c ∈ (padded width n).toList) :
    c.isDigit = true := by
  rw [toList_padded] at mem
  rcases List.mem_append.mp mem with zero | digit
  · rw [List.eq_of_mem_replicate zero]
    decide
  · exact isDigit_of_mem_toDigits digit

theorem ofDigitChars_padded (width n : Nat) : Nat.ofDigitChars 10 (padded width n).toList 0 = n := by
  rw [toList_padded, Nat.ofDigitChars_append, Nat.ofDigitChars_replicate_zero, Nat.mul_zero,
    Nat.ofDigitChars_ten_toDigits]

theorem padded_zero (n : Nat) : padded 0 n = toString n := by
  rw [← String.toList_inj, toList_padded, Nat.zero_sub]
  simp

theorem digits_append_inj {xs ys s t : List Char} (hx : ∀ c ∈ xs, c.isDigit = true)
    (hy : ∀ c ∈ ys, c.isDigit = true) (hs : s.head?.all (fun c => !c.isDigit) = true)
    (ht : t.head?.all (fun c => !c.isDigit) = true) :
    xs ++ s = ys ++ t ↔ xs = ys ∧ s = t := by
  have front {zs u : List Char} (hz : ∀ c ∈ zs, c.isDigit = true)
      (hu : u.head?.all (fun c => !c.isDigit) = true) : (zs ++ u).takeWhile Char.isDigit = zs := by
    rw [List.takeWhile_append_of_pos hz]
    cases u with
    | nil => simp
    | cons c u => simp_all
  constructor
  · intro same
    have digits := congrArg (List.takeWhile Char.isDigit) same
    rw [front hx hs, front hy ht] at digits
    subst digits
    exact ⟨rfl, List.append_cancel_left same⟩
  · rintro ⟨rfl, rfl⟩
    rfl

/-- A number in digits can be told, and so can the text behind it if that begins with no digit. -/
theorem padded_append_inj {width m n : Nat} {s t : List Char}
    (hs : s.head?.all (fun c => !c.isDigit) = true)
    (ht : t.head?.all (fun c => !c.isDigit) = true) :
    (padded width m).toList ++ s = (padded width n).toList ++ t ↔ m = n ∧ s = t := by
  rw [digits_append_inj (fun _ => isDigit_of_mem_padded) (fun _ => isDigit_of_mem_padded) hs ht]
  refine and_congr_left fun _ => ⟨fun same => ?_, fun same => by rw [same]⟩
  have value := congrArg (Nat.ofDigitChars 10 · 0) same
  simpa only [ofDigitChars_padded] using value

end Thermostat.Text
