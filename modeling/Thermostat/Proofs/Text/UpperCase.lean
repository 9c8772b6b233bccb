import Mathlib.Data.List.Basic
import Thermostat.Proofs.Text.CaseRuns
import Thermostat.Proofs.Text.Trim
import Thermostat.Text.Case

/-! Upper case: what it leaves alone, what stands in the place of what it changes, and that nothing is
left to be changed after it. -/
namespace Thermostat.Text

namespace Case

/-- Numbers that no upper-case image has: those below all capital letters, halves, white space, and what
has another image. -/
def upperTaken : List (Nat × Nat × Nat) :=
  (0, 64, 1) :: (0xD800, 0xDFFF, 1) :: (blankRanges.map fun r => (r.1, r.2, 1)) ++
    (upperExpansions.map fun e => (e.1, e.1, 2)) ++ upperRuns.map fun r => (r.1, r.2.1, r.2.2.1)

theorem upperRuns_apart {r : Nat × Nat × Nat × Int} (mem : r ∈ upperRuns) :
    (moved r).2.1 < 0x110000 ∧ 0 ≤ Int.ofNat r.1 + r.2.2.2 ∧
      ∀ s ∈ upperTaken, apart (moved r) s = true := by
  have check : (upperRuns.all fun r => Nat.blt (moved r).2.1 0x110000 &&
      decide (0 ≤ Int.ofNat r.1 + r.2.2.2) && upperTaken.all (apart (moved r))) = true := by
    decide +kernel
  have row := List.all_eq_true.mp check r mem
  simp only [Bool.and_eq_true, Nat.blt_eq, decide_eq_true_eq, List.all_eq_true] at row
  exact ⟨row.1.1, row.1.2, row.2⟩

theorem upperExpansions_apart {e : Nat × List Nat} (mem : e ∈ upperExpansions) :
    e.2 ≠ [] ∧ ∀ n ∈ e.2, n < 0x110000 ∧ ∀ s ∈ upperTaken, ¬ InRun s n := by
  have check : (upperExpansions.all fun e => !e.2.isEmpty && e.2.all fun n =>
      Nat.blt n 0x110000 && upperTaken.all (apart (n, n, 2))) = true := by
    decide +kernel
  have row := List.all_eq_true.mp check e mem
  simp only [Bool.and_eq_true, Bool.not_eq_true', List.isEmpty_eq_false_iff, List.all_eq_true,
    Nat.blt_eq] at row
  obtain ⟨nonempty, each⟩ := row
  refine ⟨nonempty, fun n there => ⟨(each n there).1, fun s taken => ?_⟩⟩
  have self : InRun (n, n, 2) n := by simp [InRun]
  exact not_inRun_of_apart ((each n there).2 s taken) self

/-- What stands in the place of another code point: its own image, no white space, and no sign that
means anything in a list of levels. -/
structure Capital (p : CodePoint) : Prop where
  high : 65 ≤ p.number
  notBlank : isBlankPoint p = false
  image : image upperExpansions upperRuns p = [p]

theorem capital_ofNat {n : Nat} (bound : n < 0x110000) (free : ∀ s ∈ upperTaken, ¬ InRun s n) :
    Capital (.ofNat n) := by
  have high : 65 ≤ n := by
    have low := free (0, 64, 1) (by simp [upperTaken])
    simp only [InRun] at low
    omega
  have valid : n < 0xD800 ∨ 0xDFFF < n ∧ n < 0x110000 := by
    have halves := free (0xD800, 0xDFFF, 1) (by simp [upperTaken])
    simp only [InRun] at halves
    omega
  have noBlank : ∀ r ∈ blankRanges, ¬ (r.1 ≤ n ∧ n ≤ r.2) := by
    intro r mem inside
    have taken : (r.1, r.2, 1) ∈ upperTaken := by
      simp only [upperTaken, List.cons_append, List.mem_cons, List.mem_append, List.mem_map]
      exact Or.inr (Or.inr (Or.inl (Or.inl ⟨r, mem, rfl⟩)))
    exact free _ taken ⟨inside.1, inside.2, Nat.mod_one _⟩
  have noExpansion : ∀ e ∈ upperExpansions, e.1 ≠ n := by
    intro e mem same
    have taken : (e.1, e.1, 2) ∈ upperTaken := by
      simp only [upperTaken, List.cons_append, List.mem_cons, List.mem_append, List.mem_map]
      exact Or.inr (Or.inr (Or.inl (Or.inr ⟨e, mem, rfl⟩)))
    exact free _ taken (by simp [InRun, same])
  have outside : ∀ r ∈ upperRuns, ¬ InRun (r.1, r.2.1, r.2.2.1) n := by
    intro r mem
    have taken : (r.1, r.2.1, r.2.2.1) ∈ upperTaken := by
      simp only [upperTaken, List.cons_append, List.mem_cons, List.mem_append, List.mem_map]
      exact Or.inr (Or.inr (Or.inr ⟨r, mem, rfl⟩))
    exact free _ taken
  obtain ⟨char, number⟩ := number_ofNat valid
  constructor
  · rwa [number]
  · rw [isBlankPoint, number, ← Bool.not_eq_true, inRanges_iff]
    rintro ⟨r, mem, inside⟩
    exact noBlank r mem inside
  · have none : upperExpansions.find? (fun e => e.1 == n) = none := by
      simpa using noExpansion
    rw [char] at number ⊢
    change (Char.ofNat n).toNat = n at number
    simp only [image, number, none, imageInRuns_of_forall outside, char]

/-- A code point is its own image, or all that stands in its place are capitals. -/
theorem image_upper (p : CodePoint) :
    image upperExpansions upperRuns p = [p] ∨
      image upperExpansions upperRuns p ≠ [] ∧
        ∀ q ∈ image upperExpansions upperRuns p, Capital q := by
  cases p with
  | half n => exact Or.inl rfl
  | char c =>
    cases found : upperExpansions.find? fun e => e.1 == c.toNat with
    | some e =>
      obtain ⟨nonempty, each⟩ := upperExpansions_apart (List.mem_of_find?_eq_some found)
      have several : image upperExpansions upperRuns (.char c) = e.2.map CodePoint.ofNat := by
        simp only [image, found]
      rw [several]
      refine Or.inr ⟨by simpa using nonempty, fun q mem => ?_⟩
      obtain ⟨n, there, rfl⟩ := List.mem_map.mp mem
      exact capital_ofNat (each n there).1 (each n there).2
    | none =>
      have one : image upperExpansions upperRuns (.char c) =
          [.ofNat (imageInRuns upperRuns c.toNat)] := by
        simp only [image, found]
      rcases imageInRuns_cases (fun r mem => (upperRuns_apart mem).2.1) c.toNat with
        ⟨-, same⟩ | ⟨r, mem, inside⟩
      · have self : CodePoint.ofNat c.toNat = .char c := CodePoint.ofNat_number (.char c)
        rw [same, self] at one
        exact Or.inl one
      · obtain ⟨bound, -, free⟩ := upperRuns_apart mem
        have capital := capital_ofNat (Nat.lt_of_le_of_lt inside.2.1 bound)
          fun s taken => not_inRun_of_apart (free s taken) inside
        rw [one]
        refine Or.inr ⟨List.cons_ne_nil _ _, fun q there => ?_⟩
        rw [List.mem_singleton.mp there]
        exact capital

theorem image_upper_ne_nil (p : CodePoint) : image upperExpansions upperRuns p ≠ [] := by
  rcases image_upper p with self | ⟨nonempty, -⟩
  · rw [self]
    exact List.cons_ne_nil p []
  · exact nonempty

theorem mem_image_upper {p q : CodePoint} (mem : q ∈ image upperExpansions upperRuns p) :
    image upperExpansions upperRuns q = [q] ∧ (q = p ∨ Capital q) := by
  rcases image_upper p with self | ⟨-, each⟩
  · rw [self, List.mem_singleton] at mem
    subst mem
    exact ⟨self, Or.inl rfl⟩
  · exact ⟨(each q mem).image, Or.inr (each q mem)⟩

end Case

open Case

variable {t : Text}

theorem mem_upper {q : CodePoint} (mem : q ∈ (upper t).points) :
    image upperExpansions upperRuns q = [q] ∧ (q ∈ t.points ∨ Capital q) := by
  obtain ⟨p, there, mem⟩ := List.mem_flatMap.mp mem
  obtain ⟨own, kept⟩ := mem_image_upper mem
  refine ⟨own, kept.imp_left fun same => ?_⟩
  rwa [same]

theorem upper_upper (t : Text) : upper (upper t) = upper t := by
  have same : (upper t).points.flatMap (image upperExpansions upperRuns) =
      (upper t).points.flatMap fun q => [q] :=
    List.flatMap_congr fun q mem => (mem_upper mem).1
  rw [List.flatMap_singleton'] at same
  exact congrArg Text.mk same

theorem points_upper_ne_nil (nonempty : t.points ≠ []) : (upper t).points ≠ [] := by
  obtain ⟨p, ps, points⟩ := List.exists_cons_of_ne_nil nonempty
  intro empty
  have first := List.flatMap_eq_nil_iff.mp empty p (by simp [points])
  exact image_upper_ne_nil p first

/-- Upper case brings no white space to either end of a text. -/
theorem trimmed_upper (trimmed : Trimmed t.points) : Trimmed (upper t).points := by
  constructor
  · intro q head
    rw [upper] at head
    cases points : t.points with
    | nil => simp [points] at head
    | cons p ps =>
      rw [points, List.flatMap_cons, List.head?_append_of_ne_nil _ (image_upper_ne_nil p)] at head
      rcases (mem_image_upper (List.mem_of_head? head)).2 with same | capital
      · rw [same]
        exact trimmed.front p (by simp [points])
      · exact capital.notBlank
  · intro q last
    rw [upper] at last
    rcases List.eq_nil_or_concat t.points with points | ⟨ps, p, points⟩
    · simp [points] at last
    · rw [points, List.concat_eq_append, List.flatMap_append, List.flatMap_singleton,
        List.getLast?_append_of_ne_nil _ (image_upper_ne_nil p)] at last
      rcases (mem_image_upper (List.mem_of_getLast? last)).2 with same | capital
      · rw [same]
        exact trimmed.back p (by simp [points])
      · exact capital.notBlank

end Thermostat.Text
