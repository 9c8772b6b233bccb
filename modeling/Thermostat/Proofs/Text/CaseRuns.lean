import Mathlib.Data.Nat.Notation
import Thermostat.Text.Case

/-! Tables of case: which numbers a run of characters holds, where it moves them to, and when two runs
have no number in common. -/
namespace Thermostat.Text.Case

/-- Whether a number is in a progression: first number, last number, step. -/
def InRun (r : Nat × Nat × Nat) (n : Nat) : Prop := r.1 ≤ n ∧ n ≤ r.2.1 ∧ (n - r.1) % r.2.2 = 0

instance (r : Nat × Nat × Nat) (n : Nat) : Decidable (InRun r n) :=
  inferInstanceAs (Decidable (_ ∧ _ ∧ _))

/-- Progressions that share no number, for one of two reasons: their ranges are apart, or both go by
twos and one has the even numbers and the other one the odd ones. -/
def apart (r s : Nat × Nat × Nat) : Bool :=
  Nat.blt r.2.1 s.1 || Nat.blt s.2.1 r.1 ||
    (Nat.beq s.2.2 2 && (Nat.beq r.2.2 2 || Nat.beq r.1 r.2.1) && Nat.beq ((r.1 + s.1) % 2) 1)

theorem not_inRun_of_apart {r s : Nat × Nat × Nat} {n : Nat} (check : apart r s = true)
    (inside : InRun r n) : ¬ InRun s n := by
  simp only [apart, Bool.or_eq_true, Bool.and_eq_true, Nat.blt_eq, Nat.beq_eq] at check
  obtain ⟨low, high, step⟩ := inside
  rintro ⟨low', high', step'⟩
  rcases check with (below | above) | ⟨⟨twos', twos⟩, parity⟩
  · omega
  · omega
  · rw [twos'] at step'
    rcases twos with twos | single
    · rw [twos] at step
      omega
    · omega

/-- Where a run of characters is moved to. -/
def moved (r : Nat × Nat × Nat × Int) : Nat × Nat × Nat :=
  ((Int.ofNat r.1 + r.2.2.2).toNat, (Int.ofNat r.2.1 + r.2.2.2).toNat, r.2.2.1)

variable {runs : List (Nat × Nat × Nat × Int)}

theorem imageInRuns_of_forall {n : Nat} (outside : ∀ r ∈ runs, ¬ InRun (r.1, r.2.1, r.2.2.1) n) :
    imageInRuns runs n = n := by
  have none : (runs.find? fun r => r.1 ≤ n && n ≤ r.2.1 && (n - r.1) % r.2.2.1 == 0) = none := by
    refine List.find?_eq_none.mpr fun r mem inside => outside r mem ?_
    simpa [InRun, and_assoc] using inside
  simp only [imageInRuns, none]

/-- A number keeps its own place, or it is moved with a run that holds it. -/
theorem imageInRuns_cases (base : ∀ r ∈ runs, 0 ≤ Int.ofNat r.1 + r.2.2.2) (n : Nat) :
    (∀ r ∈ runs, ¬ InRun (r.1, r.2.1, r.2.2.1) n) ∧ imageInRuns runs n = n ∨
      ∃ r ∈ runs, InRun (moved r) (imageInRuns runs n) := by
  cases found : runs.find? fun r => r.1 ≤ n && n ≤ r.2.1 && (n - r.1) % r.2.2.1 == 0 with
  | none =>
    have outside : ∀ r ∈ runs, ¬ InRun (r.1, r.2.1, r.2.2.1) n := by
      intro r mem inside
      have no := List.find?_eq_none.mp found r mem
      simp [InRun] at inside
      simp [inside] at no
    exact Or.inl ⟨outside, imageInRuns_of_forall outside⟩
  | some r =>
    have mem := List.mem_of_find?_eq_some found
    have inside := List.find?_some found
    simp only [Bool.and_eq_true, decide_eq_true_eq, beq_iff_eq] at inside
    obtain ⟨⟨low, high⟩, step⟩ := inside
    have base := base r mem
    refine Or.inr ⟨r, mem, ?_⟩
    simp only [Int.ofNat_eq_natCast] at base
    simp only [imageInRuns, found, InRun, moved, Int.ofNat_eq_natCast]
    refine ⟨by omega, by omega, ?_⟩
    have same : ((n : Int) + r.2.2.2).toNat - ((r.1 : Int) + r.2.2.2).toNat = n - r.1 := by
      omega
    rw [same, step]

theorem number_ofNat {n : Nat} (valid : n < 0xD800 ∨ 0xDFFF < n ∧ n < 0x110000) :
    CodePoint.ofNat n = .char (.ofNat n) ∧ (CodePoint.ofNat n).number = n := by
  have notHalf : ¬ (CodePoint.firstHalf ≤ n ∧ n - CodePoint.firstHalf < 0x800) := by
    simp only [CodePoint.firstHalf]
    omega
  have char : CodePoint.ofNat n = .char (.ofNat n) := dif_neg notHalf
  refine ⟨char, ?_⟩
  rw [char, CodePoint.number, Char.ofNat, dif_pos valid]
  rfl

end Thermostat.Text.Case
