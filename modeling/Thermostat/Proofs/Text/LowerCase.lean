import Thermostat.Proofs.Text.CaseRuns
import Thermostat.Text.Blank

/-! Lower case: what it leaves alone, and what stands in the place of what it changes. -/
namespace Thermostat.Text

namespace Case

/-- Numbers that no image has: those below all small letters, halves, white space, and what has
an image of its own. -/
def taken : List (Nat × Nat × Nat) :=
  (0, 96, 1) :: (0xD800, 0xDFFF, 1) :: (304, 304, 2) ::
    (blankRanges.map fun r => (r.1, r.2, 1)) ++ lowerRuns.map fun r => (r.1, r.2.1, r.2.2.1)

theorem images_apart {r : Nat × Nat × Nat × Int} (mem : r ∈ lowerRuns) :
    (moved r).2.1 < 0x110000 ∧ 0 ≤ Int.ofNat r.1 + r.2.2.2 ∧
      ∀ s ∈ taken, apart (moved r) s = true := by
  -- The tables are compared run by run; number by number would be far too many.
  have check : (lowerRuns.all fun r => Nat.blt (moved r).2.1 0x110000 &&
      decide (0 ≤ Int.ofNat r.1 + r.2.2.2) && taken.all (apart (moved r))) = true := by
    decide +kernel
  have row := List.all_eq_true.mp check r mem
  simp only [Bool.and_eq_true, Nat.blt_eq, decide_eq_true_eq, List.all_eq_true] at row
  exact ⟨row.1.1, row.1.2, row.2⟩

/-- What stands in the place of another code point: no white space, no half, and no sign that means
anything in a text of settings. -/
structure Settled (p : CodePoint) : Prop where
  letter : 97 ≤ p.number
  notBlank : isBlankPoint p = false
  notHalf : p.isHalf = false

/-- A code point that is its own image wherever it stands. -/
structure Fixed (p : CodePoint) : Prop where
  notSigma : p ≠ .char 'Σ'
  image : image lowerExpansions lowerRuns p = [p]

/-- A number that is free of all that is taken is that of a settled code point, its own image. -/
theorem settled_ofNat {n : Nat} (bound : n < 0x110000) (free : ∀ s ∈ taken, ¬ InRun s n) :
    Settled (.ofNat n) ∧ Fixed (.ofNat n) := by
  have letter : 97 ≤ n := by
    have low := free (0, 96, 1) (by simp [taken])
    simp only [InRun] at low
    omega
  have valid : n < 0xD800 ∨ 0xDFFF < n ∧ n < 0x110000 := by
    have halves := free (0xD800, 0xDFFF, 1) (by simp [taken])
    simp only [InRun] at halves
    omega
  have outside : ∀ r ∈ lowerRuns, ¬ InRun (r.1, r.2.1, r.2.2.1) n := by
    intro r mem
    exact free _ (List.mem_append_right _ (List.mem_map.mpr ⟨r, mem, rfl⟩))
  obtain ⟨char, number⟩ := number_ofNat valid
  refine ⟨⟨by rwa [number], ?_, by rw [char]; rfl⟩, ?_, ?_⟩
  · rw [isBlankPoint, number, ← Bool.not_eq_true, inRanges_iff]
    rintro ⟨r, mem, low, high⟩
    refine free (r.1, r.2, 1) ?_ ⟨low, high, Nat.mod_one _⟩
    exact List.mem_append_left _ (List.mem_cons_of_mem _ (List.mem_cons_of_mem _
      (List.mem_cons_of_mem _ (List.mem_map.mpr ⟨r, mem, rfl⟩))))
  · intro sigma
    have capital : n = 931 := by
      rw [sigma] at number
      exact number.symm
    exact outside (931, 939, 1, 32) (by decide) (by simp [InRun, capital])
  · have single : n ≠ 304 := by
      intro same
      exact free (304, 304, 2) (by simp [taken]) (by simp [InRun, same])
    rw [char] at number ⊢
    change (Char.ofNat n).toNat = n at number
    simp only [image, lowerExpansions, number, List.find?_cons, List.find?_nil]
    rw [show (304 == n) = false by simpa using single.symm]
    simp only [imageInRuns_of_forall outside, char]

/-- What can stand in the place of a code point: itself first of all, or else what is settled. -/
structure Image (p : CodePoint) (qs : List CodePoint) : Prop where
  nonempty : qs ≠ []
  fixed : ∀ q ∈ qs, Fixed q
  kept : ∀ q ∈ qs, q = p ∨ Settled q
  later : ∀ q ∈ qs.drop 1, Settled q

theorem Image.single {p q : CodePoint} (fixed : Fixed q) (kept : q = p ∨ Settled q) :
    Image p [q] := by
  refine ⟨List.cons_ne_nil _ _, fun x mem => ?_, fun x mem => ?_, nofun⟩
  · exact List.mem_singleton.mp mem ▸ fixed
  · exact List.mem_singleton.mp mem ▸ kept

/-- The characters that are named on their own: the two that stand for a capital I with a dot, and the
two forms of a small sigma. -/
theorem settled_single {n : Nat} (mem : n ∈ [105, 775, 962, 963]) :
    Settled (.ofNat n) ∧ Fixed (.ofNat n) := by
  have check : ∀ m ∈ [105, 775, 962, 963], m < 0x110000 ∧ ∀ s ∈ taken, ¬ InRun s m := by
    decide +kernel
  exact settled_ofNat (check n mem).1 (check n mem).2

theorem image_lower {p : CodePoint} (notSigma : p ≠ .char 'Σ') :
    Image p (image lowerExpansions lowerRuns p) := by
  cases p with
  | half n => exact .single ⟨notSigma, rfl⟩ (Or.inl rfl)
  | char c =>
    by_cases dotted : c.toNat = 304
    · have two : image lowerExpansions lowerRuns (.char c) = [.ofNat 105, .ofNat 775] := by
        simp [image, lowerExpansions, dotted]
      have first := settled_single (n := 105) (by decide)
      have second := settled_single (n := 775) (by decide)
      rw [two]
      refine ⟨List.cons_ne_nil _ _, ?_, ?_, ?_⟩
      · simpa using ⟨first.2, second.2⟩
      · simpa using ⟨Or.inr first.1, Or.inr second.1⟩
      · simpa using second.1
    · have one : image lowerExpansions lowerRuns (.char c) =
          [.ofNat (imageInRuns lowerRuns c.toNat)] := by
        have other : (304 == c.toNat) = false := by simpa using Ne.symm dotted
        simp only [image, lowerExpansions, List.find?_cons, List.find?_nil, other]
      have self : CodePoint.ofNat c.toNat = .char c := CodePoint.ofNat_number (.char c)
      rcases imageInRuns_cases (fun r mem => (images_apart mem).2.1) c.toNat with ⟨-, same⟩ | ⟨r, mem, inside⟩
      · rw [same, self] at one
        rw [one]
        exact .single ⟨notSigma, one⟩ (Or.inl rfl)
      · obtain ⟨bound, -, free⟩ := images_apart mem
        have settled := settled_ofNat (Nat.lt_of_le_of_lt inside.2.1 bound)
          fun s taken => not_inRun_of_apart (free s taken) inside
        rw [one]
        exact .single settled.2 (Or.inr settled.1)

theorem lowerFrom_cons (before : List CodePoint) (p : CodePoint) (rest : List CodePoint) :
    ∃ qs, Image p qs ∧ lowerFrom before (p :: rest) = qs ++ lowerFrom (p :: before) rest := by
  by_cases sigma : p = .char 'Σ'
  · refine ⟨[.char (sigmaImage before rest)], ?_, by simp [lowerFrom, sigma]⟩
    have settled : Settled (.char (sigmaImage before rest)) ∧
        Fixed (.char (sigmaImage before rest)) := by
      rw [sigmaImage]
      split
      · exact settled_single (n := 962) (by decide)
      · exact settled_single (n := 963) (by decide)
    exact .single settled.2 (Or.inr settled.1)
  · exact ⟨_, image_lower sigma, by simp [lowerFrom, sigma]⟩

variable {before ps : List CodePoint} {q : CodePoint}

theorem mem_lowerFrom (mem : q ∈ lowerFrom before ps) : Fixed q ∧ (q ∈ ps ∨ Settled q) := by
  induction ps generalizing before with
  | nil => cases mem
  | cons p ps ih =>
    obtain ⟨qs, image, cons⟩ := lowerFrom_cons before p ps
    rw [cons] at mem
    rcases List.mem_append.mp mem with here | there
    · refine ⟨image.fixed q here, (image.kept q here).imp_left fun same => ?_⟩
      exact same ▸ List.mem_cons_self
    · exact ⟨(ih there).1, (ih there).2.imp_left (List.mem_cons_of_mem _)⟩

theorem lowerFrom_eq_nil_iff : lowerFrom before ps = [] ↔ ps = [] := by
  cases ps with
  | nil => exact iff_of_true rfl rfl
  | cons p ps =>
    obtain ⟨qs, image, cons⟩ := lowerFrom_cons before p ps
    rw [cons]
    refine iff_of_false (fun empty => ?_) (List.cons_ne_nil p ps)
    exact image.nonempty (List.append_eq_nil_iff.mp empty).1

/-- Only the first code point can be kept as the first one. -/
theorem head?_lowerFrom (head : (lowerFrom before ps).head? = some q) :
    ps.head? = some q ∨ Settled q := by
  cases ps with
  | nil => cases head
  | cons p ps =>
    obtain ⟨qs, image, cons⟩ := lowerFrom_cons before p ps
    obtain ⟨x, xs, rfl⟩ := List.exists_cons_of_ne_nil image.nonempty
    rw [cons, List.cons_append, List.head?_cons, Option.some.injEq] at head
    subst head
    exact (image.kept x List.mem_cons_self).imp_left fun same => congrArg some same.symm

theorem getLast?_lowerFrom (last : (lowerFrom before ps).getLast? = some q) :
    ps.getLast? = some q ∨ Settled q := by
  induction ps generalizing before with
  | nil => cases last
  | cons p ps ih =>
    obtain ⟨qs, image, cons⟩ := lowerFrom_cons before p ps
    rw [cons, List.getLast?_append] at last
    cases ps with
    | nil =>
      have mem : q ∈ qs := List.mem_of_getLast? last
      exact (image.kept q mem).imp_left fun same => congrArg some same.symm
    | cons p' ps =>
      have nonempty : lowerFrom (p :: before) (p' :: ps) ≠ [] := fun empty =>
        List.cons_ne_nil p' ps (lowerFrom_eq_nil_iff.mp empty)
      rw [List.getLast?_eq_some_getLast nonempty, Option.some_or,
        ← List.getLast?_eq_some_getLast nonempty] at last
      rw [List.getLast?_cons_cons]
      exact ih last

theorem mem_drop_lowerFrom (mem : q ∈ (lowerFrom before ps).drop 1) : q ∈ ps.drop 1 ∨ Settled q := by
  cases ps with
  | nil => cases mem
  | cons p ps =>
    obtain ⟨qs, image, cons⟩ := lowerFrom_cons before p ps
    obtain ⟨x, xs, rfl⟩ := List.exists_cons_of_ne_nil image.nonempty
    rw [cons, List.cons_append, List.drop_succ_cons, List.drop_zero] at mem
    rcases List.mem_append.mp mem with here | there
    · exact Or.inr (image.later q here)
    · exact (mem_lowerFrom there).2

theorem lowerFrom_eq_self (fixed : ∀ p ∈ ps, Fixed p) : lowerFrom before ps = ps := by
  induction ps generalizing before with
  | nil => rfl
  | cons p ps ih =>
    obtain ⟨first, fixed⟩ := List.forall_mem_cons.mp fixed
    have notSigma := first.notSigma
    simp [lowerFrom, notSigma, first.image, ih fixed]

end Case

theorem lower_lower (t : Text) : lower (lower t) = lower t :=
  congrArg Text.mk (Case.lowerFrom_eq_self fun _ mem => (Case.mem_lowerFrom mem).1)

end Thermostat.Text
