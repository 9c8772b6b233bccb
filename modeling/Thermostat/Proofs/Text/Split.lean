import Mathlib.Data.List.Basic
import Thermostat.Text.Split

/-! Cutting at the first of a kind, and what stands between joined parts. -/
namespace Thermostat.Text

variable {α : Type} {f : α → Bool} {s : α}

theorem cutAt?_append {a b : List α} (clean : ∀ x ∈ a, f x = false) (cut : f s = true) :
    cutAt? f (a ++ s :: b) = some (a, b) := by
  induction a with
  | nil => simp [cutAt?, cut]
  | cons x a ih =>
    obtain ⟨first, clean⟩ := List.forall_mem_cons.mp clean
    simp [cutAt?, first, ih clean]

/-- The two parts of a cut are what stands around the first of the kind. -/
theorem of_cutAt? {l a b : List α} (cut : cutAt? f l = some (a, b)) :
    ∃ s, f s = true ∧ l = a ++ s :: b ∧ ∀ x ∈ a, f x = false := by
  induction l generalizing a with
  | nil => cases cut
  | cons x l ih =>
    by_cases here : f x = true
    · simp only [cutAt?, here, if_true, Option.some.injEq, Prod.mk.injEq] at cut
      obtain ⟨rfl, rfl⟩ := cut
      exact ⟨x, here, rfl, nofun⟩
    · simp only [cutAt?, here, if_false, Option.map_eq_some_iff, Bool.false_eq_true] at cut
      obtain ⟨⟨a', b'⟩, later, same⟩ := cut
      obtain ⟨rfl, rfl⟩ := Prod.mk.inj same
      obtain ⟨s, kind, whole, clean⟩ := ih later
      refine ⟨s, kind, by rw [whole, List.cons_append], ?_⟩
      exact List.forall_mem_cons.mpr ⟨Bool.not_eq_true _ ▸ here, clean⟩

theorem intercalate_cons (first : List α) (rest : List (List α)) :
    [s].intercalate (first :: rest) = first ++ rest.flatMap (s :: ·) := by
  induction rest generalizing first with
  | nil => simp
  | cons next rest ih =>
    rw [List.intercalate_cons_cons, ih, List.flatMap_cons]
    simp

theorem splitAt_ne_nil (l : List α) : splitAt f l ≠ [] := by
  cases l with
  | nil => exact List.cons_ne_nil [] []
  | cons x l =>
    rw [splitAt]
    split
    · exact List.cons_ne_nil _ _
    · split <;> exact List.cons_ne_nil _ _

/-- A text with a separator in it is split into the parts before it and those behind it. -/
theorem splitAt_append {a b : List α} (separates : f s = true) :
    splitAt f (a ++ s :: b) = splitAt f a ++ splitAt f b := by
  induction a with
  | nil => simp [splitAt, separates]
  | cons x a ih =>
    cases here : f x with
    | true => simp [splitAt, here, ih]
    | false =>
      obtain ⟨part, parts, front⟩ := List.exists_cons_of_ne_nil (splitAt_ne_nil (f := f) a)
      rw [front, List.cons_append] at ih
      simp [splitAt, here, ih, front]

theorem splitAt_of_clean {a : List α} (clean : ∀ x ∈ a, f x = false) : splitAt f a = [a] := by
  induction a with
  | nil => rfl
  | cons x a ih =>
    obtain ⟨first, clean⟩ := List.forall_mem_cons.mp clean
    simp [splitAt, first, ih clean]

theorem cutAt?_of_clean {a : List α} (clean : ∀ x ∈ a, f x = false) : cutAt? f a = none := by
  induction a with
  | nil => rfl
  | cons x a ih =>
    obtain ⟨first, clean⟩ := List.forall_mem_cons.mp clean
    simp [cutAt?, first, ih clean]

end Thermostat.Text
