import Mathlib.Data.List.TakeWhile
import Thermostat.Text.Blank

/-! Trimming: what it leaves, and what it leaves alone. -/
namespace Thermostat.Text

variable {α : Type} {f : α → Bool} {l : List α}

theorem dropWhile_eq_self (front : ∀ a, l.head? = some a → f a = false) : l.dropWhile f = l := by
  cases l with
  | nil => rfl
  | cons a l => simp [front a rfl]

theorem head?_dropWhile {a : α} (head : (l.dropWhile f).head? = some a) : f a = false := by
  have first := List.head?_dropWhile_not f l
  rwa [head] at first

theorem dropEnd_eq_self (back : ∀ a, l.getLast? = some a → f a = false) : dropEnd f l = l := by
  have reversed : l.reverse.dropWhile f = l.reverse :=
    dropWhile_eq_self fun a head => back a (by rwa [List.head?_reverse] at head)
  rw [dropEnd, reversed, List.reverse_reverse]

theorem dropEnd_append {b : List α} (all : ∀ a ∈ b, f a = true) : dropEnd f (l ++ b) = dropEnd f l := by
  rw [dropEnd, List.reverse_append, List.dropWhile_append_of_pos (by simpa using all), dropEnd]

theorem dropEnd_dropWhile_append {b : List α} (all : ∀ a ∈ b, f a = true) :
    dropEnd f ((l ++ b).dropWhile f) = dropEnd f (l.dropWhile f) := by
  rw [List.dropWhile_append]
  split
  · next empty =>
    have behind : b.dropWhile f = [] := List.dropWhile_eq_nil_iff.mpr all
    rw [behind, List.isEmpty_iff.mp empty]
  · exact dropEnd_append all

theorem dropEnd_isPrefix (f : α → Bool) (l : List α) : dropEnd f l <+: l := by
  rw [← List.reverse_suffix, dropEnd, List.reverse_reverse]
  exact List.dropWhile_suffix f

theorem getLast?_dropEnd {a : α} (last : (dropEnd f l).getLast? = some a) : f a = false := by
  rw [dropEnd, List.getLast?_reverse] at last
  exact head?_dropWhile last

/-- Points with white space at neither end. -/
structure Trimmed (ps : List CodePoint) : Prop where
  front : ∀ p, ps.head? = some p → isBlankPoint p = false
  back : ∀ p, ps.getLast? = some p → isBlankPoint p = false

theorem trimmed_nil : Trimmed [] := ⟨nofun, nofun⟩

variable {ps : List CodePoint}

theorem trimRightPoints_eq_self (back : ∀ p, ps.getLast? = some p → isBlankPoint p = false) :
    trimRightPoints ps = ps := dropEnd_eq_self back

theorem Trimmed.trimPoints_eq (trimmed : Trimmed ps) : trimPoints ps = ps := by
  rw [trimPoints, dropWhile_eq_self trimmed.front]
  exact trimRightPoints_eq_self trimmed.back

theorem trimmed_trimPoints (ps : List CodePoint) : Trimmed (trimPoints ps) := by
  refine ⟨fun p head => ?_, fun p last => getLast?_dropEnd last⟩
  obtain ⟨rest, before⟩ : trimPoints ps <+: ps.dropWhile isBlankPoint := dropEnd_isPrefix _ _
  refine head?_dropWhile (l := ps) ?_
  rw [← before, List.head?_append, head, Option.some_or]

theorem trimmed_iff : Trimmed ps ↔ trimPoints ps = ps :=
  ⟨Trimmed.trimPoints_eq, fun same => same ▸ trimmed_trimPoints ps⟩

theorem trimPoints_append {b : List CodePoint} (blank : ∀ p ∈ b, isBlankPoint p = true) :
    trimPoints (ps ++ b) = trimPoints ps := dropEnd_dropWhile_append blank

theorem append_trimPoints {a : List CodePoint} (blank : ∀ p ∈ a, isBlankPoint p = true) :
    trimPoints (a ++ ps) = trimPoints ps := by
  rw [trimPoints, List.dropWhile_append_of_pos blank, trimPoints]

theorem trimPoints_eq_nil_iff : trimPoints ps = [] ↔ ∀ p ∈ ps, isBlankPoint p = true := by
  constructor
  · intro empty
    cases front : ps.dropWhile isBlankPoint with
    | nil => exact List.dropWhile_eq_nil_iff.mp front
    | cons p rest =>
      -- The first that is not dropped is no white space, so it is not dropped from the end either.
      have notBlank : isBlankPoint p = false := head?_dropWhile (l := ps) (by rw [front]; rfl)
      rw [trimPoints, front, trimRightPoints, dropEnd, List.reverse_eq_nil_iff,
        List.dropWhile_eq_nil_iff] at empty
      have blank := empty p (by simp)
      rw [notBlank] at blank
      cases blank
  · intro blank
    have front : ps.dropWhile isBlankPoint = [] := List.dropWhile_eq_nil_iff.mpr blank
    rw [trimPoints, front]
    rfl

theorem trimChars_around {a b : List Char} (front : ∀ c ∈ a, isBlank c = true)
    (back : ∀ c ∈ b, isBlank c = true) (cs : List Char) :
    trimChars (a ++ cs ++ b) = trimChars cs := by
  rw [trimChars, List.append_assoc, List.dropWhile_append_of_pos front, dropEnd_dropWhile_append back,
    trimChars]

theorem isEmpty_trim {t : Text} : (trim t).isEmpty = isBlankText t := by
  rw [Bool.eq_iff_iff, isBlankText_iff, ← trimPoints_eq_nil_iff]
  exact List.isEmpty_iff

theorem trimRightPoints_isPrefix (ps : List CodePoint) : trimRightPoints ps <+: ps :=
  dropEnd_isPrefix _ _

theorem mem_of_mem_trimPoints {p : CodePoint} (mem : p ∈ trimPoints ps) : p ∈ ps :=
  (List.dropWhile_suffix _).subset ((dropEnd_isPrefix _ _).subset mem)

end Thermostat.Text
