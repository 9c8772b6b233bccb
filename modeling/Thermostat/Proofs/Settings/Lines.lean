import Mathlib.Logic.Basic
import Thermostat.Proofs.Text.Trim
import Thermostat.Settings.Reader

/-! The lines of a text of settings: how a line end cuts them off, and what can stand in them. -/
namespace Thermostat.Settings

/-- A code point that can stand inside a line of a file: no end of a line, and no half of a pair. -/
structure Inline (p : CodePoint) : Prop where
  notFeed : p ≠ .char '\n'
  notReturn : p ≠ .char '\r'
  whole : p.isHalf = false

instance (p : CodePoint) : Decidable (Inline p) :=
  decidable_of_iff (p ≠ .char '\n' ∧ p ≠ .char '\r' ∧ p.isHalf = false)
    ⟨fun h => ⟨h.1, h.2.1, h.2.2⟩, fun h => ⟨h.notFeed, h.notReturn, h.whole⟩⟩

theorem linesOf_feed (ps : List CodePoint) :
    linesOf (.char '\n' :: ps) = [.char '\n'] :: linesOf ps := by
  rw [linesOf]
  · simp
  · simp

theorem linesOf_cons {p : CodePoint} (notFeed : p ≠ .char '\n') (notReturn : p ≠ .char '\r')
    {ps line : List CodePoint} {lines : List (List CodePoint)} (behind : linesOf ps = line :: lines) :
    linesOf (p :: ps) = (p :: line) :: lines := by
  rw [linesOf]
  · simp [notFeed, notReturn, behind]
  · rintro _ rfl
    exact absurd rfl notReturn

theorem linesOf_line {body : List CodePoint} (inline : ∀ p ∈ body, Inline p) (rest : List CodePoint) :
    linesOf (body ++ .char '\n' :: rest) = (body ++ [.char '\n']) :: linesOf rest := by
  induction body with
  | nil => exact linesOf_feed rest
  | cons p body ih =>
    obtain ⟨first, inline⟩ := List.forall_mem_cons.mp inline
    exact linesOf_cons first.notFeed first.notReturn (ih inline)

/-- A line end that is not the first half of another one. -/
theorem linesOf_end {p : CodePoint} {ps : List CodePoint}
    (isEnd : (p == .char '\n' || p == .char '\r') = true)
    (apart : p = .char '\r' → ps.head? ≠ some (.char '\n')) :
    linesOf (p :: ps) = [.char '\n'] :: linesOf ps := by
  have other : ∀ qs, p = .char '\r' → ps = .char '\n' :: qs → False := by
    rintro qs isReturn rfl
    exact apart isReturn rfl
  rw [linesOf.eq_2 p ps other, if_pos isEnd]

theorem no_feed_of {p : CodePoint} {ps : List CodePoint}
    (other : ∀ qs, p = .char '\r' → ps = .char '\n' :: qs → False) :
    p = .char '\r' → ps.head? ≠ some (.char '\n') := by
  intro isReturn head
  obtain ⟨qs, rfl⟩ := List.head?_eq_some_iff.mp head
  exact other qs isReturn rfl

theorem linesOf_eq_nil_iff {ps : List CodePoint} : linesOf ps = [] ↔ ps = [] := by
  constructor
  · intro none
    cases ps with
    | nil => rfl
    | cons p ps =>
      unfold linesOf at none
      split at none
      · cases none
      · next same =>
        cases same
        split at none
        · cases none
        · split at none <;> cases none
      · next same => cases same
  · rintro rfl
    rfl

/-- Where the first of two texts ends a line, each of them has its own lines. -/
theorem linesOf_append {a b : List CodePoint}
    (ends : ∀ p, a.getLast? = some p → (p == .char '\n' || p == .char '\r') = true)
    (starts : b.head? ≠ some (.char '\n')) : linesOf (a ++ b) = linesOf a ++ linesOf b := by
  induction a using linesOf.induct with
  | case1 ps ih =>
    have later : ∀ p, ps.getLast? = some p → (p == .char '\n' || p == .char '\r') = true := by
      intro p last
      exact ends p (by simp [List.getLast?_cons, last])
    change linesOf (.char '\r' :: .char '\n' :: (ps ++ b)) = _
    rw [linesOf, linesOf, ih later]
    rfl
  | case2 p ps other isEnd ih =>
    have later : ∀ q, ps.getLast? = some q → (q == .char '\n' || q == .char '\r') = true := by
      intro q last
      exact ends q (by simp [List.getLast?_cons, last])
    have alone := no_feed_of other
    have apart : p = .char '\r' → (ps ++ b).head? ≠ some (.char '\n') := by
      cases ps with
      | nil => exact fun _ => starts
      | cons q ps => exact alone
    rw [linesOf_end isEnd alone, List.cons_append, linesOf_end isEnd apart, ih later]
    rfl
  | case3 p ps other inside none ih =>
    -- A last code point that does not end its line is excluded.
    rw [linesOf_eq_nil_iff.mp none] at ends
    exact absurd (ends p rfl) inside
  | case4 p ps other inside next lines behind ih =>
    obtain ⟨q, rest, whole⟩ : ∃ q rest, ps = q :: rest := by
      cases ps with
      | nil => cases behind
      | cons q rest => exact ⟨q, rest, rfl⟩
    have later : ∀ x, ps.getLast? = some x → (x == .char '\n' || x == .char '\r') = true := by
      intro x last
      exact ends x (by rw [whole, List.getLast?_cons_cons, ← whole, last])
    have both : linesOf (ps ++ b) = next :: (lines ++ linesOf b) := by
      rw [ih later, behind]
      rfl
    simp only [Bool.or_eq_true, beq_iff_eq, not_or] at inside
    rw [linesOf_cons inside.1 inside.2 behind]
    exact linesOf_cons inside.1 inside.2 both
  | case5 => rfl

/-- The kinds of line ends. -/
def lineEnds : List String := ["\n", "\r\n", "\r"]

/-- The lines of a text and those of the same text with a line end behind it: either the end closes the
last line, or it is an empty line of its own, or it is the other half of the last line end. -/
inductive Ended : List (List CodePoint) → List (List CodePoint) → Prop
  | half (lines : List (List CodePoint)) : Ended lines lines
  | empty : Ended [] [[.char '\n']]
  | last (line : List CodePoint) : Ended [line] [line ++ [.char '\n']]
  | cons (line : List CodePoint) {lines ended : List (List CodePoint)} (later : Ended lines ended) :
      Ended (line :: lines) (line :: ended)

theorem linesOf_lineEnd {e : String} (mem : e ∈ lineEnds) :
    linesOf (Text.ofString e).points = [[.char '\n']] := by
  have all : ∀ e ∈ lineEnds, linesOf (Text.ofString e).points = [[.char '\n']] := by decide
  exact all e mem

/-- A line end divides the lines before it from those behind it. -/
theorem linesOf_append_lineEnd {a b : List CodePoint} {e : String} (mem : e ∈ lineEnds)
    (starts : b.head? ≠ some (.char '\n')) : linesOf (a ++ (Text.ofString e).points ++ b) =
      linesOf (a ++ (Text.ofString e).points) ++ linesOf b := by
  have last : ∀ e ∈ lineEnds, (Text.ofString e).points.getLast? = some (.char '\n') ∨
      (Text.ofString e).points.getLast? = some (.char '\r') := by decide
  refine linesOf_append (fun p ends => ?_) starts
  rcases last e mem with feed | back
  · rw [List.getLast?_append, feed, Option.some_or] at ends
    cases ends
    rfl
  · rw [List.getLast?_append, back, Option.some_or] at ends
    cases ends
    rfl

theorem ended_linesOf (ps : List CodePoint) {e : String} (mem : e ∈ lineEnds) :
    Ended (linesOf ps) (linesOf (ps ++ (Text.ofString e).points)) := by
  induction ps using linesOf.induct with
  | case1 ps ih =>
    change Ended _ (linesOf (.char '\r' :: .char '\n' :: (ps ++ _)))
    rw [linesOf, linesOf]
    exact .cons _ ih
  | case2 p ps other isEnd ih =>
    have alone := no_feed_of other
    rw [linesOf_end isEnd alone]
    by_cases pair : p = .char '\r' ∧ ps = [] ∧ (Text.ofString e).points = [.char '\n']
    · -- A return ends the text, and the feed that goes with it comes now.
      obtain ⟨rfl, rfl, feed⟩ := pair
      rw [feed]
      exact .half _
    · have single : ∀ e ∈ lineEnds, (Text.ofString e).points.head? = some (.char '\n') →
          (Text.ofString e).points = [.char '\n'] := by decide
      have apart : p = .char '\r' → (ps ++ (Text.ofString e).points).head? ≠ some (.char '\n') := by
        intro isReturn
        cases ps with
        | nil => exact fun head => pair ⟨isReturn, rfl, single e mem head⟩
        | cons q ps => exact alone isReturn
      rw [List.cons_append, linesOf_end isEnd apart]
      exact .cons _ ih
  | case3 p ps other inside none ih =>
    simp only [Bool.or_eq_true, beq_iff_eq, not_or] at inside
    rw [linesOf_eq_nil_iff.mp none]
    have single : linesOf [p] = [[p]] := by
      rw [linesOf.eq_2 p [] nofun]
      simp [inside, linesOf]
    rw [single, List.singleton_append, linesOf_cons inside.1 inside.2 (linesOf_lineEnd mem)]
    exact .last [p]
  | case4 p ps other inside next lines behind ih =>
    simp only [Bool.or_eq_true, beq_iff_eq, not_or] at inside
    rw [linesOf_cons inside.1 inside.2 behind]
    rw [behind] at ih
    change Ended _ (linesOf (p :: (ps ++ _)))
    generalize later : linesOf (ps ++ (Text.ofString e).points) = ended at ih
    cases ih with
    | half =>
      rw [linesOf_cons inside.1 inside.2 later]
      exact .half _
    | last =>
      rw [linesOf_cons inside.1 inside.2 later]
      exact .last (p :: next)
    | cons _ ih =>
      rw [linesOf_cons inside.1 inside.2 later]
      exact .cons _ ih
  | case5 =>
    rw [List.nil_append, linesOf_lineEnd mem]
    exact .empty

/-- In a text without halves, every line is a body with an end or without one. -/
theorem body_of_mem_linesOf {ps line : List CodePoint} (whole : ∀ p ∈ ps, p.isHalf = false)
    (mem : line ∈ linesOf ps) :
    ∃ body, (∀ p ∈ body, Inline p) ∧ (line = body ∨ line = body ++ [.char '\n']) := by
  induction ps using linesOf.induct generalizing line with
  | case1 ps ih =>
    rw [linesOf] at mem
    rcases List.mem_cons.mp mem with rfl | mem
    · exact ⟨[], nofun, Or.inr rfl⟩
    · exact ih (fun p there => whole p (by simp [there])) mem
  | case2 p ps other ends ih =>
    rw [linesOf.eq_2 p ps other, if_pos ends] at mem
    rcases List.mem_cons.mp mem with rfl | mem
    · exact ⟨[], nofun, Or.inr rfl⟩
    · exact ih (fun p there => whole p (List.mem_cons_of_mem _ there)) mem
  | case3 p ps other inside none ih =>
    rw [linesOf.eq_2 p ps other, if_neg inside, none] at mem
    simp only [Bool.or_eq_true, beq_iff_eq, not_or] at inside
    rw [List.mem_singleton.mp mem]
    refine ⟨[p], fun q single => ?_, Or.inl rfl⟩
    rw [List.mem_singleton.mp single]
    exact ⟨inside.1, inside.2, whole p List.mem_cons_self⟩
  | case4 p ps other inside next lines behind ih =>
    rw [linesOf.eq_2 p ps other, if_neg inside, behind] at mem
    simp only [Bool.or_eq_true, beq_iff_eq, not_or] at inside
    obtain ⟨first, whole⟩ := List.forall_mem_cons.mp whole
    rcases List.mem_cons.mp mem with rfl | mem
    · obtain ⟨body, inline, ending⟩ := ih whole (behind ▸ List.mem_cons_self)
      refine ⟨p :: body, List.forall_mem_cons.mpr ⟨⟨inside.1, inside.2, first⟩, inline⟩, ?_⟩
      rcases ending with rfl | rfl
      · exact Or.inl rfl
      · exact Or.inr rfl
    · exact ih whole (behind ▸ List.mem_cons_of_mem _ mem)
  | case5 => cases mem

theorem inline_content {ps line : List CodePoint} (whole : ∀ p ∈ ps, p.isHalf = false)
    (mem : line ∈ linesOf ps) : ∀ p ∈ Text.trimPoints line, Inline p := by
  obtain ⟨body, inline, ending⟩ := body_of_mem_linesOf whole mem
  have same : Text.trimPoints line = Text.trimPoints body := by
    rcases ending with rfl | rfl
    · rfl
    · exact Text.trimPoints_append (by decide)
  rw [same]
  exact fun p there => inline p (Text.mem_of_mem_trimPoints there)

end Thermostat.Settings
