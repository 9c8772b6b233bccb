import Mathlib.Data.List.Induction
import Thermostat.Log.Hierarchy

/-! Which names are above a name, and which level a logger takes over from the loggers above it. -/
namespace Thermostat.Log

variable {name a : Text} {i j n : Nat}

def isDot (p : CodePoint) : Bool := p == .char '.'

def isDotAt (name : Text) (i : Nat) : Bool := name.points[i]?.any isDot

/-- The number of dots that stand right behind a place. -/
def dotsBehind (name : Text) (i : Nat) : Nat := ((name.points.drop (i + 1)).takeWhile isDot).length

/-- Whether a name above ends at a place: there is a dot, and of dots side by side it is the last one,
the last but two, and so on. -/
def isCut (name : Text) (i : Nat) : Bool := isDotAt name i && dotsBehind name i % 2 == 0

/-- Places of a kind below a limit, greatest first; none is at the beginning. -/
def placesBelow (kind : Nat → Bool) (n : Nat) : List Nat :=
  (List.range n).reverse.filter fun i => 0 < i && kind i

/-- What stands before a dot of a name, longest first. -/
def dottedPrefixes (name : Text) : List Text :=
  (placesBelow (isDotAt name) name.length).map name.take

/-- The names above a name, nearest first, by the dots at which they end. -/
def cutPrefixes (name : Text) : List Text := (placesBelow (isCut name) name.length).map name.take

/-- No two dots of a name stand side by side. -/
def Plain (name : Text) : Prop := ∀ i, isDotAt name i = true → isDotAt name (i + 1) = false

theorem placesBelow_succ (kind : Nat → Bool) (n : Nat) :
    placesBelow kind (n + 1) =
      if 0 < n && kind n then n :: placesBelow kind n else placesBelow kind n := by
  rw [placesBelow, List.range_succ, List.reverse_concat, List.filter_cons]
  rfl

theorem placesBelow_zero (kind : Nat → Bool) : placesBelow kind 0 = [] := rfl

theorem mem_placesBelow {kind : Nat → Bool} :
    i ∈ placesBelow kind n ↔ i < n ∧ 0 < i ∧ kind i = true := by
  simp [placesBelow]

theorem placesBelow_congr {kind other : Nat → Bool} (same : ∀ i < n, kind i = other i) :
    placesBelow kind n = placesBelow other n := by
  refine List.filter_congr fun i mem => ?_
  rw [same i (by simpa using mem)]

/-- Places that are not of the kind may be left out. -/
theorem placesBelow_of_none {kind : Nat → Bool} (le : i ≤ n)
    (none : ∀ j, i ≤ j → j < n → kind j = false) : placesBelow kind n = placesBelow kind i := by
  induction n with
  | zero => rw [Nat.le_zero.mp le]
  | succ n ih =>
    rcases Nat.eq_or_lt_of_le le with same | lt
    · rw [same]
    · rw [placesBelow_succ, none n (Nat.lt_succ_iff.mp lt) (Nat.lt_succ_self n), Bool.and_false]
      exact ih (Nat.lt_succ_iff.mp lt) fun j from_ below => none j from_ (Nat.lt_succ_of_lt below)

/-- Behind a place of the list stand all that are smaller, and before it only greater ones. -/
theorem placesBelow_of_append {kind : Nat → Bool} {front rest : List Nat}
    (whole : placesBelow kind n = front ++ i :: rest) :
    rest = placesBelow kind i ∧ ∀ j ∈ front, i < j := by
  induction n generalizing front with
  | zero => exact absurd (congrArg List.length whole) (by simp [placesBelow_zero])
  | succ n ih =>
    rw [placesBelow_succ] at whole
    split at whole
    · cases front with
      | nil =>
        obtain ⟨rfl, same⟩ := List.cons.inj whole
        exact ⟨same.symm, nofun⟩
      | cons j front =>
        obtain ⟨rfl, tail⟩ := List.cons.inj whole
        obtain ⟨same, greater⟩ := ih tail
        have mem : i ∈ placesBelow kind n := tail ▸ List.mem_append_right front List.mem_cons_self
        exact ⟨same, List.forall_mem_cons.mpr ⟨(mem_placesBelow.mp mem).1, greater⟩⟩
    · exact ih whole

theorem lt_length_of_isDotAt (dot : isDotAt name i = true) : i < name.length := by
  by_contra outside
  rw [isDotAt, List.getElem?_eq_none (Nat.le_of_not_lt outside)] at dot
  cases dot

theorem dotsBehind_of_dot (dot : isDotAt name (i + 1) = true) :
    dotsBehind name i = dotsBehind name (i + 1) + 1 := by
  have inside := lt_length_of_isDotAt dot
  have here : isDot name.points[i + 1] = true := by
    rw [isDotAt, List.getElem?_eq_getElem inside] at dot
    exact dot
  rw [dotsBehind, List.drop_eq_getElem_cons inside, List.takeWhile_cons, if_pos here,
    List.length_cons, dotsBehind]

theorem dotsBehind_of_not_dot (noDot : isDotAt name (i + 1) = false) : dotsBehind name i = 0 := by
  rw [dotsBehind, List.length_eq_zero_iff]
  by_cases inside : i + 1 < name.points.length
  · have here : ¬ isDot name.points[i + 1] = true := by
      rw [isDotAt, List.getElem?_eq_getElem inside] at noDot
      simpa using noDot
    rw [List.drop_eq_getElem_cons inside, List.takeWhile_cons, if_neg here]
  · rw [List.drop_eq_nil_of_le (Nat.le_of_not_lt inside), List.takeWhile_nil]

/-- A dot is a cut just if no cut stands right behind it. -/
theorem isCut_eq (name : Text) (i : Nat) :
    isCut name i = (isDotAt name i && !isCut name (i + 1)) := by
  rw [isCut, isCut]
  cases next : isDotAt name (i + 1) with
  | false => simp [dotsBehind_of_not_dot next]
  | true =>
    rw [dotsBehind_of_dot next, Bool.true_and]
    congr 1
    rcases Nat.mod_two_eq_zero_or_one (dotsBehind name (i + 1)) with even | odd
    · simp [Nat.add_mod, even]
    · simp [Nat.add_mod, odd]

theorem isCut_length (name : Text) : isCut name name.length = false := by
  rw [isCut_eq]
  cases dot : isDotAt name name.length with
  | false => rfl
  | true => exact absurd (lt_length_of_isDotAt dot) (Nat.lt_irrefl _)

/-- The last place of a kind: all places behind it are of another. -/
theorem find?_reverse_range {kind : Nat → Bool} (found : (List.range n).reverse.find? kind = some i) :
    i < n ∧ kind i = true ∧ ∀ j, i < j → j < n → kind j = false := by
  refine ⟨by simpa using List.mem_of_find?_eq_some found, List.find?_some found, ?_⟩
  induction n with
  | zero => cases found
  | succ n ih =>
    rw [List.range_succ, List.reverse_concat, List.find?_cons] at found
    intro j lt below
    cases here : kind n with
    | true =>
      rw [here] at found
      have same : n = i := Option.some.inj found
      omega
    | false =>
      rw [here] at found
      rcases Nat.eq_or_lt_of_le (Nat.lt_succ_iff.mp below) with rfl | inside
      · exact here
      · exact ih found j lt inside

namespace Hierarchy

theorem lastDot?_eq (le : n ≤ name.length) :
    lastDot? name.points n = (List.range n).reverse.find? (isDotAt name) := by
  have short : min n name.points.length = n := Nat.min_eq_left le
  rw [lastDot?, short]
  congr 1
  funext i
  rw [isDotAt]
  cases name.points[i]? <;> rfl

/-- The names that end before a place are cut off at the cuts before it, if none stands at the place
itself. -/
theorem above_eq {fuel : Nat} (enough : n ≤ fuel) (le : n ≤ name.length)
    (noCut : isCut name n = false) :
    above name.points fuel n = (placesBelow (isCut name) n).map name.take := by
  induction fuel generalizing n with
  | zero =>
    rw [Nat.le_zero.mp enough]
    rfl
  | succ fuel ih =>
    rw [above, lastDot?_eq le]
    cases found : (List.range n).reverse.find? (isDotAt name) with
    | none =>
      have noCuts : ∀ j, 0 ≤ j → j < n → isCut name j = false := by
        intro j _ below
        have noDot := List.find?_eq_none.mp found j (by simpa using below)
        rw [isCut, Bool.eq_false_iff.mpr noDot, Bool.false_and]
      rw [placesBelow_of_none (Nat.zero_le n) noCuts]
      rfl
    | some i =>
      obtain ⟨below, dot, noDot⟩ := find?_reverse_range found
      have later : ∀ j, i + 1 ≤ j → j < n → isCut name j = false := by
        intro j lt inside
        rw [isCut, noDot j lt inside, Bool.false_and]
      -- the last dot is a cut: right behind it is no other dot, or it is the last one itself
      have next : isCut name (i + 1) = false := by
        rcases Nat.eq_or_lt_of_le (Nat.succ_le_of_lt below) with same | lt
        · rw [← Nat.succ_eq_add_one, same]
          exact noCut
        · exact later (i + 1) (Nat.le_refl _) lt
      have cut : isCut name i = true := by
        rw [isCut_eq, dot, next]
        rfl
      rw [placesBelow_of_none (Nat.succ_le_of_lt below) later, placesBelow_succ, cut]
      cases i with
      | zero => rfl
      | succ i =>
        -- and a dot right before it is none
        have before : isCut name i = false := by
          rw [isCut_eq, cut, Bool.not_true, Bool.and_false]
        have skipped : placesBelow (isCut name) (i + 1) = placesBelow (isCut name) i := by
          rw [placesBelow_succ, before, Bool.and_false, if_neg Bool.false_ne_true]
        have rest := ih (n := i) (by omega) (by omega) before
        simp only [skipped, Nat.zero_lt_succ, decide_true, Bool.and_true, if_true, List.map_cons,
          Nat.add_one_sub_one, rest]
        rfl

theorem ancestors_eq (name : Text) : ancestors name = cutPrefixes name :=
  above_eq (Nat.le_refl _) (Nat.le_refl _) (isCut_length name)

end Hierarchy

end Thermostat.Log
