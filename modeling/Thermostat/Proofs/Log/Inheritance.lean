import Mathlib.Data.List.Find
import Thermostat.Proofs.Log.Ancestors
import Thermostat.Proofs.Log.Levels

/-! The level of a logger that has none of its own is that of the logger right above it. -/
namespace Thermostat.Log

variable {name p : Text} {i j : Nat}

theorem isDotAt_of_isCut (cut : isCut name i = true) : isDotAt name i = true := by
  rw [isCut, Bool.and_eq_true] at cut
  exact cut.1

theorem exists_of_mem_cutPrefixes (mem : p ∈ cutPrefixes name) :
    ∃ i, isCut name i = true ∧ p = name.take i := by
  obtain ⟨i, place, rfl⟩ := List.mem_map.mp mem
  exact ⟨i, (mem_placesBelow.mp place).2.2, rfl⟩

theorem length_of_mem_cutPrefixes (mem : p ∈ cutPrefixes name) : p.length < name.length := by
  obtain ⟨i, cut, rfl⟩ := exists_of_mem_cutPrefixes mem
  have inside := lt_length_of_isDotAt (isDotAt_of_isCut cut)
  have short : (name.take i).length = min i name.length := List.length_take
  omega

theorem isDotAt_of_isRoot (top : isRoot name = true) (i : Nat) : isDotAt name i = false := by
  rw [isRoot, Bool.or_eq_true] at top
  rcases top with empty | root
  · rw [isDotAt, List.isEmpty_iff.mp empty]
    rfl
  · rw [beq_iff_eq.mp root]
    rcases Nat.lt_or_ge i 4 with lt | ge
    · have letters : ∀ i < 4, isDotAt rootName i = false := by decide
      exact letters i lt
    · exact Bool.eq_false_iff.mpr fun dot => absurd (lt_length_of_isDotAt dot) (Nat.not_lt_of_le ge)

theorem cutPrefixes_of_isRoot (top : isRoot name = true) : cutPrefixes name = [] := by
  refine List.eq_nil_iff_forall_not_mem.mpr fun p mem => ?_
  obtain ⟨i, cut, -⟩ := exists_of_mem_cutPrefixes mem
  rw [isCut, isDotAt_of_isRoot top, Bool.false_and] at cut
  cases cut

namespace Hierarchy

variable {h : Hierarchy}

/-- Whether a logger was known before another one. -/
def isBefore (h : Hierarchy) (a name : Text) : Bool := (h.olderThan name).any fun l => l.1 == a

/-- The first level that is set among the own levels of some loggers, else the one at the top. -/
def firstSet (h : Hierarchy) (names : List Text) : Level :=
  ((names.map h.ownLevel).find? (· != Level.notset)).getD h.root

theorem parent?_eq (h : Hierarchy) (name : Text) :
    h.parent? name = (cutPrefixes name).find? fun a => h.knows a && (adopts a || h.isBefore a name) := by
  rw [parent?, parents, List.head?_filter, ancestors_eq]
  rfl

theorem length_of_parent? (parent : h.parent? name = some p) : p.length < name.length := by
  rw [parent?_eq] at parent
  exact length_of_mem_cutPrefixes (List.mem_of_find?_eq_some parent)

theorem parent?_of_isRoot (top : isRoot name = true) : h.parent? name = none := by
  rw [parent?_eq, cutPrefixes_of_isRoot top]
  rfl

theorem levelFrom_of_isRoot (top : isRoot name = true) (fuel : Nat) :
    h.levelFrom fuel name = h.root := by
  cases fuel with
  | zero => rfl
  | succ fuel =>
    have own : h.ownLevel name = h.root := if_pos top
    simp only [levelFrom, own, parent?_of_isRoot top, ite_self]

/-- Steps upwards are enough if there are more than code points in the name. -/
theorem levelFrom_congr {fuel fuel' : Nat} (enough : name.length < fuel)
    (enough' : name.length < fuel') : h.levelFrom fuel name = h.levelFrom fuel' name := by
  induction fuel generalizing fuel' name with
  | zero => exact absurd enough (Nat.not_lt_zero _)
  | succ fuel ih =>
    cases fuel' with
    | zero => exact absurd enough' (Nat.not_lt_zero _)
    | succ fuel' =>
      rw [levelFrom, levelFrom]
      cases parent : h.parent? name with
      | none => rfl
      | some p =>
        have shorter := length_of_parent? parent
        have same : h.levelFrom fuel p = h.levelFrom fuel' p := ih (by omega) (by omega)
        simp only [same]

/-- A logger takes over the level of the one right above it if it has none of its own. -/
theorem effectiveLevel_eq (h : Hierarchy) (name : Text) :
    h.effectiveLevel name =
      if h.ownLevel name ≠ Level.notset then h.ownLevel name
      else (h.parent? name).elim h.root h.effectiveLevel := by
  have step : h.levelFrom (name.length + 1) name =
      if h.ownLevel name ≠ Level.notset then h.ownLevel name
      else (h.parent? name).elim h.root h.effectiveLevel := by
    rw [levelFrom]
    simp only [bne_iff_ne]
    congr 1
    cases parent : h.parent? name with
    | none => rfl
    | some p =>
      have shorter := length_of_parent? parent
      simp only [Option.elim_some, effectiveLevel]
      split
      · next top => exact levelFrom_of_isRoot top _
      · exact levelFrom_congr shorter (Nat.lt_succ_self _)
  rw [← step, effectiveLevel]
  split
  · next top => exact (levelFrom_of_isRoot top _).symm
  · rfl

section Add

theorem knows_add {a : Text} (other : a ≠ name) : (h.add name).knows a = h.knows a := by
  unfold add
  split
  · rfl
  · rw [knows, List.any_append, List.any_cons, List.any_nil, beq_eq_false_iff_ne.mpr (Ne.symm other)]
    exact Bool.or_false _

theorem isBefore_add {a b : Text} (other : a ≠ name) : (h.add name).isBefore a b = h.isBefore a b := by
  unfold add
  split
  · rfl
  · have last : List.any (List.takeWhile (fun l => l.1 != b) [(name, Level.notset)]) (·.1 == a) = false := by
      rw [List.takeWhile_cons]
      split <;> simp [Ne.symm other]
    rw [isBefore, isBefore, olderThan, olderThan, List.takeWhile_append]
    split
    · next whole =>
      rw [List.any_append, last, Bool.or_false,
        (List.takeWhile_prefix _).eq_of_length whole]
    · rfl

/-- A logger that is made known is above none whose name is no longer. -/
theorem parent?_add {b : Text} (le : b.length ≤ name.length) :
    (h.add name).parent? b = h.parent? b := by
  rw [parent?_eq, parent?_eq]
  refine List.find?_congr fun a mem => ?_
  have other : a ≠ name := by
    rintro rfl
    exact absurd (length_of_mem_cutPrefixes mem) (Nat.not_lt_of_le le)
  rw [knows_add other, isBefore_add other]

/-- Making a logger known does not change the level that it has. -/
theorem effectiveLevel_add {b : Text} (le : b.length ≤ name.length) :
    (h.add name).effectiveLevel b = h.effectiveLevel b := by
  induction length : b.length using Nat.strongRecOn generalizing b with
  | ind n ih =>
    rw [effectiveLevel_eq, effectiveLevel_eq, ownLevel_add, parent?_add le, root_add]
    congr 1
    cases parent : h.parent? b with
    | none => rfl
    | some p =>
      have shorter := length_of_parent? parent
      exact ih p.length (length ▸ shorter) (by omega) rfl

end Add

theorem effectiveLevel_of_own (own : h.ownLevel name ≠ Level.notset) :
    h.effectiveLevel name = h.ownLevel name := by
  rw [effectiveLevel_eq, if_pos own]

theorem firstSet_cons (h : Hierarchy) (name : Text) (names : List Text) :
    h.firstSet (name :: names) =
      if h.ownLevel name ≠ Level.notset then h.ownLevel name else h.firstSet names := by
  rw [firstSet, List.map_cons, List.find?_cons]
  by_cases own : h.ownLevel name = Level.notset
  · rw [own, if_neg (not_not.mpr rfl)]
    rfl
  · have set : (h.ownLevel name != Level.notset) = true := bne_iff_ne.mpr own
    rw [set, if_pos own]
    rfl

theorem ownLevel_of_not_knows (unknown : h.knows name = false) :
    h.ownLevel name = if isRoot name then h.root else Level.notset := by
  have absent : Entries.get? h.loggers name = none := by
    refine Entries.get?_eq_none_iff.mpr fun mem => ?_
    rw [← Entries.has_iff] at mem
    exact Bool.false_ne_true (unknown.symm.trans mem)
  rw [ownLevel, absent]
  rfl

theorem firstSet_of_unknown {names : List Text} (unknown : ∀ a ∈ names, h.knows a = false) :
    h.firstSet names = h.root := by
  induction names with
  | nil => rfl
  | cons a names ih =>
    obtain ⟨first, rest⟩ := List.forall_mem_cons.mp unknown
    rw [firstSet_cons, ownLevel_of_not_knows first, ih rest]
    split <;> simp_all

/-- Loggers that nobody asked for have no level and may be left out. -/
theorem firstSet_append_of_unknown {front names : List Text}
    (unknown : ∀ a ∈ front, h.knows a = false ∧ isRoot a = false) :
    h.firstSet (front ++ names) = h.firstSet names := by
  induction front with
  | nil => rfl
  | cons a front ih =>
    obtain ⟨⟨first, below⟩, rest⟩ := List.forall_mem_cons.mp unknown
    rw [List.cons_append, firstSet_cons, ownLevel_of_not_knows first, below, ih rest]
    simp

end Hierarchy

section Plain

variable {h : Hierarchy}

theorem isDotAt_take (lt : j < i) : isDotAt (name.take i) j = isDotAt name j := by
  rw [isDotAt, isDotAt, Text.take, List.getElem?_take_of_lt lt]

theorem isDotAt_take_of_le (le : i ≤ j) : isDotAt (name.take i) j = false := by
  rw [isDotAt, Text.take, List.getElem?_eq_none]
  · rfl
  · rw [List.length_take]
    omega

theorem Plain.take (plain : Plain name) (i : Nat) : Plain (name.take i) := by
  intro j dot
  rcases Nat.lt_or_ge (j + 1) i with lt | le
  · rw [isDotAt_take (by omega)] at dot
    rw [isDotAt_take lt]
    exact plain j dot
  · exact isDotAt_take_of_le le

theorem Plain.cutPrefixes_eq (plain : Plain name) : cutPrefixes name = dottedPrefixes name := by
  rw [cutPrefixes, dottedPrefixes]
  refine congrArg (List.map name.take) (placesBelow_congr fun i _ => ?_)
  rw [isCut]
  cases dot : isDotAt name i with
  | false => rfl
  | true =>
    rw [dotsBehind_of_not_dot (plain i dot)]
    rfl

theorem dottedPrefixes_take (inside : i ≤ name.length) :
    dottedPrefixes (name.take i) = (placesBelow (isDotAt name) i).map name.take := by
  have length : (name.take i).length = i := by
    change (name.points.take i).length = i
    rw [List.length_take]
    exact Nat.min_eq_left inside
  rw [dottedPrefixes, length, placesBelow_congr fun j lt => isDotAt_take lt]
  refine List.map_congr_left fun j mem => ?_
  have lt := (mem_placesBelow.mp mem).1
  rw [Text.take, Text.take, Text.take, List.take_take, Nat.min_eq_left (Nat.le_of_lt lt)]

/-- Behind a dotted prefix stand its own, and none before it is a name of the logger at the top. -/
theorem dottedPrefixes_of_append {front rest : List Text}
    (whole : dottedPrefixes name = front ++ p :: rest) :
    rest = dottedPrefixes p ∧ ∀ a ∈ front, isRoot a = false := by
  obtain ⟨front, tail, places, rfl, same⟩ := List.map_eq_append_iff.mp whole
  obtain ⟨i, rest, rfl, rfl, rfl⟩ := List.map_eq_cons_iff.mp same
  obtain ⟨rfl, greater⟩ := placesBelow_of_append places
  obtain ⟨inside, -, dot⟩ := mem_placesBelow.mp (places ▸ List.mem_append_right front List.mem_cons_self)
  refine ⟨(dottedPrefixes_take (Nat.le_of_lt inside)).symm, fun a earlier => ?_⟩
  obtain ⟨j, mem, rfl⟩ := List.mem_map.mp earlier
  by_contra top
  rw [Bool.not_eq_false] at top
  have noDot := isDotAt_of_isRoot top i
  rw [isDotAt_take (greater j mem), dot] at noDot
  cases noDot

/-- The level of a logger whose name is plain is the first one that is set on the way through all its
dotted prefixes to the top, if each logger on the way takes over those below it. -/
theorem Plain.effectiveLevel_eq (plain : Plain name)
    (adopted : ∀ b ∈ name :: dottedPrefixes name, ∀ a ∈ dottedPrefixes b, h.knows a = true →
      (Hierarchy.adopts a || h.isBefore a b) = true) :
    h.effectiveLevel name = h.firstSet (name :: dottedPrefixes name) := by
  induction length : name.length using Nat.strongRecOn generalizing name with
  | ind n ih =>
    have parent : h.parent? name = (dottedPrefixes name).find? h.knows := by
      rw [Hierarchy.parent?_eq, plain.cutPrefixes_eq]
      refine List.find?_congr fun a mem => ?_
      cases known : h.knows a with
      | false => rfl
      | true => rw [adopted name List.mem_cons_self a mem known, Bool.true_and]
    rw [Hierarchy.effectiveLevel_eq, Hierarchy.firstSet_cons, parent]
    congr 1
    cases found : (dottedPrefixes name).find? h.knows with
    | none =>
      have unknown : ∀ a ∈ dottedPrefixes name, h.knows a = false := fun a mem =>
        Bool.eq_false_iff.mpr (List.find?_eq_none.mp found a mem)
      rw [Hierarchy.firstSet_of_unknown unknown]
      rfl
    | some p =>
      have shorter := Hierarchy.length_of_parent? (parent.trans found)
      obtain ⟨-, front, rest, whole, unknown⟩ := List.find?_eq_some_iff_append.mp found
      obtain ⟨rfl, below⟩ := dottedPrefixes_of_append whole
      have plain' : Plain p := by
        obtain ⟨i, -, rfl⟩ := List.mem_map.mp (List.mem_of_find?_eq_some found)
        exact plain.take i
      have onTheWay : ∀ b ∈ p :: dottedPrefixes p, b ∈ name :: dottedPrefixes name := by
        intro b mem
        rw [whole]
        exact List.mem_cons_of_mem name (List.mem_append_right front mem)
      have skipped : h.firstSet (front ++ p :: dottedPrefixes p) = h.firstSet (p :: dottedPrefixes p) :=
        Hierarchy.firstSet_append_of_unknown fun a mem => ⟨by simpa using unknown a mem, below a mem⟩
      rw [whole, skipped]
      exact ih p.length (length ▸ shorter) plain' (fun b mem => adopted b (onTheWay b mem)) rfl

end Plain

end Thermostat.Log
