import Thermostat.Proofs.Folder

/-! Moving what is at a place: it is found at the new place, and all else where it was. -/
namespace Thermostat

/-- Looking for a name that comes from just one other name is looking for that one. -/
theorem Entries.get?_map_name {κ ι α : Type} [DecidableEq κ] [DecidableEq ι] {g : κ → ι}
    {es : Entries κ α} {name : ι} {other : κ} (only : ∀ e ∈ es, g e.1 = name ↔ e.1 = other) :
    Entries.get? (es.map fun e => (g e.1, e.2)) name = es.get? other := by
  induction es with
  | nil => rfl
  | cons e es ih =>
    obtain ⟨first, rest⟩ := List.forall_mem_cons.mp only
    rw [List.map_cons, get?_cons, get?_cons, ih rest]
    simp only [first]

namespace Folder

variable {f : Folder} {a b place source target q : Path}

theorem isUpTo_iff : isUpTo a b = true ↔ a.root = b.root ∧ a.parts <+: b.parts := by
  rw [isUpTo, Bool.and_eq_true, beq_iff_eq, List.isPrefixOf_iff_prefix]

/-- The place that some parts lead to from another one. -/
def below (place : Path) (rest : List Text) : Path := { place with parts := place.parts ++ rest }

theorem isUpTo_iff_below : isUpTo a b = true ↔ ∃ rest, b = below a rest := by
  rw [isUpTo_iff]
  constructor
  · rintro ⟨root, rest, parts⟩
    obtain ⟨aRoot, aParts⟩ := a
    obtain ⟨bRoot, bParts⟩ := b
    exact ⟨rest, congrArg₂ Path.mk root.symm parts.symm⟩
  · rintro ⟨rest, rfl⟩
    exact ⟨rfl, List.prefix_append _ _⟩

theorem isUpTo_self (a : Path) : isUpTo a a = true := isUpTo_iff.mpr ⟨rfl, List.prefix_rfl⟩

theorem isUpTo_of_parent (below : isUpTo a b.parent = true) : isUpTo a b = true := by
  obtain ⟨root, front⟩ := isUpTo_iff.mp below
  exact isUpTo_iff.mpr ⟨root, front.trans (List.dropLast_prefix b.parts)⟩

theorem eq_or_isUpTo_parent (under : isUpTo a b = true) : b = a ∨ isUpTo a b.parent = true := by
  obtain ⟨rest, rfl⟩ := isUpTo_iff_below.mp under
  by_cases whole : rest = []
  · left
    rw [whole, below, List.append_nil]
  · right
    refine isUpTo_iff.mpr ⟨rfl, ?_⟩
    rw [Path.parent, below, List.dropLast_append_of_ne_nil whole]
    exact List.prefix_append _ _

/-- Of two places above a third one, one is above the other. -/
theorem isUpTo_or_isUpTo (first : isUpTo a q = true) (second : isUpTo b q = true) :
    isUpTo a b = true ∨ isUpTo b a = true := by
  obtain ⟨root, front⟩ := isUpTo_iff.mp first
  obtain ⟨root', front'⟩ := isUpTo_iff.mp second
  rcases List.prefix_or_prefix_of_prefix front front' with le | le
  · exact Or.inl (isUpTo_iff.mpr ⟨root.trans root'.symm, le⟩)
  · exact Or.inr (isUpTo_iff.mpr ⟨root'.trans root.symm, le⟩)

/-- At and below a place that is no directory, there can be nothing but a file at the place itself. -/
theorem eq_of_isUpTo (notDirectory : f.isDirectory place = false) {e : Path × String}
    (mem : e ∈ f.files) (below : isUpTo place e.1 = true) : e.1 = place := by
  rcases eq_or_isUpTo_parent below with same | above
  · exact same
  · rw [isDirectory, Bool.or_eq_false_iff, List.any_eq_false] at notDirectory
    exact absurd above (notDirectory.2 e mem)

/-- Neither of two places is above the other. -/
def Apart (a b : Path) : Prop := isUpTo a b = false ∧ isUpTo b a = false

theorem Apart.not_isUpTo (apart : Apart a b) (below : isUpTo a q = true) : isUpTo b q = false := by
  rw [← Bool.not_eq_true]
  intro below'
  rcases isUpTo_or_isUpTo below below' with le | le
  · exact Bool.false_ne_true (apart.1.symm.trans le)
  · exact Bool.false_ne_true (apart.2.symm.trans le)

theorem carry_of_not_isUpTo (outside : isUpTo source q = false) : carry source target q = q := by
  rw [carry, outside, if_neg Bool.false_ne_true]

theorem carry_below (source target : Path) (rest : List Text) :
    carry source target (below source rest) = below target rest := by
  rw [carry, if_pos (isUpTo_iff_below.mpr ⟨rest, rfl⟩), below, List.drop_left]
  rfl

theorem carry_self (source target : Path) : carry source target source = target := by
  rw [carry, if_pos (isUpTo_self source), List.drop_length, List.append_nil]

theorem isUpTo_carry (under : isUpTo source q = true) :
    isUpTo target (carry source target q) = true := by
  obtain ⟨rest, rfl⟩ := isUpTo_iff_below.mp under
  exact isUpTo_iff_below.mpr ⟨rest, carry_below source target rest⟩

/-- Only what is at the old place itself comes to the new place itself. -/
theorem carry_eq_iff (free : isUpTo target q = false) : carry source target q = target ↔ q = source := by
  constructor
  · intro same
    cases under : isUpTo source q with
    | false =>
      rw [carry_of_not_isUpTo under] at same
      rw [same, isUpTo_self] at free
      cases free
    | true =>
      obtain ⟨rest, rfl⟩ := isUpTo_iff_below.mp under
      rw [carry_below] at same
      have none : rest = [] := List.append_right_eq_self.mp (congrArg Path.parts same)
      rw [none, below, List.append_nil]
  · rintro rfl
    exact carry_self _ _

theorem not_isUpTo_source (apart : Apart source target) (q : Path) :
    isUpTo source (carry source target q) = false := by
  cases below : isUpTo source q with
  | false => rw [carry_of_not_isUpTo below, below]
  | true =>
    have apart' : Apart target source := ⟨apart.2, apart.1⟩
    exact apart'.not_isUpTo (isUpTo_carry below)

section Move

variable (free : ∀ e ∈ f.files, isUpTo target e.1 = false)

include free in
theorem get?_move_target : (move source target f).files.get? target = f.files.get? source :=
  Entries.get?_map_name fun e mem => carry_eq_iff (free e mem)

theorem get?_move_source (apart : Apart source target) (below : isUpTo source q = true) :
    (move source target f).files.get? q = none := by
  refine Entries.get?_eq_none_iff.mpr fun named => ?_
  obtain ⟨moved, mem, rfl⟩ := List.mem_map.mp named
  obtain ⟨e, -, rfl⟩ := List.mem_map.mp mem
  exact Bool.false_ne_true ((not_isUpTo_source apart e.1).symm.trans below)

theorem get?_move_outside (source' : isUpTo source q = false) (target' : isUpTo target q = false) :
    (move source target f).files.get? q = f.files.get? q := by
  refine Entries.get?_map_name fun e _ => ?_
  cases below : isUpTo source e.1 with
  | false => rw [carry_of_not_isUpTo below]
  | true =>
    refine iff_of_false (fun same => ?_) (fun same => ?_)
    · rw [← same, isUpTo_carry below] at target'
      cases target'
    · rw [← same, below] at source'
      cases source'

theorem isDirectory_move_source (apart : Apart source target)
    (named : source.parts.all (· == Path.upward) = false) :
    (move source target f).isDirectory source = false := by
  rw [isDirectory, named, Bool.false_or, Bool.or_eq_false_iff, List.any_eq_false, List.any_eq_false]
  constructor
  · intro d mem below
    obtain ⟨d, -, rfl⟩ := List.mem_map.mp mem
    exact Bool.false_ne_true ((not_isUpTo_source apart d).symm.trans below)
  · intro e mem below
    obtain ⟨e, -, rfl⟩ := List.mem_map.mp mem
    exact Bool.false_ne_true ((not_isUpTo_source apart e.1).symm.trans (isUpTo_of_parent below))

end Move

end Folder

end Thermostat
