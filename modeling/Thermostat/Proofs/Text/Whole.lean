import Thermostat.Text.Point

/-! Texts without halves of pairs: all of them can be written as strings. -/
namespace Thermostat.Text

/-- A text of characters only. -/
def Whole (t : Text) : Prop := ∀ p ∈ t.points, p.isHalf = false

variable {s t : Text}

theorem points_ofString (s : String) : (ofString s).points = s.toList.map .char := rfl

theorem whole_ofString (s : String) : (ofString s).Whole := by
  intro p mem
  obtain ⟨c, -, rfl⟩ := List.mem_map.mp mem
  rfl

theorem Whole.append (first : s.Whole) (second : t.Whole) : (s ++ t).Whole := fun p mem =>
  (List.mem_append.mp mem).elim (first p) (second p)

/-- What stands for a whole text is a string that gives it back. -/
theorem Whole.exists_toString? (whole : t.Whole) :
    ∃ s, t.toString? = some s ∧ ofString s = t := by
  obtain ⟨ps⟩ := t
  have chars : ∃ cs, ps.mapM CodePoint.toChar? = some cs ∧ cs.map CodePoint.char = ps := by
    induction ps with
    | nil => exact ⟨[], rfl, rfl⟩
    | cons p ps ih =>
      obtain ⟨cs, rest, same⟩ := ih fun q mem => whole q (List.mem_cons_of_mem p mem)
      cases p with
      | half n =>
        have notHalf := whole (.half n) List.mem_cons_self
        simp [CodePoint.isHalf, CodePoint.toChar?] at notHalf
      | char c => exact ⟨c :: cs, by simp [rest, CodePoint.toChar?], by rw [List.map_cons, same]⟩
  obtain ⟨cs, chars, same⟩ := chars
  refine ⟨String.ofList cs, by simp only [toString?, chars, Option.map_some], ?_⟩
  rw [ofString, String.toList_ofList, same]

theorem whole_of_toString? {s : String} (string : t.toString? = some s) : t.Whole := by
  obtain ⟨cs, chars, -⟩ := Option.map_eq_some_iff.mp string
  obtain ⟨ps⟩ := t
  change ps.mapM CodePoint.toChar? = some cs at chars
  clear string
  change ∀ p ∈ ps, p.isHalf = false
  induction ps generalizing cs with
  | nil => exact List.forall_mem_nil _
  | cons p ps ih =>
    rw [List.mapM_cons] at chars
    obtain ⟨c, first, chars⟩ := Option.bind_eq_some_iff.mp chars
    obtain ⟨cs, rest, -⟩ := Option.bind_eq_some_iff.mp chars
    refine List.forall_mem_cons.mpr ⟨?_, ih cs rest⟩
    rw [CodePoint.isHalf, first]
    rfl

theorem toString?_eq_some_iff {s : String} : t.toString? = some s ↔ t = ofString s := by
  constructor
  · intro string
    obtain ⟨s', string', same⟩ := (whole_of_toString? string).exists_toString?
    rw [string] at string'
    rw [← same, Option.some.inj string']
  · rintro rfl
    exact toString?_ofString s

theorem mapM_toChar?_eq_some_iff {ps : List CodePoint} {cs : List Char} :
    ps.mapM CodePoint.toChar? = some cs ↔ ps = cs.map .char := by
  have string := toString?_eq_some_iff (t := ⟨ps⟩) (s := String.ofList cs)
  rw [toString?, ofString, String.toList_ofList, Text.mk.injEq] at string
  rw [← string, Option.map_eq_some_iff]
  simp only [String.ofList_inj, exists_eq_right]

end Thermostat.Text
