import Mathlib.Data.List.Induction
import Thermostat.Proofs.Entries
import Thermostat.Proofs.Settings.Lines
import Thermostat.Proofs.Text.LowerCase
import Thermostat.Proofs.Text.Split

/-! The form of settings that a text can give: what their names and values can be, and what is there
in any case. -/
namespace Thermostat.Settings

/-- Whether points begin like a comment. -/
def Comments (ps : List CodePoint) : Prop :=
  ps.head? = some (.char '#') ∨ ps.head? = some (.char ';')

instance (ps : List CodePoint) : Decidable (Comments ps) := inferInstanceAs (Decidable (_ ∨ _))

theorem not_comments_cons_iff {p : CodePoint} {ps : List CodePoint} :
    ¬ Comments (p :: ps) ↔ ¬ (p == .char '#' || p == .char ';') = true := by
  simp [Comments]

/-- The name of a section: it stands in brackets on one line. -/
structure HeaderForm (name : Text) : Prop where
  nonempty : name.points ≠ []
  notDefaults : name ≠ defaultsName
  inline : ∀ p ∈ name.points, Inline p

/-- The name of an option: it stands at the beginning of a line, up to the first delimiter. -/
structure OptionForm (name : Text) : Prop where
  nonempty : name.points ≠ []
  inline : ∀ p ∈ name.points, Inline p
  trimmed : Text.Trimmed name.points
  noComment : ¬ Comments name.points
  noDelimiter : ∀ p ∈ name.points, p ≠ .char '=' ∧ p ≠ .char ':'
  lower : optionName name = name

/-- The lines of a value: the first one behind the name of the option, where both together are no
header, and those that continue it. -/
structure LinesForm (option : Text) (first : List CodePoint) (rest : List (List CodePoint)) : Prop where
  inline : ∀ l ∈ first :: rest, ∀ p ∈ l, Inline p
  trimmed : ∀ l ∈ first :: rest, Text.Trimmed l
  noComment : ∀ l ∈ rest, ¬ Comments l
  noHeader : option.points.head? = some (.char '[') →
    .char ']' ∉ option.points.drop 2 ∧ .char ']' ∉ first

/-- Lines, each with a line end before it. -/
def continued (rest : List (List CodePoint)) : List CodePoint := rest.flatMap (.char '\n' :: ·)

/-- A value whose lines have the form of lines, the last of several not empty. -/
def ValueForm (option v : Text) : Prop :=
  ∃ first rest, LinesForm option first rest ∧ rest.getLast? ≠ some [] ∧
    v.points = first ++ continued rest

/-- A value while it is read. -/
def PendingForm (option : Text) (ls : List Text) : Prop :=
  ∃ first rest, LinesForm option first rest ∧ ls.reverse.map Text.points = first :: rest

section Entries

variable {α β : Type}

/-- Options with names and values of their form, none of them twice. -/
structure OptionsForm (P : Text → α → Prop) (os : Entries Text α) : Prop where
  nodup : (os.map (·.1)).Nodup
  names : ∀ e ∈ os, OptionForm e.1
  values : ∀ e ∈ os, P e.1 e.2

/-- Sections with options of their form, none of them twice. What is there from the beginning comes
first. -/
structure SectionsForm (P : Text → α → Prop) (sections : Entries Text (Entries Text α)) : Prop where
  nodup : (sections.map (·.1)).Nodup
  names : ∀ e ∈ sections, HeaderForm e.1
  options : ∀ e ∈ sections, OptionsForm P e.2
  initial : Store.initial.sections.map (·.1) <+: sections.map (·.1)
  initialOptions : ∀ e ∈ sections, (Store.initial.options e.1).map (·.1) <+: e.2.map (·.1)

variable {P : Text → α → Prop} {Q : Text → β → Prop} {f : α → β} {os : Entries Text α}
  {sections : Entries Text (Entries Text α)}

theorem OptionsForm.nil : OptionsForm P [] := ⟨List.nodup_nil, nofun, nofun⟩

theorem OptionsForm.tail {e : Text × α} (form : OptionsForm P (e :: os)) : OptionsForm P os :=
  ⟨(List.nodup_cons.mp form.nodup).2, fun x mem => form.names x (List.mem_cons_of_mem e mem),
    fun x mem => form.values x (List.mem_cons_of_mem e mem)⟩

theorem OptionsForm.set {name : Text} {v : α} (form : OptionsForm P os) (named : OptionForm name)
    (valued : P name v) : OptionsForm P (os.set name v) := by
  refine ⟨Entries.nodup_set form.nodup, fun e mem => ?_, fun e mem => ?_⟩
  · rcases Entries.mem_set mem with rfl | old
    · exact named
    · exact form.names e old
  · rcases Entries.mem_set mem with rfl | old
    · exact valued
    · exact form.values e old

theorem OptionsForm.map (form : OptionsForm P os) (values : ∀ name v, P name v → Q name (f v)) :
    OptionsForm Q (os.map fun e => (e.1, f e.2)) := by
  refine ⟨?_, fun x there => ?_, fun x there => ?_⟩
  · rw [List.map_map]
    exact form.nodup
  · obtain ⟨e, mem, rfl⟩ := List.mem_map.mp there
    exact form.names e mem
  · obtain ⟨e, mem, rfl⟩ := List.mem_map.mp there
    exact values e.1 e.2 (form.values e mem)

theorem SectionsForm.map (form : SectionsForm P sections)
    (values : ∀ name v, P name v → Q name (f v)) :
    SectionsForm Q (sections.map fun e => (e.1, e.2.map fun o => (o.1, f o.2))) := by
  refine ⟨?_, fun x there => ?_, fun x there => ?_, ?_, fun x there => ?_⟩
  · rw [List.map_map]
    exact form.nodup
  · obtain ⟨e, mem, rfl⟩ := List.mem_map.mp there
    exact form.names e mem
  · obtain ⟨e, mem, rfl⟩ := List.mem_map.mp there
    exact (form.options e mem).map values
  · rw [List.map_map]
    exact form.initial
  · obtain ⟨e, mem, rfl⟩ := List.mem_map.mp there
    rw [List.map_map]
    exact form.initialOptions e mem

theorem SectionsForm.set {name : Text} {new : Entries Text α} (form : SectionsForm P sections)
    (known : Entries.get? sections name = some os) (options : OptionsForm P new)
    (names : os.map (·.1) <+: new.map (·.1)) :
    SectionsForm P (Entries.set name new sections) := by
  have old := Entries.mem_of_get? known
  have same : (Entries.set name new sections).map (·.1) = sections.map (·.1) := by
    rw [Entries.names_set, if_pos (List.mem_map.mpr ⟨_, old, rfl⟩)]
  refine ⟨same ▸ form.nodup, fun e there => ?_, fun e there => ?_, same ▸ form.initial,
    fun e there => ?_⟩
  · rcases Entries.mem_set there with rfl | other
    · exact form.names (name, os) old
    · exact form.names e other
  · rcases Entries.mem_set there with rfl | other
    · exact options
    · exact form.options e other
  · rcases Entries.mem_set there with rfl | other
    · exact (form.initialOptions (name, os) old).trans names
    · exact form.initialOptions e other

theorem SectionsForm.append {name : Text} (form : SectionsForm P sections)
    (fresh : name ∉ sections.map (·.1)) (named : HeaderForm name) :
    SectionsForm P (sections ++ [(name, [])]) := by
  have cases {e : Text × Entries Text α} (mem : e ∈ sections ++ [(name, [])]) :
      e ∈ sections ∨ e = (name, []) := by
    rwa [List.mem_append, List.mem_singleton] at mem
  have nothing : Store.initial.options name = [] := by
    rw [Store.options, Entries.get?_eq_none_iff.mpr fun mem => fresh (form.initial.subset mem)]
    rfl
  refine ⟨?_, fun e mem => ?_, fun e mem => ?_, ?_, fun e mem => ?_⟩
  · rw [List.map_append]
    refine List.nodup_append.mpr ⟨form.nodup, List.nodup_singleton name, fun n mem n' new same => ?_⟩
    rw [List.mem_singleton.mp new] at same
    change n = name at same
    exact fresh (same ▸ mem)
  · rcases cases mem with old | rfl
    · exact form.names e old
    · exact named
  · rcases cases mem with old | rfl
    · exact form.options e old
    · exact .nil
  · rw [List.map_append]
    exact form.initial.trans (List.prefix_append _ _)
  · rcases cases mem with old | rfl
    · exact form.initialOptions e old
    · rw [nothing]
      exact List.nil_prefix

end Entries

/-! ## Names of options -/

theorem inline_of_settled {p : CodePoint} (settled : Text.Case.Settled p) : Inline p := by
  have letter := settled.letter
  refine ⟨?_, ?_, settled.notHalf⟩
  · rintro rfl
    exact absurd letter (by decide)
  · rintro rfl
    exact absurd letter (by decide)

theorem ne_of_settled {p : CodePoint} {c : Char} (settled : Text.Case.Settled p)
    (low : c.toNat < 97) : p ≠ .char c := by
  rintro rfl
  exact absurd settled.letter (Nat.not_le_of_lt low)

theorem not_comments_iff {ps : List CodePoint} :
    ¬ Comments ps ↔ ∀ p, ps.head? = some p → p ≠ .char '#' ∧ p ≠ .char ';' := by
  rw [Comments, not_or]
  refine ⟨fun none p head => ⟨?_, ?_⟩, fun each => ⟨fun head => ?_, fun head => ?_⟩⟩
  · rintro rfl
    exact none.1 head
  · rintro rfl
    exact none.2 head
  · exact (each _ head).1 rfl
  · exact (each _ head).2 rfl

/-- Lower case keeps the form of a name. -/
theorem optionForm_optionName {name : Text} (nonempty : name.points ≠ [])
    (inline : ∀ p ∈ name.points, Inline p) (trimmed : Text.Trimmed name.points)
    (noComment : ¬ Comments name.points)
    (noDelimiter : ∀ p ∈ name.points, p ≠ .char '=' ∧ p ≠ .char ':') :
    OptionForm (optionName name) := by
  refine ⟨?_, fun p mem => ?_, ⟨fun p head => ?_, fun p last => ?_⟩, ?_, fun p mem => ?_,
    Text.lower_lower name⟩
  · exact fun empty => nonempty (Text.Case.lowerFrom_eq_nil_iff.mp empty)
  · rcases (Text.Case.mem_lowerFrom mem).2 with kept | settled
    · exact inline p kept
    · exact inline_of_settled settled
  · rcases Text.Case.head?_lowerFrom head with kept | settled
    · exact trimmed.front p kept
    · exact settled.notBlank
  · rcases Text.Case.getLast?_lowerFrom last with kept | settled
    · exact trimmed.back p kept
    · exact settled.notBlank
  · refine not_comments_iff.mpr fun p head => ?_
    rcases Text.Case.head?_lowerFrom head with kept | settled
    · exact not_comments_iff.mp noComment p kept
    · exact ⟨ne_of_settled settled (by decide), ne_of_settled settled (by decide)⟩
  · rcases (Text.Case.mem_lowerFrom mem).2 with kept | settled
    · exact noDelimiter p kept
    · exact ⟨ne_of_settled settled (by decide), ne_of_settled settled (by decide)⟩

/-- A bracket at the beginning stays where it is, and no other bracket comes to it. -/
theorem bracket_of_optionName {name : Text}
    (opens : (optionName name).points.head? = some (.char '[')) :
    name.points.head? = some (.char '[') ∧
      (.char ']' ∈ (optionName name).points.drop 2 → .char ']' ∈ name.points.drop 2) := by
  have fixed := (Text.Case.mem_lowerFrom (List.mem_of_head? opens)).1
  have head : name.points.head? = some (.char '[') := by
    rcases Text.Case.head?_lowerFrom opens with kept | settled
    · exact kept
    · exact absurd rfl (ne_of_settled settled (by decide))
  refine ⟨head, fun mem => ?_⟩
  obtain ⟨behind, whole⟩ := List.head?_eq_some_iff.mp head
  -- The bracket is its own image, so what stands behind it is the lower case of what stood there.
  have image : (optionName name).points =
      .char '[' :: Text.Case.lowerFrom [.char '['] behind := by
    have notSigma := fixed.notSigma
    simp [optionName, Text.lower, whole, Text.Case.lowerFrom, notSigma, fixed.image]
  rw [image, List.drop_succ_cons] at mem
  rw [whole, List.drop_succ_cons]
  rcases Text.Case.mem_drop_lowerFrom mem with kept | settled
  · exact kept
  · exact absurd rfl (ne_of_settled settled (by decide))

/-! ## Values -/

/-- A value as it is when no more lines come. -/
def closed (ls : List Text) : Text := Text.trimRight (.intercalate "\n" ls.reverse)

theorem closed_points {ls : List Text} {first : List CodePoint} {rest : List (List CodePoint)}
    (lines : ls.reverse.map Text.points = first :: rest) :
    (closed ls).points = Text.trimRightPoints (first ++ continued rest) := by
  change Text.trimRightPoints ([CodePoint.char '\n'].intercalate (ls.reverse.map Text.points)) = _
  rw [lines, Text.intercalate_cons, continued]

/-- An empty line at the end does not count. -/
theorem closed_blank (ls : List Text) : closed ("" :: ls) = closed ls := by
  cases lines : ls.reverse.map Text.points with
  | nil =>
    have none : ls = [] := by simpa using lines
    rw [none]
    rfl
  | cons first rest =>
    have longer : (("" : Text) :: ls).reverse.map Text.points = first :: (rest ++ [[]]) := by
      rw [List.reverse_cons, List.map_append, lines]
      rfl
    have same : (closed ("" :: ls)).points = (closed ls).points := by
      rw [closed_points longer, closed_points lines, continued, List.flatMap_append,
        ← List.append_assoc]
      exact Text.dropEnd_append (by decide)
    exact congrArg Text.mk same

theorem trimRight_continued {first : List CodePoint} {rest : List (List CodePoint)}
    (trimmed : ∀ l ∈ first :: rest, Text.Trimmed l) (back : rest.getLast? ≠ some []) :
    Text.trimRightPoints (first ++ continued rest) = first ++ continued rest := by
  refine Text.trimRightPoints_eq_self fun p ends => ?_
  rcases List.eq_nil_or_concat rest with rfl | ⟨front, last, rfl⟩
  · rw [continued, List.flatMap_nil, List.append_nil] at ends
    exact (trimmed first List.mem_cons_self).back p ends
  · rw [List.concat_eq_append] at trimmed back ends
    have nonempty : last ≠ [] := by simpa using back
    obtain ⟨x, xs, rfl⟩ := List.exists_cons_of_ne_nil nonempty
    have split : first ++ continued (front ++ [x :: xs]) =
        (first ++ continued front) ++ .char '\n' :: x :: xs := by
      simp [continued]
    rw [split, List.getLast?_append_cons, List.getLast?_cons_cons] at ends
    exact (trimmed (x :: xs) (by simp)).back p ends

/-- Without the empty lines at its end, a value ends where its last line does. -/
theorem exists_trimRight {first : List CodePoint} {rest : List (List CodePoint)}
    (trimmed : ∀ l ∈ first :: rest, Text.Trimmed l) :
    ∃ kept, kept <+: rest ∧ kept.getLast? ≠ some [] ∧
      Text.trimRightPoints (first ++ continued rest) = first ++ continued kept := by
  -- From the last line backwards: an empty one goes away together with the line end before it.
  induction rest using List.reverseRecOn with
  | nil => exact ⟨[], List.prefix_rfl, nofun, trimRight_continued trimmed nofun⟩
  | append_singleton rest last ih =>
    by_cases empty : last = []
    · obtain ⟨kept, front, back, same⟩ := ih fun l mem => trimmed l (by
        rw [List.mem_cons] at mem ⊢
        exact mem.imp_right (List.mem_append_left _))
      refine ⟨kept, front.trans (List.prefix_append _ _), back, ?_⟩
      rw [empty, ← same, continued, List.flatMap_append, ← List.append_assoc]
      exact Text.dropEnd_append (by decide)
    · have back : (rest ++ [last]).getLast? ≠ some [] := by simpa using empty
      exact ⟨rest ++ [last], List.prefix_rfl, back, trimRight_continued trimmed back⟩

variable {option : Text} {first : List CodePoint} {rest : List (List CodePoint)} {ls : List Text}

theorem LinesForm.of_subset {kept : List (List CodePoint)} (form : LinesForm option first rest)
    (sub : kept ⊆ rest) : LinesForm option first kept := by
  have all : ∀ l ∈ first :: kept, l ∈ first :: rest := fun l mem => List.cons_subset_cons first sub mem
  exact ⟨fun l mem => form.inline l (all l mem), fun l mem => form.trimmed l (all l mem),
    fun l mem => form.noComment l (sub mem), form.noHeader⟩

theorem LinesForm.append {line : List CodePoint} (form : LinesForm option first rest)
    (inline : ∀ p ∈ line, Inline p) (trimmed : Text.Trimmed line) (noComment : ¬ Comments line) :
    LinesForm option first (rest ++ [line]) := by
  have cases {l : List CodePoint} (mem : l ∈ first :: (rest ++ [line])) :
      l ∈ first :: rest ∨ l = line := by
    rw [← List.cons_append, List.mem_append, List.mem_singleton] at mem
    exact mem
  refine ⟨fun l mem => ?_, fun l mem => ?_, fun l mem => ?_, form.noHeader⟩
  · rcases cases mem with old | rfl
    · exact form.inline l old
    · exact inline
  · rcases cases mem with old | rfl
    · exact form.trimmed l old
    · exact trimmed
  · rcases List.mem_append.mp mem with old | new
    · exact form.noComment l old
    · exact List.mem_singleton.mp new ▸ noComment

theorem LinesForm.single (inline : ∀ p ∈ first, Inline p) (trimmed : Text.Trimmed first)
    (noHeader : option.points.head? = some (.char '[') →
      .char ']' ∉ option.points.drop 2 ∧ .char ']' ∉ first) : LinesForm option first [] := by
  refine ⟨fun l mem => ?_, fun l mem => ?_, nofun, noHeader⟩
  · exact List.mem_singleton.mp mem ▸ inline
  · exact List.mem_singleton.mp mem ▸ trimmed

theorem LinesForm.pending (form : LinesForm option first []) : PendingForm option [⟨first⟩] :=
  ⟨first, [], form, rfl⟩

theorem LinesForm.value {v : Text} (form : LinesForm option v.points []) : ValueForm option v :=
  ⟨v.points, [], form, nofun, (List.append_nil _).symm⟩

theorem PendingForm.extend {line : Text} (form : PendingForm option ls)
    (inline : ∀ p ∈ line.points, Inline p) (trimmed : Text.Trimmed line.points)
    (noComment : ¬ Comments line.points) : PendingForm option (line :: ls) := by
  obtain ⟨first, rest, form, lines⟩ := form
  refine ⟨first, rest ++ [line.points], form.append inline trimmed noComment, ?_⟩
  rw [List.reverse_cons, List.map_append, lines]
  rfl

theorem valueForm_closed (form : PendingForm option ls) : ValueForm option (closed ls) := by
  obtain ⟨first, rest, form, lines⟩ := form
  obtain ⟨kept, front, back, same⟩ := exists_trimRight form.trimmed
  exact ⟨first, kept, form.of_subset front.subset, back, (closed_points lines).trans same⟩

end Thermostat.Settings
