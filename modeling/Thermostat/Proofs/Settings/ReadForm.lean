import Mathlib.Data.List.Infix
import Thermostat.Proofs.Settings.Reading

/-! What is read has the form of settings: every line keeps it, unless it is malformed. -/
namespace Thermostat.Settings

namespace Reading

variable {r r' : Reading} {source : Path} {number : Nat} {ps : List CodePoint}

/-- A state between two lines whose options have their form, in a section that is there. -/
structure Form (r : Reading) : Prop where
  defaults : OptionsForm PendingForm r.defaults
  sections : SectionsForm PendingForm r.sections
  known : ∀ name, r.target = .inSection name → name ∈ r.sections.map (·.1)

/-- The option that a line can continue is there. -/
def Opened (r : Reading) : Prop := ∀ o, r.option = some o → o ∈ r.current.map (·.1)

/-! ## Beginning -/

theorem form_update {f : Pending → Pending} (form : r.Form)
    (options : OptionsForm PendingForm (f r.current))
    (names : r.current.map (·.1) <+: (f r.current).map (·.1)) : (r.update f).Form := by
  cases target : r.target with
  | nowhere => simpa [update, target] using form
  | defaults =>
    simp only [current, target] at options
    simp only [update, target]
    refine ⟨options, form.sections, fun name same => ?_⟩
    cases same
  | inSection name =>
    obtain ⟨os, known⟩ := Option.isSome_iff_exists.mp
      (Entries.get?_isSome_iff.mpr (form.known name target))
    simp only [current, target, known, Option.getD_some] at options names
    simp only [update, target, known, Option.getD_some]
    refine ⟨form.defaults, form.sections.set known options names, fun other same => ?_⟩
    rw [Entries.mem_names_set]
    exact Or.inr (form.known other (target.trans same))

theorem current_form (form : r.Form) : OptionsForm PendingForm r.current := by
  unfold current
  split
  · exact .nil
  · exact form.defaults
  · next name target =>
    obtain ⟨os, known⟩ := Option.isSome_iff_exists.mp
      (Entries.get?_isSome_iff.mpr (form.known name target))
    rw [known]
    exact form.sections.options _ (Entries.mem_of_get? known)

theorem form_set {o : Text} {ls : List Text} (form : r.Form) (named : OptionForm o)
    (lines : PendingForm o ls) : (r.update (Entries.set o ls)).Form :=
  form_update form ((current_form form).set named lines) (Entries.names_prefix_set _ _ _)

/-! ## Line by line -/

theorem form_extend {line : Text} (form : r.Form) (opened : r.Opened)
    (inline : ∀ p ∈ line.points, Inline p) (trimmed : Text.Trimmed line.points)
    (noComment : ¬ Comments line.points) : (r.extend line).Form ∧ (r.extend line).Opened := by
  by_cases isOpen : r.isOpen = true
  · obtain ⟨somewhere, o, option, -⟩ := isOpen_iff.mp isOpen
    obtain ⟨ls, found⟩ := Option.isSome_iff_exists.mp (Entries.get?_isSome_iff.mpr (opened o option))
    have mem := Entries.mem_of_get? found
    have options := current_form form
    rw [extend_eq option isOpen, found, Option.getD_some]
    refine ⟨form_set form (options.names _ mem) ?_, fun other same => ?_⟩
    · exact (options.values _ mem).extend inline trimmed noComment
    · rw [update_option, option, Option.some.injEq] at same
      rw [current_update somewhere, Entries.mem_names_set]
      exact Or.inl same.symm
  · rw [extend_of_not_isOpen isOpen]
    exact ⟨form, opened⟩

/-- The name of an option and the first line of its value, as one line gives them. -/
theorem form_of_cut {content name value : List CodePoint} (inline : ∀ p ∈ content, Inline p)
    (trimmed : Text.Trimmed content) (noComment : ¬ Comments content)
    (noHeader : header? content = none)
    (cut : Text.cutAt? (fun p => p == .char '=' || p == .char ':') content = some (name, value))
    (nonempty : Text.trimRightPoints name ≠ []) :
    OptionForm (optionName ⟨Text.trimRightPoints name⟩) ∧
      PendingForm (optionName ⟨Text.trimRightPoints name⟩) [⟨Text.trimPoints value⟩] := by
  obtain ⟨s, -, rfl, clean⟩ := Text.of_cutAt? cut
  obtain ⟨x, front, whole⟩ := List.exists_cons_of_ne_nil nonempty
  obtain ⟨blank, before⟩ := Text.trimRightPoints_isPrefix name
  rw [whole] at before ⊢
  have head : (x :: front).head? = (name ++ s :: value).head? := by rw [← before]; rfl
  have inside {p : CodePoint} (mem : p ∈ x :: front) : p ∈ name := by
    rw [← before]
    exact List.mem_append_left _ mem
  constructor
  · refine optionForm_optionName (List.cons_ne_nil _ _) (fun p mem => ?_)
      ⟨fun p first => ?_, fun p last => ?_⟩ ?_ fun p mem => ?_
    · exact inline p (List.mem_append_left _ (inside mem))
    · exact trimmed.front p (head ▸ first)
    · exact Text.getLast?_dropEnd (l := name) ((congrArg List.getLast? whole).trans last)
    · rwa [Comments, head]
    · simpa using clean p (inside mem)
  · refine (LinesForm.single (fun p mem => ?_) (Text.trimmed_trimPoints value) fun opens => ?_).pending
    · refine inline p (List.mem_append_right _ (List.mem_cons_of_mem _ ?_))
      exact Text.mem_of_mem_trimPoints mem
    · obtain ⟨bracket, closes⟩ := bracket_of_optionName opens
      have none := header?_eq_none_iff.mp noHeader (head ▸ bracket)
      rw [← before, List.append_assoc, List.cons_append, List.drop_succ_cons] at none
      refine ⟨fun mem => none ?_, fun mem => none ?_⟩
      · have there := closes mem
        rw [List.drop_succ_cons] at there
        exact (List.IsPrefix.drop (List.prefix_append front _) 1).subset there
      · have there := Text.mem_of_mem_trimPoints mem
        rw [← List.append_assoc]
        cases front ++ blank with
        | nil => exact there
        | cons y l => exact List.mem_append_right _ (List.mem_cons_of_mem _ there)

/-- Every line that has no fault keeps the form. -/
theorem form_does (form : r.Form) (opened : r.Opened) (inline : ∀ p ∈ Text.trimPoints ps, Inline p)
    (does : r.Does ps r') : r'.Form ∧ r'.Opened := by
  have trimmed := Text.trimmed_trimPoints ps
  cases does with
  | blank => exact form_extend form opened nofun Text.trimmed_nil (by decide)
  | comment => exact ⟨form, opened⟩
  | continued _ noComment => exact form_extend form opened inline trimmed noComment
  | defaults => exact ⟨⟨form.defaults, form.sections, nofun⟩, nofun⟩
  | @entered name _ header notDefaults =>
    obtain ⟨nonempty, inside⟩ := of_header? header
    have named : ∀ p ∈ name.points, Inline p := fun p mem => inline p (inside p mem)
    refine ⟨⟨form.defaults, ?_, fun other same => ?_⟩, nofun⟩
    · split
      · exact form.sections
      · next fresh =>
        rw [Entries.has_iff] at fresh
        exact form.sections.append fresh ⟨nonempty, notDefaults, named⟩
    · cases same
      split
      · next known => exact Entries.has_iff.mp known
      · simp
  | option begins noHeader somewhere cut nonempty =>
    obtain ⟨named, lines⟩ := form_of_cut inline trimmed begins.noComment noHeader cut nonempty
    refine ⟨form_set ⟨form.defaults, form.sections, form.known⟩ named lines, fun o same => ?_⟩
    rw [update_option] at same
    rw [current_update (by exact somewhere), Entries.mem_names_set]
    exact Or.inl (Option.some.inj same).symm

theorem form_reads {lines : List (List CodePoint)} (form : r.Form) (opened : r.Opened)
    (inline : ∀ ps ∈ lines, ∀ p ∈ Text.trimPoints ps, Inline p) (reads : r.Reads lines r') :
    r'.Form ∧ r'.Opened := by
  induction reads with
  | nil r => exact ⟨form, opened⟩
  | cons first later ih =>
    obtain ⟨front, inline⟩ := List.forall_mem_cons.mp inline
    obtain ⟨form, opened⟩ := form_does form opened front first
    exact ih form opened inline

theorem finish_eq : r.finish = ⟨r.defaults.map fun e => (e.1, closed e.2),
    r.sections.map fun e => (e.1, e.2.map fun o => (o.1, closed o.2))⟩ := rfl

end Reading

/-- Settings whose names and values have their form. -/
structure Store.Form (s : Store) : Prop where
  defaults : OptionsForm ValueForm s.defaults
  sections : SectionsForm ValueForm s.sections

theorem Reading.Form.finish {r : Reading} (form : r.Form) : r.finish.Form := by
  rw [finish_eq]
  have values (name : Text) (ls : List Text) (pending : PendingForm name ls) :=
    valueForm_closed pending
  exact ⟨form.defaults.map values, form.sections.map values⟩

end Thermostat.Settings
