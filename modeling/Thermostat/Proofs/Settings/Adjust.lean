import Thermostat.Proofs.Settings.ReadForm
import Thermostat.Settings.Config

/-! The form of settings that were read and then changed, one option after the other. -/
namespace Thermostat.Settings

/-- The options that are there from the beginning, each behind the name of its section. -/
def adjustable : List (Text × Text) :=
  [("ecobee", "temperature_scale"), ("logging", "level"), ("logging", "path"),
   ("logging", "log_requests"), ("logging", "loggers")]

theorem form_of_adjustable {name option : Text} (mem : (name, option) ∈ adjustable) :
    OptionForm option ∧ option.points.head? ≠ some (.char '[') := by
  have check : ∀ e ∈ adjustable, e.2.points ≠ [] ∧ (∀ p ∈ e.2.points, Inline p) ∧
      Text.trimPoints e.2.points = e.2.points ∧ ¬ Comments e.2.points ∧
      (∀ p ∈ e.2.points, p ≠ .char '=' ∧ p ≠ .char ':') ∧ optionName e.2 = e.2 ∧
      e.2.points.head? ≠ some (.char '[') := by
    decide +kernel
  obtain ⟨nonempty, inline, trimmed, noComment, noDelimiter, lower, bracket⟩ := check _ mem
  exact ⟨⟨nonempty, inline, Text.trimmed_iff.mpr trimmed, noComment, noDelimiter, lower⟩, bracket⟩

theorem lines_single {option v : Text} (bracket : option.points.head? ≠ some (.char '['))
    (inline : ∀ p ∈ v.points, Inline p) (trimmed : Text.trim v = v) :
    LinesForm option v.points [] :=
  .single inline (Text.trimmed_iff.mpr (congrArg Text.points trimmed)) fun opens => absurd opens bracket

/-! ## The beginning -/

theorem form_initial :
    SectionsForm (fun option v => LinesForm option v.points []) Store.initial.sections := by
  have named : ∀ e ∈ Store.initial.sections, e.1.points ≠ [] ∧ e.1 ≠ defaultsName ∧
      (∀ p ∈ e.1.points, Inline p) ∧ (e.2.map (·.1)).Nodup ∧
      (Store.initial.options e.1).map (·.1) = e.2.map (·.1) := by
    decide +kernel
  have valued : ∀ e ∈ Store.initial.sections, ∀ o ∈ e.2, (e.1, o.1) ∈ adjustable ∧
      (∀ p ∈ o.2.points, Inline p) ∧ Text.trim o.2 = o.2 := by
    decide +kernel
  refine ⟨by decide +kernel, fun e mem => ?_, fun e mem => ⟨?_, fun o there => ?_, fun o there => ?_⟩,
    List.prefix_rfl, fun e mem => ?_⟩
  · obtain ⟨nonempty, notDefaults, inline, -⟩ := named e mem
    exact ⟨nonempty, notDefaults, inline⟩
  · exact (named e mem).2.2.2.1
  · exact (form_of_adjustable (valued e mem o there).1).1
  · obtain ⟨known, inline, trimmed⟩ := valued e mem o there
    exact lines_single (form_of_adjustable known).2 inline trimmed
  · rw [(named e mem).2.2.2.2]

theorem Reading.form_start : (Reading.start .initial).Form := by
  refine ⟨.nil, ?_, nofun⟩
  exact form_initial.map (f := fun v => [v]) fun _ _ form => form.pending

/-- Whatever text is read, what comes out has its form. -/
theorem Store.form_read {source : Path} {text : Text} {s : Store}
    (whole : ∀ p ∈ text.points, p.isHalf = false) (ok : Store.initial.read source text = .ok s) :
    s.Form := by
  obtain ⟨r, reads, rfl⟩ := Store.read_eq_ok_iff.mp ok
  have form := Reading.form_reads Reading.form_start nofun
    (fun ps mem => inline_content whole mem) reads
  exact form.1.finish

/-! ## Changes -/

/-- A setting that is to be changed: its section, its option and the new value. -/
structure Change where
  name : Text
  option : Text
  value : Text

/-- A change of an option that is there from the beginning, to a single line of characters without white
space around it. -/
structure Change.Plain (c : Change) : Prop where
  known : (c.name, c.option) ∈ adjustable
  inline : ∀ p ∈ c.value.points, Inline p
  trimmed : Text.trim c.value = c.value

def Store.adjust (s : Store) (c : Change) : Except Fault Store :=
  s.assign (.text (.text c.name)) (.text (.text c.option)) (.text (.text c.value))

/-- A change that is accepted sets the option in its section. -/
theorem Store.of_adjust {s t : Store} {c : Change} (known : (c.name, c.option) ∈ adjustable)
    (ok : s.adjust c = .ok t) : ∃ os, Entries.get? s.sections c.name = some os ∧
      t = { s with sections := Entries.set c.name (Entries.set c.option c.value os) s.sections } := by
  have ownName : ∀ e ∈ adjustable, (e.1.isEmpty || e.1 == defaultsName) = false := by decide
  have lower := (form_of_adjustable known).1.lower
  obtain ⟨-, -, ok⟩ := bind_eq_ok_iff.mp ok
  have own : standsForDefaults (.text (.text c.name)) = false := ownName _ known
  simp only [own, Label.content, Label.plain, Bool.false_eq_true, if_false] at ok
  cases found : Entries.get? s.sections c.name with
  | none => simp [setIn?, found] at ok
  | some os =>
    simp only [setIn?, found, Option.map_some, lower, Except.ok.injEq] at ok
    exact ⟨os, rfl, ok.symm⟩

theorem Store.Form.adjust {s t : Store} {c : Change} (form : s.Form) (plain : c.Plain)
    (ok : s.adjust c = .ok t) : t.Form := by
  obtain ⟨os, found, rfl⟩ := Store.of_adjust plain.known ok
  obtain ⟨named, bracket⟩ := form_of_adjustable plain.known
  have valued := (lines_single bracket plain.inline plain.trimmed).value
  have options := (form.sections.options _ (Entries.mem_of_get? found)).set named valued
  exact ⟨form.defaults, form.sections.set found options (Entries.names_prefix_set _ _ _)⟩

theorem Store.Form.adjustAll {s t : Store} {changes : List Change} (form : s.Form)
    (plain : ∀ c ∈ changes, c.Plain) (ok : changes.foldlM Store.adjust s = .ok t) : t.Form := by
  induction changes generalizing s with
  | nil =>
    cases ok
    exact form
  | cons c changes ih =>
    obtain ⟨first, plain⟩ := List.forall_mem_cons.mp plain
    obtain ⟨next, step, ok⟩ := bind_eq_ok_iff.mp ok
    exact ih (form.adjust first step) plain ok

end Thermostat.Settings
