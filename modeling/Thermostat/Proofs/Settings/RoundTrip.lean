import Thermostat.Proofs.Settings.Rereading

/-! The round trip of settings: what was written is read as it was, section by section. -/
namespace Thermostat.Settings

def Store.change (s : Store) (t : Target) (f : Options → Options) : Store :=
  match t with
  | .nowhere => s
  | .defaults => { s with defaults := f s.defaults }
  | .inSection name =>
    { s with sections := Entries.set name (f ((Entries.get? s.sections name).getD [])) s.sections }

/-- Sections laid over others, the options of each set one after the other. -/
def overlay (below sections : Entries Text Options) : Entries Text Options :=
  sections.foldl
    (fun done e => Entries.set e.1 (Entries.setAll ((Entries.get? done e.1).getD []) e.2) done) below

theorem Store.change_change (s : Store) (t : Target) (f g : Options → Options) :
    (s.change t f).change t g = s.change t fun os => g (f os) := by
  cases t with
  | nowhere => rfl
  | defaults => rfl
  | inSection name =>
    simp only [change, Entries.get?_set_self, Entries.set_set, Option.getD_some]

theorem Store.change_id {s : Store} {t : Target}
    (known : ∀ name, t = .inSection name → name ∈ s.sections.map (·.1)) :
    s.change t id = s := by
  cases t with
  | nowhere => rfl
  | defaults => rfl
  | inSection name =>
    obtain ⟨os, found⟩ := Option.isSome_iff_exists.mp
      (Entries.get?_isSome_iff.mpr (known name rfl))
    simp only [change, found, Option.getD_some, id_eq, Entries.set_of_get? found]

namespace Reading

variable {r r' : Reading} {source : Path} {option : Text} {os : Options}

/-! ## Settings that a state stands for -/

theorem finish_update {f : Pending → Pending} {g : Options → Options}
    (closes : ∀ os : Pending, (f os).map (fun e => (e.1, closed e.2)) =
      g (os.map fun e => (e.1, closed e.2))) :
    (r.update f).finish = r.finish.change r.target g := by
  cases target : r.target with
  | nowhere => simp [update, target, Store.change]
  | defaults => simp [update, target, finish_eq, Store.change, closes]
  | inSection name =>
    simp only [update, target, finish_eq, Store.change, Entries.map_set, Entries.get?_map, closes]
    cases Entries.get? r.sections name <;> rfl

theorem finish_hold (ls : List Text) :
    (r.hold option ls).finish = r.finish.change r.target (Entries.set option (closed ls)) :=
  finish_update fun os => Entries.map_set closed os option ls

theorem opened_hold (somewhere : r.target ≠ .nowhere) (ls : List Text) : (r.hold option ls).Opened := by
  intro o held
  rw [hold, update_option] at held
  rw [hold, current_update (by exact somewhere), Entries.mem_names_set]
  exact Or.inl (Option.some.inj held).symm

/-- An empty line changes no value. -/
theorem finish_extend_blank (opened : r.Opened) : (r.extend "").finish = r.finish := by
  by_cases isOpen : r.isOpen = true
  · obtain ⟨somewhere, o, held, -⟩ := isOpen_iff.mp isOpen
    obtain ⟨ls, found⟩ := Option.isSome_iff_exists.mp (Entries.get?_isSome_iff.mpr (opened o held))
    rw [extend_eq held isOpen, found, Option.getD_some,
      finish_update fun os => Entries.map_set closed os o _, closed_blank,
      ← finish_update fun os => Entries.map_set closed os o ls, update_set_self found]
  · rw [extend_of_not_isOpen isOpen]

/-! ## Sections -/

/-- What reading options of a section leads to: their names are taken in the section, and the settings
are those before with these options set. -/
structure Follows (r r' : Reading) (os : Options) : Prop where
  target : r'.target = r.target
  headers : r'.headers = r.headers
  malformed : r'.malformed = r.malformed
  options : ∀ e ∈ r'.options, e ∈ r.options ∨ e.1 = r.targetName
  finish : r'.finish = r.finish.change r.target (Entries.setAll · os)

theorem passes_options (form : OptionsForm ValueForm os) (somewhere : r.target ≠ .nowhere)
    (fresh : ∀ e ∈ os, (r.targetName, e.1) ∉ r.options) (opened : r.Opened)
    (same : r.finish.change r.target id = r.finish) :
    ∃ r', Passes source r
        (os.flatMap fun e => (e.1 ++ " = " ++ Store.writeValue e.2 ++ "\n" : Text).points) r' ∧
      r.Follows r' os ∧ r'.Opened := by
  induction os generalizing r with
  | nil => exact ⟨r, .nil source r, ⟨rfl, rfl, rfl, fun e => Or.inl, same.symm⟩, opened⟩
  | cons e os ih =>
    obtain ⟨first, fresh⟩ := List.forall_mem_cons.mp fresh
    obtain ⟨other, -⟩ := List.nodup_cons.mp form.nodup
    obtain ⟨ls, value, passes⟩ := passes_option (form.names e List.mem_cons_self)
      (form.values e List.mem_cons_self) somewhere first
    have target : (r.hold e.1 ls).target = r.target := update_target _
    have options : (r.hold e.1 ls).options = (r.targetName, e.1) :: r.options := update_options _
    have targetName : (r.hold e.1 ls).targetName = r.targetName := by
      rw [Reading.targetName, target, ← Reading.targetName]
    have held : (r.hold e.1 ls).finish = r.finish.change r.target (Entries.set e.1 e.2) :=
      value ▸ finish_hold ls
    -- The others begin where this one leads to, with its name taken.
    obtain ⟨r', passes', follows, opened'⟩ := ih (r := r.hold e.1 ls) form.tail (target ▸ somewhere)
      (fun x mem taken => by
        rw [targetName, options, List.mem_cons, Prod.mk.injEq] at taken
        rcases taken with ⟨-, again⟩ | old
        · exact other (List.mem_map.mpr ⟨x, mem, again⟩)
        · exact fresh x mem old)
      (opened_hold somewhere ls) (by rw [held, target, Store.change_change]; rfl)
    refine ⟨r', passes.append passes', ⟨follows.target.trans target,
      follows.headers.trans (update_headers _), follows.malformed.trans (update_malformed _),
      fun x mem => ?_, ?_⟩, opened'⟩
    · rcases follows.options x mem with old | new
      · rw [options, List.mem_cons] at old
        rcases old with rfl | old
        · exact Or.inr rfl
        · exact Or.inl old
      · exact Or.inr (new.trans targetName)
    · rw [follows.finish, held, target, Store.change_change]
      rfl

theorem Follows.blank (follows : r.Follows r' os) (opened : r'.Opened) :
    r.Follows (r'.extend "") os := by
  have finish := (finish_extend_blank opened).trans follows.finish
  rcases r'.extend_eq_or "" with same | ⟨f, changed⟩
  · rwa [same]
  · rw [changed] at finish ⊢
    exact ⟨(update_target f).trans follows.target, (update_headers f).trans follows.headers,
      (update_malformed f).trans follows.malformed,
      fun e mem => follows.options e (update_options f ▸ mem), finish⟩

theorem points_writeSection (name : Text) (os : Options) :
    (Store.writeSection name os).flatMap Text.points =
      ((.char '[' :: (name.points ++ [.char ']'])) ++ [.char '\n']) ++
        ((os.flatMap fun e => (e.1 ++ " = " ++ Store.writeValue e.2 ++ "\n" : Text).points) ++
          [.char '\n']) := by
  have header : ("[" ++ name ++ "]\n" : Text).points =
      (.char '[' :: (name.points ++ [.char ']'])) ++ [.char '\n'] := by
    change [.char '['] ++ name.points ++ [.char ']', .char '\n'] = _
    simp
  have feed : (Text.ofString "\n").points = [.char '\n'] := rfl
  simp only [Store.writeSection, List.flatMap_append, List.flatMap_cons, List.flatMap_nil, header,
    List.flatMap_map, feed, List.append_nil, List.append_assoc]

theorem passes_header {name : Text} {entered : Reading} (inline : ∀ p ∈ name.points, Inline p)
    (nonempty : name.points ≠ [])
    (enters : ∀ number, ({ r with indent := 0 } : Reading).enter source number name = .ok entered) :
    Passes source r ((.char '[' :: (name.points ++ [.char ']'])) ++ [.char '\n']) entered := by
  have brackets : ∀ p ∈ [CodePoint.char '[', .char ']'], Inline p := by decide
  refine passes_line (fun p mem => ?_) fun number => ?_
  · rw [List.mem_cons, List.mem_append] at mem
    rcases mem with rfl | name | closes
    · exact brackets _ List.mem_cons_self
    · exact inline p name
    · exact brackets p (List.mem_cons_of_mem _ closes)
  · have trimmed : Text.Trimmed (.char '[' :: (name.points ++ [.char ']'])) := by
      refine ⟨fun p head => ?_, fun p last => ?_⟩
      · cases head
        decide
      · rw [← List.cons_append, List.getLast?_append_of_ne_nil _ (List.cons_ne_nil _ _)] at last
        cases last
        decide
    have header : header? (.char '[' :: (name.points ++ [.char ']'])) = some name := by
      rw [header?_bracket List.not_mem_nil, if_neg (by simpa using nonempty)]
    have trim := (Text.trimPoints_append (b := [.char '\n']) (by decide)).trans trimmed.trimPoints_eq
    rw [line_header trim (by simp [Comments]) (List.cons_ne_nil _ _) rfl (by decide) header]
    exact enters number

/-- A section that was written is read from its header to the empty line behind its options. -/
theorem passes_section {name : Text} {entered : Reading} (inline : ∀ p ∈ name.points, Inline p)
    (nonempty : name.points ≠ []) (form : OptionsForm ValueForm os)
    (enters : ∀ number, ({ r with indent := 0 } : Reading).enter source number name = .ok entered)
    (somewhere : entered.target ≠ .nowhere) (closed : entered.option = none)
    (fresh : ∀ e ∈ os, (entered.targetName, e.1) ∉ entered.options)
    (same : entered.finish.change entered.target id = entered.finish) :
    ∃ r', Passes source r ((Store.writeSection name os).flatMap Text.points) r' ∧
      entered.Follows r' os := by
  have opened : entered.Opened := by
    intro o held
    rw [closed] at held
    cases held
  obtain ⟨r', passes, follows, opened⟩ := passes_options form somewhere fresh opened same
  have blank : Passes source r' ([] ++ [.char '\n']) (r'.extend "") :=
    passes_line nofun fun number => line_blank rfl
  refine ⟨r'.extend "", ?_, follows.blank opened⟩
  rw [points_writeSection]
  exact (passes_header inline nonempty enters).append (passes.append blank)

def enterSection (r : Reading) (name : Text) : Reading :=
  { r with
    indent := 0
    sections := if Entries.has r.sections name then r.sections else r.sections ++ [(name, [])]
    target := .inSection name, option := none, headers := name :: r.headers }

theorem enter_section {name : Text} {number : Nat} (other : name ≠ defaultsName)
    (fresh : name ∉ r.headers) :
    ({ r with indent := 0 } : Reading).enter source number name = .ok (r.enterSection name) :=
  enter_eq_ok_iff.mpr (Or.inr ⟨other, fresh, rfl⟩)

/-- Whether a section was there before its header does not matter once it is changed. -/
theorem finish_enterSection (r : Reading) (name : Text) (f : Options → Options) :
    (r.enterSection name).finish.change (.inSection name) f = r.finish.change (.inSection name) f := by
  by_cases known : Entries.has r.sections name = true
  · simp only [enterSection, known, if_true, finish_eq]
  · have absent : name ∉ r.finish.sections.map (·.1) := by
      rw [finish_eq, List.map_map]
      exact fun mem => known (Entries.has_iff.mpr mem)
    have sections : (r.enterSection name).finish =
        { r.finish with sections := r.finish.sections ++ [(name, [])] } := by
      simp [enterSection, known, finish_eq]
    -- A new section comes last, and setting its options would have put it there as well.
    have nothing := Entries.get?_eq_none_iff.mpr absent
    simp only [sections, Store.change, Entries.get?_append, nothing, Option.none_or, Entries.get?_cons,
      if_true, Option.getD_some, Option.getD_none, Entries.set_append_cons absent,
      Entries.set_of_not_mem absent]

theorem finish_enterSection_id (r : Reading) (name : Text) :
    (r.enterSection name).finish.change (.inSection name) id = (r.enterSection name).finish := by
  refine Store.change_id fun other same => ?_
  cases same
  rw [finish_eq, List.map_map, enterSection]
  dsimp only
  split
  · next known => exact Entries.has_iff.mp known
  · simp

theorem passes_sections (source : Path) {sections : Entries Text Options}
    (nodup : (sections.map (·.1)).Nodup) (named : ∀ e ∈ sections, HeaderForm e.1)
    (forms : ∀ e ∈ sections, OptionsForm ValueForm e.2)
    (headers : ∀ e ∈ sections, e.1 ∉ r.headers)
    (options : ∀ e ∈ sections, ∀ o, (e.1, o) ∉ r.options) :
    ∃ r', Passes source r
        (sections.flatMap fun e => (Store.writeSection e.1 e.2).flatMap Text.points) r' ∧
      r'.malformed = r.malformed ∧
      r'.finish = ⟨r.finish.defaults, overlay r.finish.sections sections⟩ := by
  induction sections generalizing r with
  | nil => exact ⟨r, .nil source r, rfl, rfl⟩
  | cons e sections ih =>
    obtain ⟨once, nodup⟩ := List.nodup_cons.mp nodup
    obtain ⟨first, named⟩ := List.forall_mem_cons.mp named
    obtain ⟨form, forms⟩ := List.forall_mem_cons.mp forms
    obtain ⟨fresh, headers⟩ := List.forall_mem_cons.mp headers
    obtain ⟨free, options⟩ := List.forall_mem_cons.mp options
    obtain ⟨next, passes, follows⟩ := passes_section first.inline first.nonempty form
      (fun _ => enter_section first.notDefaults fresh) (by simp [enterSection]) rfl
      (fun o _ => free o.1) (finish_enterSection_id r e.1)
    have finish := follows.finish.trans (finish_enterSection r e.1 _)
    have other {x : Text × Options} (mem : x ∈ sections) : x.1 ≠ e.1 := fun same =>
      once (List.mem_map.mpr ⟨x, mem, same⟩)
    obtain ⟨last, passes', malformed, finish'⟩ := ih (r := next) nodup named forms
      (fun x mem taken => by
        rw [follows.headers] at taken
        rcases List.mem_cons.mp taken with same | old
        · exact other mem same
        · exact headers x mem old)
      (fun x mem o taken => by
        rcases follows.options _ taken with old | same
        · exact options x mem o old
        · exact other mem same)
    refine ⟨last, passes.append passes', malformed.trans follows.malformed, ?_⟩
    rw [finish', finish]
    rfl

/-! ## The whole text -/

theorem finish_start : (start .initial).finish = .initial := by decide +kernel

def enterDefaults (r : Reading) : Reading := { r with indent := 0, target := .defaults, option := none }

/-- The defaults are read as they were written, or not at all where there are none. -/
theorem passes_defaults (source : Path) {defaults : Options} (form : OptionsForm ValueForm defaults) :
    ∃ r, Passes source (start .initial) ((if defaults.isEmpty then []
        else Store.writeSection defaultsName defaults).flatMap Text.points) r ∧
      r.malformed = [] ∧ r.headers = [] ∧ (∀ e ∈ r.options, e.1 = defaultsName) ∧
      r.finish = ⟨defaults, Store.initial.sections⟩ := by
  split
  · next none =>
    rw [List.isEmpty_iff.mp none]
    exact ⟨start .initial, .nil source _, rfl, rfl, nofun, finish_start⟩
  · have inline : ∀ p ∈ defaultsName.points, Inline p := by decide
    have enters (number : Nat) : ({ start .initial with indent := 0 } : Reading).enter source number
        defaultsName = .ok (start .initial).enterDefaults := rfl
    obtain ⟨r, passes, follows⟩ :=
      passes_section inline (by decide) form enters (by decide) rfl nofun rfl
    refine ⟨r, passes, follows.malformed, follows.headers, fun e mem => ?_, ?_⟩
    · rcases follows.options e mem with old | same
      · cases old
      · exact same
    · have set : Entries.setAll [] defaults = defaults :=
        Entries.setAll_eq List.nil_prefix form.nodup
      have entered : (start .initial).enterDefaults.finish = .initial := finish_start
      rw [follows.finish, entered]
      exact congrArg (Store.mk · Store.initial.sections) set

end Reading

/-- Sections laid over those that are there from the beginning keep their order and their options. -/
theorem overlay_eq {sections : Entries Text Options} (form : SectionsForm ValueForm sections) :
    overlay Store.initial.sections sections = sections :=
  @Entries.foldl_set_eq Text Options _ _ _ (fun old os => Entries.setAll (old.getD []) os) form.initial
    form.nodup fun e mem =>
      Entries.setAll_eq (form.initialOptions e mem) (form.options e mem).nodup

/-- What was written is read as it was. -/
theorem Store.read_write {s : Store} (form : s.Form) (source : Path) :
    Store.initial.read source (Text.join s.write) = .ok s := by
  obtain ⟨r, passes, sound, headers, options, finish⟩ :=
    Reading.passes_defaults source form.defaults
  obtain ⟨r', passes', malformed, finish'⟩ := Reading.passes_sections source (r := r)
    form.sections.nodup form.sections.names form.sections.options
    (fun e _ => by rw [headers]; exact List.not_mem_nil)
    (fun e mem o taken => (form.sections.names e mem).notDefaults (options _ taken))
  have all : (Text.join s.write).points = (if s.defaults.isEmpty then []
        else Store.writeSection defaultsName s.defaults).flatMap Text.points ++
      s.sections.flatMap fun e => (Store.writeSection e.1 e.2).flatMap Text.points := by
    rw [Text.join, Store.write, List.flatMap_append, List.flatMap_assoc]
  have lines : (Reading.start .initial).lines source 1 (linesOf (Text.join s.write).points) =
      .ok r' := by
    rw [all]
    exact (passes.append passes').lines_eq 1
  have whole : r'.finish = s := by
    rw [finish', finish]
    exact congrArg (Store.mk s.defaults) (overlay_eq form.sections)
  have reads := (Reading.lines_sound_iff.mp ⟨lines, malformed.trans sound⟩).2
  exact Store.read_eq_ok_iff.mpr ⟨r', reads, whole⟩

end Thermostat.Settings
