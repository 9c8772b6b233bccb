import Thermostat.Proofs.CommandLine.Arguments
import Thermostat.Proofs.Settings.Faults
import Thermostat.Proofs.Settings.Saving

/-! How a run ends: by itself, with 0 or 1, just if nothing is wrong with the settings and with the log
file; otherwise with a failure of one of a few kinds. -/
namespace Thermostat

namespace Log

namespace Journal

variable {s : Journal}

theorem write_unconfigured (off : s.configured = false) (stamp : Text) (r : Record) :
    (s.write stamp r).1.configured = false ∧ (s.write stamp r).1.folder = s.folder := by
  unfold write
  dsimp only
  split
  · exact ⟨off, rfl⟩
  · rw [off]
    exact ⟨rfl, rfl⟩

/-- Before logging is configured no file changes. -/
theorem writeAll_unconfigured (off : s.configured = false) (stamp : Text) (records : List Record) :
    (s.writeAll stamp records).1.configured = false ∧
      (s.writeAll stamp records).1.folder = s.folder := by
  unfold writeAll
  refine List.foldlRecOn (motive := fun done : Journal × Text =>
    done.1.configured = false ∧ done.1.folder = s.folder) records _ ⟨off, rfl⟩ ?_
  rintro ⟨done, shown⟩ ⟨off, same⟩ r -
  obtain ⟨still, kept⟩ := write_unconfigured off stamp r
  exact ⟨still, kept.trans same⟩

/-- A log file is in the way of configuring just if it cannot be opened. -/
theorem configure_eq_none_iff {c : Settings} :
    (s.configure c).2 = none ↔ ∀ p, c.path = some p → ∃ place, (openFile s.folder p).2 = .ok place := by
  unfold configure
  dsimp only
  split
  · next none => simp [none]
  · next p named =>
    rw [named]
    cases opened : openFile s.folder p with
    | mk folder result =>
      cases result with
      | error o => simp [opened]
      | ok place => simp [opened]

end Journal

end Log

namespace CommandLine

variable {s : Settings.Store}

theorem showOptions_eq_none_iff {name : Text} {options : List Text} :
    (showOptions s name options).2 = none ↔ ∀ option ∈ options, ∃ v, s.value name option = .ok v := by
  induction options with
  | nil => exact iff_of_true rfl (List.forall_mem_nil _)
  | cons option rest ih =>
    rw [List.forall_mem_cons, ← ih, showOptions]
    split
    · next f failed => simp [failed]
    · next v value => simp [value]

theorem showSections_eq_none_iff (s : Settings.Store) (names : List Text) :
    (showSections s names).2 = none ↔
      ∀ name ∈ names, ∀ option ∈ s.optionNames name, ∃ v, s.value name option = .ok v := by
  induction names with
  | nil => exact iff_of_true rfl (List.forall_mem_nil _)
  | cons name rest ih =>
    rw [List.forall_mem_cons, ← ih, ← showOptions_eq_none_iff, showSections]
    split
    · next shown f failed => simp [failed]
    · next shown clear => simp [clear]

theorem showOptions_kind {name : Text} {options : List Text} {f : Settings.Fault}
    (failed : (showOptions s name options).2 = some f) : f.Of Settings.referenceKinds := by
  induction options with
  | nil => cases failed
  | cons option rest ih =>
    rw [showOptions] at failed
    split at failed
    · next g fault =>
      cases failed
      exact s.value_failsIn name option f fault
    · exact ih failed

theorem showSections_kind {names : List Text} {f : Settings.Fault}
    (failed : (showSections s names).2 = some f) : f.Of Settings.referenceKinds := by
  induction names with
  | nil => cases failed
  | cons name rest ih =>
    rw [showSections] at failed
    split at failed
    · next shown g fault =>
      cases failed
      exact showOptions_kind (congrArg Prod.snd fault)
    · exact ih failed

/-- Whether a command can be carried out under settings: to show them all, each option of each section
must have a value, and to render a known action its arguments must be given as a text in which lists and
objects do not stand too deep in one another. -/
def Command.Clear (depth : Nat) (s : Settings.Store) : Command → Prop
  | .listActions => True
  | .showConfig =>
    ∀ name ∈ s.sections.map (·.1), ∀ option ∈ s.optionNames name, ∃ v, s.value name option = .ok v
  | .render action _ arguments =>
    findAction? action = none ∨ ∃ t, arguments = some t ∧ ¬ TooDeep depth action t

/-- Nothing is in the way of a run: the settings are read and resolve, the log file is opened, and the
command can be carried out. -/
structure Smooth (m : Machine) (folder : Folder) (i : Invocation) (s : Settings.Store)
    (logPath : Option Path) : Prop where
  loads : Settings.Store.load folder (i.source m.accounts) = .ok s
  resolves : s.Resolves m.accounts logPath
  opens : ∀ p, logPath = some p → ∃ place, (Log.openFile folder p).2 = .ok place
  clear : i.command.Clear m.depth s

def Undisturbed (m : Machine) (folder : Folder) (i : Invocation) : Prop :=
  ∃ s logPath, Smooth m folder i s logPath

/-- Kinds of all failures that end a run. -/
def failureKinds : List String := Settings.loadKinds ++ ["TypeError", "RecursionError"]

/-- A run ends by itself just if nothing is in its way, and with 1 only where it renders. Otherwise it
ends with a failure of a known kind. -/
structure Ends (clear : Prop) (command : Command) (ending : Ending) : Prop where
  finishes : ending = .finished 0 ∨ ending = .finished 1 ↔ clear
  well : clear → (∀ action selection arguments, command ≠ .render action selection arguments) →
    ending = .finished 0
  fails : ¬ clear → ∃ kind message, ending = .failed kind message ∧ kind ∈ failureKinds

namespace Ends

variable {clear other : Prop} {command : Command} {ending : Ending}

theorem of_failed {kind : String} {message : Text} (none : ¬ clear) (known : kind ∈ failureKinds) :
    Ends clear command (.failed kind message) := by
  refine ⟨iff_of_false ?_ none, fun holds => absurd holds none, fun _ => ⟨kind, message, rfl, known⟩⟩
  rintro (finished | finished)
  · cases finished
  · cases finished

theorem of_well (holds : clear) : Ends clear command (.finished 0) :=
  ⟨iff_of_true (Or.inl rfl) holds, fun _ _ => rfl, fun none => absurd holds none⟩

theorem of_render {action : Text} {selection arguments : Option Text} (holds : clear)
    (finished : ending = .finished 0 ∨ ending = .finished 1) :
    Ends clear (.render action selection arguments) ending :=
  ⟨iff_of_true finished holds, fun _ plain => absurd rfl (plain _ _ _), fun none => absurd holds none⟩

theorem congr (same : clear ↔ other) (ends : Ends clear command ending) :
    Ends other command ending := by
  rwa [← propext same]

end Ends

variable {depth : Nat} {scale : TemperatureScale} {action : Text} {selection arguments : Option Text}

/-- Rendering an action ends by itself, whatever becomes of the request, unless the text of the arguments
is too deep. Without a text for those of a known action it fails as well. -/
theorem render_ends (depth : Nat) (scale : TemperatureScale) (action : Text)
    (selection arguments : Option Text) :
    Ends (findAction? action = none ∨ ∃ t, arguments = some t ∧ ¬ TooDeep depth action t)
      (.render action selection arguments) (render depth scale action selection arguments).2.1 := by
  unfold render
  split
  · next found => exact .of_render (Or.inl found) (Or.inr rfl)
  · next a found missing =>
    have none : arguments = none := Option.map_eq_none_iff.mp missing
    refine .of_failed ?_ (List.mem_append_right _ (by decide))
    rintro (unknown | ⟨t, given, -⟩)
    · cases found.symm.trans unknown
    · cases none.symm.trans given
  · next a m found complained =>
    obtain ⟨t, given, complaint⟩ := Option.map_eq_some_iff.mp complained
    refine .of_render (Or.inr ⟨t, given, ?_⟩) (Or.inr rfl)
    rintro ⟨-, c, deep⟩
    cases complaint.symm.trans (readArguments_eq_failure_iff.mpr ⟨c, deep, rfl, rfl⟩)
  · next a kind m found failed =>
    obtain ⟨t, given, failure⟩ := Option.map_eq_some_iff.mp failed
    obtain ⟨c, deep, rfl, rfl⟩ := readArguments_eq_failure_iff.mp failure
    refine .of_failed ?_ (List.mem_append_right _ (by decide))
    rintro (unknown | ⟨t', given', shallow⟩)
    · cases found.symm.trans unknown
    · cases given.symm.trans given'
      exact shallow ⟨⟨a, findAction?_eq_some_iff.mp found⟩, c, deep⟩
  · next a named found read =>
    obtain ⟨t, given, object⟩ := Option.map_eq_some_iff.mp read
    refine .of_render (Or.inr ⟨t, given, ?_⟩) ?_
    · rintro ⟨-, c, deep⟩
      cases object.symm.trans (readArguments_eq_failure_iff.mpr ⟨c, deep, rfl, rfl⟩)
    · dsimp only
      split
      · exact Or.inr rfl
      · exact Or.inl rfl
      · exact Or.inr rfl

theorem perform_ends (m : Machine) (p : Progress) (c : Settings.Config) (command : Command) :
    Ends (command.Clear m.depth c.store) command (perform m p c command).ending := by
  cases command with
  | listActions => exact .of_well trivial
  | showConfig =>
    have clear := showSections_eq_none_iff c.store (c.store.sections.map (·.1))
    unfold perform
    dsimp only
    split
    · next shown none => exact .of_well (clear.mp (congrArg Prod.snd none))
    · next shown f fault =>
      have failed : (showSections c.store (c.store.sections.map (·.1))).2 = some f :=
        congrArg Prod.snd fault
      refine .of_failed ?_ ?_
      · intro holds
        rw [clear.mpr holds] at failed
        cases failed
      · have kind : f.label ∈ Settings.referenceKinds := showSections_kind failed
        simp only [failureKinds, Settings.loadKinds, List.mem_append]
        exact Or.inl (Or.inl (Or.inr (Or.inl kind)))
  | render action selection arguments => exact render_ends m.depth c.scale action selection arguments

variable {m : Machine} {folder : Folder} {args : List Text} {i : Invocation} {s : Settings.Store}
  {logPath : Option Path} {records : List Log.Record} {c : Settings.Config}

theorem Smooth.load (smooth : Smooth m folder i s logPath) :
    ∃ records c, Settings.Config.load m.accounts folder (i.source m.accounts) = (records, .ok c) ∧
      c.store = s ∧ c.logPath = logPath := by
  obtain ⟨records, c, config, place⟩ :=
    (Settings.Store.config_ok_iff (i.source m.accounts)).mpr smooth.resolves
  obtain ⟨rfl, -⟩ := Settings.Store.of_config config
  exact ⟨records, c, Settings.Config.load_eq_ok_iff.mpr ⟨smooth.loads, config⟩, rfl, place⟩

/-- Once a configuration is loaded the rest of a run depends on it. -/
theorem undisturbed_iff
    (loaded : Settings.Config.load m.accounts folder (i.source m.accounts) = (records, .ok c)) :
    Undisturbed m folder i ↔
      (∀ p, c.logPath = some p → ∃ place, (Log.openFile folder p).2 = .ok place) ∧
        i.command.Clear m.depth c.store := by
  constructor
  · rintro ⟨s, logPath, smooth⟩
    obtain ⟨records', c', loaded', rfl, rfl⟩ := smooth.load
    cases loaded.symm.trans loaded'
    exact ⟨smooth.opens, smooth.clear⟩
  · rintro ⟨opens, clear⟩
    obtain ⟨store, config⟩ := Settings.Config.load_eq_ok_iff.mp loaded
    have resolves := (Settings.Store.config_ok_iff _).mp ⟨records, c, config, rfl⟩
    exact ⟨c.store, c.logPath, store, resolves, opens, clear⟩

/-- How a run ends whose command line can be parsed, whatever the files hold. -/
theorem run_ends (m : Machine) (folder : Folder)
    (parsed : parseInvocation (Settings.defaultSource m.accounts) args = .ok i) :
    Ends (Undisturbed m folder i) i.command (run m folder args).ending := by
  unfold run
  rw [parsed]
  dsimp only
  cases loaded : Settings.Config.load m.accounts folder (i.source m.accounts) with
  | mk records result =>
    cases result with
    | error e =>
      have kind := Settings.Config.load_failsIn folder (i.source m.accounts) e (congrArg Prod.snd loaded)
      refine .of_failed ?_ (List.mem_append_left _ kind)
      rintro ⟨s, logPath, smooth⟩
      obtain ⟨records', c, found, -⟩ := smooth.load
      cases loaded.symm.trans found
    | ok c =>
      have untouched : ((⟨.initial folder, ""⟩ : Progress).log m.stamp records).journal.folder = folder :=
        (Log.Journal.writeAll_unconfigured rfl m.stamp records).2
      have opened := Log.Journal.configure_eq_none_iff
        (s := ((⟨.initial folder, ""⟩ : Progress).log m.stamp records).journal) (c := c.logSettings)
      rw [untouched] at opened
      dsimp only
      cases configured : ((⟨.initial folder, ""⟩ : Progress).log m.stamp records).journal.configure
          c.logSettings with
      | mk journal obstacle =>
        rw [configured] at opened
        cases obstacle with
        | some o =>
          refine .of_failed ?_ ?_
          · intro smooth
            cases opened.mpr ((undisturbed_iff loaded).mp smooth).1
          · exact List.mem_append_left _ (List.mem_append_right _ (Settings.Obstacle.label_mem o))
        | none =>
          refine (perform_ends m _ c i.command).congr ?_
          rw [undisturbed_iff loaded]
          exact (and_iff_right (opened.mp rfl)).symm

section Samples

/-- Parses a command line where the usual file of settings is that of the machine. -/
def parseSample (args : List Text) : Except Exit Invocation :=
  parseInvocation (Settings.defaultSource sampleMachine.accounts) args

/-- Without a file of settings the list of actions is shown. -/
theorem run_ends_listing :
    parseSample ["list-actions"] = .ok ⟨none, .listActions⟩ ∧
      Undisturbed sampleMachine .empty ⟨none, .listActions⟩ ∧
      (run sampleMachine .empty ["list-actions"]).ending = .finished 0 := by
  have parsed : parseSample ["list-actions"] = .ok ⟨none, .listActions⟩ := by rfl
  have resolves : Settings.Store.initial.Resolves sampleMachine.accounts none :=
    ⟨⟨_, rfl⟩, ⟨_, rfl⟩, ⟨_, rfl, rfl⟩, ⟨_, _, rfl, rfl⟩, ⟨_, rfl⟩⟩
  have undisturbed : Undisturbed sampleMachine .empty ⟨none, .listActions⟩ :=
    ⟨.initial, none, by rfl, resolves, nofun, trivial⟩
  exact ⟨parsed, undisturbed, (run_ends sampleMachine .empty parsed).well undisturbed nofun⟩

def undecidedCall : List Text := ["-c", "ecobee-actions.cfg", "list-actions"]

def undecidedSource : Path := ⟨"", ["ecobee-actions.cfg"]⟩

/-- Settings that say neither yes nor no to the trace of requests. -/
def undecidedFolder : Folder :=
  { Folder.empty with files := [(undecidedSource, "[logging]\nlog_requests = maybe\n")] }

/-- A word that is neither yes nor no ends the run with a failure, though it has nothing to do with the
command. -/
theorem run_fails_undecided :
    parseSample undecidedCall = .ok ⟨some "ecobee-actions.cfg", .listActions⟩ ∧
      (run sampleMachine undecidedFolder undecidedCall).ending =
        .failed "ValueError" "Not a boolean: maybe" := by
  have parsed : parseSample undecidedCall = .ok ⟨some "ecobee-actions.cfg", .listActions⟩ := by rfl
  have loaded : Settings.Config.load sampleMachine.accounts undecidedFolder undecidedSource =
      ([], .error (.fault (.notBoolean "maybe"))) := by rfl
  have source : (⟨some "ecobee-actions.cfg", .listActions⟩ : Invocation).source
      sampleMachine.accounts = undecidedSource := by
    decide
  refine ⟨parsed, ?_⟩
  unfold run
  rw [← parseSample, parsed]
  dsimp only
  rw [source, loaded]
  rfl

end Samples

end CommandLine

end Thermostat
