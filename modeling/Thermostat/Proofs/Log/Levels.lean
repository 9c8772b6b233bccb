import Mathlib.Data.List.Induction
import Thermostat.Log.Journal
import Thermostat.Proofs.Entries

/-! Own levels of loggers: what setting one of them does to all, and what configuring does. -/
namespace Thermostat.Log

/-- Whether two names are names of one logger. The logger at the top has two names. -/
def isSame (a b : Text) : Bool := (isRoot a && isRoot b) || a == b

/-- The level that overrides give to a logger; of several entries for it the last one counts. -/
def given? (overrides : Entries Text Text) (name : Text) : Option Level :=
  (overrides.reverse.find? fun o => isSame o.1 name).map fun o => Level.ofText o.2

/-- The level that settings give to a logger: that of their overrides, or for the logger of requests the
level that holds back the trace unless it is asked for. -/
def Settings.gives? (c : Settings) (name : Text) : Option Level :=
  (given? c.overrides name).or
    (if name = requestLogger then some (if c.logRequests then Level.notset else Level.info) else none)

theorem isRoot_rootName : isRoot rootName = true := by decide

theorem isRoot_requestLogger : isRoot requestLogger = false := by decide

theorem isSame_of_isRoot {a b : Text} (top : isRoot a = true) : isSame a b = isRoot b := by
  by_cases same : a = b
  · subst same
    simp [isSame, top]
  · simp [isSame, top, same]

theorem isSame_of_not_isRoot {a b : Text} (below : isRoot a = false) : isSame a b = (a == b) := by
  simp [isSame, below]

theorem isSame_comm (a b : Text) : isSame a b = isSame b a := by
  rw [isSame, isSame, Bool.and_comm, BEq.comm]

namespace Hierarchy

variable {h : Hierarchy}

theorem ownLevel_rootName (h : Hierarchy) : h.ownLevel rootName = h.root := by
  rw [ownLevel, if_pos isRoot_rootName]

theorem ownLevel_initial {name : Text} (below : isRoot name = false) :
    initial.ownLevel name = Level.notset := by
  rw [ownLevel, below]
  rfl

@[simp] theorem root_add (h : Hierarchy) (name : Text) : (h.add name).root = h.root := by
  unfold add
  split <;> rfl

/-- A logger that is made known has no level of its own, as before. -/
@[simp] theorem ownLevel_add (h : Hierarchy) (name other : Text) :
    (h.add name).ownLevel other = h.ownLevel other := by
  rw [ownLevel, ownLevel, root_add]
  congr 1
  unfold add
  split
  · rfl
  · next new =>
    have fresh : name ∉ h.loggers.map (·.1) := by
      simp only [Bool.or_eq_true, not_or] at new
      exact fun mem => new.2 (Entries.has_iff.mpr mem)
    rw [Entries.get?_append]
    cases found : Entries.get? h.loggers other with
    | some level => rfl
    | none =>
      rw [Option.none_or, Entries.get?_cons]
      split <;> rfl

/-- Setting a level sets that of one logger, under all its names. -/
theorem ownLevel_setLevel (h : Hierarchy) (name other : Text) (level : Level) :
    (h.setLevel name level).ownLevel other =
      if isSame name other then level else h.ownLevel other := by
  cases top : isRoot name with
  | true =>
    rw [isSame_of_isRoot top]
    simp only [setLevel, top, if_true, ownLevel]
    split <;> rfl
  | false =>
    rw [isSame_of_not_isRoot top]
    by_cases same : name = other
    · subst same
      simp [setLevel, ownLevel, top, Entries.get?_set_self]
    · have others := ownLevel_add h name other
      simp only [ownLevel, root_add] at others
      simp only [setLevel, top, ownLevel, Bool.false_eq_true, if_false, beq_iff_eq, same]
      rw [Entries.get?_set_of_ne _ _ (Ne.symm same)]
      exact others

theorem ownLevel_overrides (h : Hierarchy) (overrides : Entries Text Text) (name : Text) :
    (overrides.foldl (fun h o => h.setLevel o.1 (Level.ofText o.2)) h).ownLevel name =
      (given? overrides name).getD (h.ownLevel name) := by
  induction overrides using List.reverseRecOn with
  | nil => rfl
  | append_singleton earlier o ih =>
    rw [List.foldl_concat, ownLevel_setLevel, ih, given?, given?, List.reverse_concat,
      List.find?_cons]
    cases isSame o.1 name <;> rfl

end Hierarchy

namespace Journal

variable {s : Journal} {c : Settings} {name : Text}

theorem ownLevel_setLevels (s : Journal) (c : Settings) (name : Text) :
    (s.setLevels c).hierarchy.ownLevel name = (c.gives? name).getD (s.hierarchy.ownLevel name) := by
  rw [setLevels, Hierarchy.ownLevel_overrides, Hierarchy.ownLevel_setLevel,
    isSame_of_not_isRoot isRoot_requestLogger, Settings.gives?, Option.getD_or]
  congr 1
  by_cases requests : name = requestLogger
  · simp [requests]
  · simp [requests, Ne.symm requests]

/-- A journal that is being configured: its level at the top is set, and it has a console but no file. -/
def started (s : Journal) (c : Settings) : Journal :=
  { s with
    hierarchy := s.hierarchy.setLevel rootName (Level.ofText c.level), configured := true, file := none }

/-- Configuring goes without a file, breaks off at its file, or goes on with it. -/
theorem configure_cases (s : Journal) (c : Settings) :
    (c.path = none ∧ s.configure c = ((s.started c).setLevels c, none)) ∨
    (∃ p folder o, c.path = some p ∧ openFile s.folder p = (folder, .error o) ∧
      s.configure c = ({ s.started c with folder := folder }, some o)) ∨
    ∃ p folder place, c.path = some p ∧ openFile s.folder p = (folder, .ok place) ∧
      s.configure c = ({ s.started c with folder := folder, file := some place }.setLevels c, none) := by
  cases path : c.path with
  | none =>
    refine Or.inl ⟨rfl, ?_⟩
    simp only [configure, path]
    rfl
  | some p =>
    cases opened : openFile s.folder p with
    | mk folder result =>
      cases result with
      | error o =>
        refine Or.inr (Or.inl ⟨p, folder, o, rfl, opened, ?_⟩)
        simp only [configure, path, opened]
        rfl
      | ok place =>
        refine Or.inr (Or.inr ⟨p, folder, place, rfl, opened, ?_⟩)
        simp only [configure, path, opened]
        rfl

theorem ownLevel_started (s : Journal) (c : Settings) (name : Text) :
    (s.started c).hierarchy.ownLevel name =
      if isRoot name then Level.ofText c.level else s.hierarchy.ownLevel name := by
  rw [started, Hierarchy.ownLevel_setLevel, isSame_of_isRoot isRoot_rootName]

/-- Configuring sets the level at the top, and if it comes to its end, levels below it. -/
theorem ownLevel_configure (s : Journal) (c : Settings) (name : Text) :
    (s.configure c).1.hierarchy.ownLevel name =
      (if (s.configure c).2.isNone then c.gives? name else none).getD
        ((s.started c).hierarchy.ownLevel name) := by
  obtain ⟨-, eq⟩ | ⟨p, folder, o, -, -, eq⟩ | ⟨p, folder, place, -, -, eq⟩ := s.configure_cases c
  · rw [eq]
    exact ownLevel_setLevels (s.started c) c name
  · rw [eq]
    rfl
  · rw [eq]
    exact ownLevel_setLevels { s.started c with folder := folder, file := some place } c name

end Journal

end Thermostat.Log
