import Thermostat.Proofs.Log.Inheritance

/-! Runs in which logging is configured again and again and records are logged, and the levels that all
loggers have after them. -/
namespace Thermostat.Log

/-- What happens to logging: it is configured, or a record is logged. -/
inductive Step
  | configure (c : Settings)
  | record (stamp : Text) (r : Record)

/-- Steps that log records at their times. -/
def Step.records (logged : List (Text × Record)) : List Step := logged.map fun l => .record l.1 l.2

/-- Beginnings of the name of the logger at the top. -/
def rootBeginnings : List Text := ["r", "ro", "roo"]

namespace Hierarchy

variable {h : Hierarchy} {name a : Text} {level : Level}

/-- The logger at the top is none of those below it. -/
def Separate (h : Hierarchy) : Prop := ∀ l ∈ h.loggers, isRoot l.1 = false

theorem separate_initial : initial.Separate := nofun

theorem Separate.add (apart : h.Separate) (name : Text) : (h.add name).Separate := by
  unfold Hierarchy.add
  split
  · exact apart
  · next new =>
    intro l mem
    rcases List.mem_append.mp mem with old | last
    · exact apart l old
    · rw [List.mem_singleton.mp last]
      simp only [Bool.or_eq_true, not_or] at new
      exact Bool.not_eq_true _ ▸ new.1

theorem Separate.setLevel (apart : h.Separate) (name : Text) (level : Level) :
    (h.setLevel name level).Separate := by
  unfold Hierarchy.setLevel
  split
  · exact apart
  · next below =>
    intro l mem
    rcases Entries.mem_set mem with rfl | old
    · exact Bool.not_eq_true _ ▸ below
    · exact apart.add name l old

theorem Separate.not_isRoot (apart : h.Separate) (known : h.knows a = true) : isRoot a = false := by
  obtain ⟨l, mem, same⟩ := List.any_eq_true.mp known
  rw [← beq_iff_eq.mp same]
  exact apart l mem

/-- A beginning of a name of four letters is empty, has one, two or three of them, or is the whole name. -/
theorem prefix_root_iff {ps : List CodePoint} :
    ps <+: (Text.ofString rootName).points ↔
      ps = [] ∨ ps = (Text.ofString "r").points ∨ ps = (Text.ofString "ro").points ∨
        ps = (Text.ofString "roo").points ∨ ps = (Text.ofString rootName).points := by
  have letters : (Text.ofString rootName).points = ['r', 'o', 'o', 't'].map CodePoint.char := by decide
  constructor
  · intro front
    obtain ⟨n, rfl⟩ : ∃ n, ps = (Text.ofString rootName).points.take n :=
      ⟨_, List.prefix_iff_eq_take.mp front⟩
    rw [letters]
    match n with
    | 0 => exact Or.inl rfl
    | 1 => exact Or.inr (Or.inl (by decide))
    | 2 => exact Or.inr (Or.inr (Or.inl (by decide)))
    | 3 => exact Or.inr (Or.inr (Or.inr (Or.inl (by decide))))
    | n + 4 => exact Or.inr (Or.inr (Or.inr (Or.inr (List.take_of_length_le (by simp)))))
  · rintro (rfl | rfl | rfl | rfl | rfl) <;> decide

theorem adopts_eq (below : isRoot a = false) : adopts a = decide (a ∉ rootBeginnings) := by
  rw [isRoot, Bool.or_eq_false_iff] at below
  obtain ⟨nonempty, notRoot⟩ := below
  obtain ⟨ps⟩ := a
  have empty : ps ≠ [] := by simpa [Text.isEmpty] using nonempty
  have root : ps ≠ (Text.ofString rootName).points := fun same => by
    rw [same] at notRoot
    cases notRoot
  rw [adopts, Bool.eq_iff_iff, decide_eq_true_iff, Bool.not_eq_true', ← Bool.not_eq_true,
    not_iff_not, List.isPrefixOf_iff_prefix, prefix_root_iff]
  simp only [empty, root, false_or, or_false, rootBeginnings, List.mem_cons, List.not_mem_nil]
  simp only [Text.mk.injEq, Text.ofString]

end Hierarchy

namespace Journal

/-- Takes a step: the new state, and what the console shows. -/
def step (s : Journal) : Step → Journal × Text
  | .configure c => ((s.configure c).1, "")
  | .record stamp r => s.write stamp r

def after (s : Journal) (steps : List Step) : Journal := steps.foldl (fun s t => (s.step t).1) s

/-- The settings by which steps configure logging to the end. -/
def finished (s : Journal) : List Step → List Settings
  | [] => []
  | .configure c :: rest =>
    (if (s.configure c).2.isNone then [c] else []) ++ (s.configure c).1.finished rest
  | .record stamp r :: rest => (s.write stamp r).1.finished rest

variable {s : Journal} {name : Text}

theorem after_append (s : Journal) (steps more : List Step) :
    s.after (steps ++ more) = (s.after steps).after more :=
  List.foldl_append

theorem finished_append (s : Journal) (steps more : List Step) :
    s.finished (steps ++ more) = s.finished steps ++ (s.after steps).finished more := by
  induction steps generalizing s with
  | nil => rfl
  | cons t steps ih =>
    cases t with
    | configure c =>
      rw [List.cons_append, finished, finished, ih, List.append_assoc]
      rfl
    | record stamp r =>
      rw [List.cons_append, finished, finished, ih]
      rfl

theorem hierarchy_write (s : Journal) (stamp : Text) (r : Record) :
    (s.write stamp r).1.hierarchy = s.hierarchy.add r.logger := by
  unfold write
  dsimp only
  split
  · rfl
  · split
    · rfl
    · split <;> rfl

/-- Logging records leaves all own levels as they are. -/
theorem ownLevel_records (s : Journal) (logged : List (Text × Record)) (name : Text) :
    (s.after (Step.records logged)).hierarchy.ownLevel name = s.hierarchy.ownLevel name := by
  induction logged generalizing s with
  | nil => rfl
  | cons l logged ih =>
    have first : (s.write l.1 l.2).1.hierarchy.ownLevel name = s.hierarchy.ownLevel name := by
      rw [hierarchy_write, Hierarchy.ownLevel_add]
    exact (ih (s.write l.1 l.2).1).trans first

theorem finished_records (s : Journal) (logged : List (Text × Record)) :
    s.finished (Step.records logged) = [] := by
  induction logged generalizing s with
  | nil => rfl
  | cons l logged ih => exact ih (s.write l.1 l.2).1

theorem separate_configure (apart : s.hierarchy.Separate) (c : Settings) :
    (s.configure c).1.hierarchy.Separate := by
  have top : (s.started c).hierarchy.Separate := apart.setLevel rootName _
  have levels (s' : Journal) (apart : s'.hierarchy.Separate) : (s'.setLevels c).hierarchy.Separate := by
    have whole (overrides : Entries Text Text) (h : Hierarchy) (apart : h.Separate) :
        (overrides.foldl (fun h o => h.setLevel o.1 (Level.ofText o.2)) h).Separate := by
      induction overrides generalizing h with
      | nil => exact apart
      | cons o overrides ih => exact ih _ (apart.setLevel o.1 _)
    exact whole c.overrides _ (apart.setLevel requestLogger _)
  obtain ⟨-, eq⟩ | ⟨p, folder, o, -, -, eq⟩ | ⟨p, folder, place, -, -, eq⟩ := s.configure_cases c
  · rw [eq]
    exact levels _ top
  · rw [eq]
    exact top
  · rw [eq]
    exact levels { s.started c with folder := folder, file := some place } top

theorem separate_after (folder : Folder) (steps : List Step) :
    ((initial folder).after steps).hierarchy.Separate := by
  refine List.foldlRecOn (motive := fun s : Journal => s.hierarchy.Separate) steps _
    Hierarchy.separate_initial ?_
  rintro s apart (c | ⟨stamp, r⟩) -
  · exact separate_configure apart c
  · change (s.write stamp r).1.hierarchy.Separate
    rw [hierarchy_write]
    exact apart.add r.logger

/-- The own level of a logger is that of the last settings that gave it one. -/
theorem ownLevel_after (folder : Folder) (steps : List Step) (below : isRoot name = false) :
    ((initial folder).after steps).hierarchy.ownLevel name =
      (((initial folder).finished steps).reverse.findSome? fun c => c.gives? name).getD
        Level.notset := by
  induction steps using List.reverseRecOn with
  | nil => exact Hierarchy.ownLevel_initial below
  | append_singleton steps t ih =>
    rw [after_append, finished_append]
    cases t with
    | record stamp r =>
      have same := ownLevel_records ((initial folder).after steps) [(stamp, r)] name
      have none := finished_records ((initial folder).after steps) [(stamp, r)]
      rw [Step.records, List.map_singleton] at same none
      rw [same, none, List.append_nil, ih]
    | configure c =>
      change (((initial folder).after steps).configure c).1.hierarchy.ownLevel name = _
      rw [ownLevel_configure, ownLevel_started, below, if_neg Bool.false_ne_true, ih, finished,
        finished, List.append_nil]
      split
      · rw [List.reverse_concat, List.findSome?_cons]
        cases c.gives? name <;> rfl
      · rw [List.append_nil]
        rfl

theorem gives?_requestLogger (c : Settings) :
    c.gives? requestLogger = some ((given? c.overrides requestLogger).getD
      (if c.logRequests then Level.notset else Level.info)) := by
  rw [Settings.gives?, if_pos rfl]
  cases given? c.overrides requestLogger <;> rfl

end Journal

/-- Levels of loggers by the settings that were carried out, of which each may change what those before
it set, and by the last settings, which may have come to their end or not. -/
structure Leveled (settings : List Settings) (last : Settings) (ended : Bool) (h : Hierarchy) :
    Prop where
  top : h.root =
    (if ended then given? last.overrides rootName else none).getD (Level.ofText last.level)
  requests : h.ownLevel requestLogger = match settings.getLast? with
    | some c => (given? c.overrides requestLogger).getD
        (if c.logRequests then Level.notset else Level.info)
    | none => Level.notset
  other : ∀ name, isRoot name = false → name ≠ requestLogger → h.ownLevel name =
    (settings.reverse.findSome? fun c => given? c.overrides name).getD Level.notset
  inherited : ∀ name, h.effectiveLevel name =
    if h.ownLevel name ≠ Level.notset then h.ownLevel name
    else (h.parent? name).elim h.root h.effectiveLevel
  parent : ∀ name, h.parent? name = (cutPrefixes name).find? fun a =>
    h.knows a && (decide (a ∉ rootBeginnings) || h.isBefore a name)
  plain : ∀ name, Plain name →
    (∀ b ∈ name :: dottedPrefixes name, ∀ a ∈ dottedPrefixes b, h.knows a = true →
      a ∈ rootBeginnings → h.isBefore a b = true) →
    h.effectiveLevel name = h.firstSet (name :: dottedPrefixes name)

namespace Journal

/-- Levels after a run in which logging is configured at least once. -/
theorem after_leveled (folder : Folder) (earlier : List Step) (c : Settings)
    (logged : List (Text × Record)) :
    Leveled ((initial folder).finished (earlier ++ [.configure c])) c
      (((initial folder).after earlier).configure c).2.isNone
      ((initial folder).after (earlier ++ .configure c :: Step.records logged)).hierarchy := by
  have split : earlier ++ .configure c :: Step.records logged =
      (earlier ++ [.configure c]) ++ Step.records logged := by simp
  have apart := separate_after folder (earlier ++ .configure c :: Step.records logged)
  have own (name : Text) :
      ((initial folder).after (earlier ++ .configure c :: Step.records logged)).hierarchy.ownLevel
        name = ((initial folder).after (earlier ++ [.configure c])).hierarchy.ownLevel name := by
    rw [split, after_append, ownLevel_records]
  generalize (initial folder).after (earlier ++ .configure c :: Step.records logged) = s at apart own
  refine ⟨?_, ?_, ?_, s.hierarchy.effectiveLevel_eq, ?_, ?_⟩
  · rw [← Hierarchy.ownLevel_rootName, own, after_append]
    change (((initial folder).after earlier).configure c).1.hierarchy.ownLevel rootName = _
    have other : Text.ofString rootName ≠ requestLogger := by decide
    rw [ownLevel_configure, ownLevel_started, isRoot_rootName, if_pos rfl, Settings.gives?,
      if_neg other, Option.or_none]
  · rw [own, ownLevel_after folder _ isRoot_requestLogger]
    cases (initial folder).finished (earlier ++ [.configure c]) using List.reverseRecOn with
    | nil => rfl
    | append_singleton front last =>
      rw [List.reverse_concat, List.findSome?_cons, gives?_requestLogger, List.getLast?_concat]
      rfl
  · intro name below other
    rw [own, ownLevel_after folder _ below]
    simp only [Settings.gives?, if_neg other, Option.or_none]
  · intro name
    rw [Hierarchy.parent?_eq]
    refine List.find?_congr fun a mem => ?_
    cases known : s.hierarchy.knows a with
    | false => rfl
    | true => rw [Hierarchy.adopts_eq (apart.not_isRoot known)]
  · intro name plain inOrder
    refine plain.effectiveLevel_eq fun b onTheWay a mem known => ?_
    rw [Hierarchy.adopts_eq (apart.not_isRoot known), Bool.or_eq_true, decide_eq_true_iff]
    exact Decidable.or_iff_not_imp_left.mpr fun late =>
      inOrder b onTheWay a mem known (not_not.mp late)

/-- A dotted prefix is passed over where two dots stand side by side, and where a logger whose name
begins that of the one at the top was asked for after the one below it. Settings whose log file cannot
be opened give no level to the loggers that they name. -/
theorem prefixes_passed_over :
    let h := ((initial .empty).after [.configure { overrides :=
      [("a", "ERROR"), ("a..b", "NOTSET"), ("r.x", "NOTSET"), ("r", "ERROR")] }]).hierarchy
    let blocked := ((initial { Folder.empty with files := [(.ofText "d", "")] }).after [.configure
      { path := some (.ofText "d/x.log"), overrides := [("a", "ERROR")] }]).hierarchy
    h.effectiveLevel "a..b" ≠ h.firstSet ("a..b" :: dottedPrefixes "a..b") ∧
      h.effectiveLevel "r.x" ≠ h.firstSet ("r.x" :: dottedPrefixes "r.x") ∧
      blocked.ownLevel "a" = Level.notset := by
  decide +kernel

end Journal

end Thermostat.Log
