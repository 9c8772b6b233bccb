import Thermostat.Proofs.Steps
import Thermostat.Settings.Config

/-! What settings need to be a configuration, and of which kinds their faults are otherwise. -/
namespace Thermostat.Settings

/-- Kinds of faults in the text of settings. -/
def textKinds : List String :=
  ["ParsingError", "MissingSectionHeaderError", "DuplicateSectionError", "DuplicateOptionError"]

/-- Kinds of faults in the references between settings. -/
def referenceKinds : List String :=
  ["InterpolationSyntaxError", "InterpolationMissingOptionError", "InterpolationDepthError"]

/-- Kinds of faults in single values. -/
def valueKinds : List String := ["ValueError", "RuntimeError", "UnicodeEncodeError"]

/-- Kinds of what can stand in the way of a file. -/
def obstacleKinds : List String :=
  ["FileNotFoundError", "NotADirectoryError", "FileExistsError", "IsADirectoryError", "OSError",
    "ValueError", "UnicodeEncodeError"]

abbrev Fault.Of (kinds : List String) (f : Fault) : Prop := f.label ∈ kinds

section Text

variable {source : Path} {r : Reading} {number : Nat}

theorem Reading.enter_failsIn (name : Text) :
    FailsIn (Fault.Of textKinds) (r.enter source number name) := by
  unfold enter
  split
  · exact .ok _
  split
  · exact .error (by simp [Fault.Of, Fault.label, textKinds])
  · exact .ok _

theorem Reading.addOption_failsIn (line name value : Text) :
    FailsIn (Fault.Of textKinds) (r.addOption source number line name value) := by
  unfold addOption
  extract_lets option kept
  split
  · exact .error (by simp [Fault.Of, Fault.label, textKinds])
  · exact .ok _

theorem Reading.line_failsIn (ps : List CodePoint) :
    FailsIn (Fault.Of textKinds) (r.line source number ps) := by
  unfold line
  dsimp only
  split
  · exact .ok _
  split
  · exact .ok _
  split
  · exact .ok _
  split
  · exact enter_failsIn _
  split
  · exact .error (by simp [Fault.Of, Fault.label, textKinds])
  split
  · exact addOption_failsIn _ _ _
  · exact .ok _

theorem Reading.lines_failsIn (ls : List (List CodePoint)) :
    FailsIn (Fault.Of textKinds) (r.lines source number ls) := by
  induction ls generalizing r number with
  | nil => exact .ok r
  | cons ps rest ih => exact (line_failsIn ps).bind fun _ _ => ih

theorem Store.read_failsIn (s : Store) (source : Path) (text : Text) :
    FailsIn (Fault.Of textKinds) (s.read source text) := by
  refine (Reading.lines_failsIn _).bind fun r _ => ?_
  split
  · exact .ok _
  · exact .error (by simp [Fault.Of, Fault.label, textKinds])

end Text

section References

variable {s : Store} {name option raw : Text}

theorem pieces_flaw {fuel : Nat} {ps : List CodePoint} {f : Fault} (flaw : .flaw f ∈ pieces fuel ps) :
    f.Of referenceKinds := by
  induction fuel generalizing ps with
  | zero => cases flaw
  | succ fuel ih =>
    unfold pieces at flaw
    split at flaw
    · cases flaw
    · exact ih ((List.mem_cons.mp flaw).resolve_left nofun)
    · split at flaw
      · exact ih ((List.mem_cons.mp flaw).resolve_left nofun)
      · cases List.mem_singleton.mp flaw
        simp [Fault.Of, Fault.label, referenceKinds]
    · cases List.mem_singleton.mp flaw
      simp [Fault.Of, Fault.label, referenceKinds]
    · exact ih ((List.mem_cons.mp flaw).resolve_left nofun)

theorem expand_failsIn (depth : Nat) (value : Text) :
    FailsIn (Fault.Of referenceKinds) (expand s name option raw depth value) := by
  induction depth generalizing value with
  | zero => exact .error (by simp [Fault.Of, Fault.label, referenceKinds])
  | succ depth ih =>
    unfold expand
    refine .foldlM (fun piece mem done => ?_) _
    cases piece with
    | point p => exact .ok _
    | flaw f => exact .error (pieces_flaw mem)
    | reference reference =>
      dsimp only
      split
      · exact .error (by simp [Fault.Of, Fault.label, referenceKinds])
      split
      · exact (ih _).bind fun _ _ => .ok _
      · exact .ok _

theorem Store.value_failsIn (s : Store) (name option : Text) :
    FailsIn (Fault.Of referenceKinds) (s.value name option) := by
  unfold value
  split
  · exact .ok _
  · exact expand_failsIn _ _

end References

/-- What a configuration needs of settings: the options that the program has are all written without a
fault, the log file has a place if one is named, and whether requests are traced is said in one of the
words for yes and no. -/
structure Store.Resolves (s : Store) (accounts : Accounts) (logPath : Option Path) : Prop where
  scale : ∃ t, s.value "ecobee" "temperature_scale" = .ok t
  level : ∃ t, s.value "logging" "level" = .ok t
  path : ∃ t, s.value "logging" "path" = .ok t ∧ readLogPath accounts (Text.trim t) = .ok logPath
  requests : ∃ t b, s.value "logging" "log_requests" = .ok t ∧ readBoolean t = .ok b
  loggers : ∃ t, s.value "logging" "loggers" = .ok t

section Config

variable {s : Store} {accounts : Accounts} {source : Path} {logPath : Option Path} {folder : Folder}

theorem Store.config_ok_iff (source : Path) :
    (∃ records c, s.config accounts source = (records, .ok c) ∧ c.logPath = logPath) ↔
      s.Resolves accounts logPath := by
  constructor
  · rintro ⟨records, c, ok, rfl⟩
    unfold config at ok
    split at ok
    · cases (Prod.mk.inj ok).2
    next scale named =>
    obtain ⟨path, first, rest⟩ := bind_eq_ok_iff.mp (Prod.mk.inj ok).2
    obtain ⟨level, second, rest⟩ := bind_eq_ok_iff.mp rest
    obtain ⟨place, expanded, rest⟩ := bind_eq_ok_iff.mp rest
    obtain ⟨requests, third, rest⟩ := bind_eq_ok_iff.mp rest
    obtain ⟨b, word, rest⟩ := bind_eq_ok_iff.mp rest
    obtain ⟨loggers, fourth, rest⟩ := bind_eq_ok_iff.mp rest
    cases rest
    exact ⟨⟨scale, named⟩, ⟨level, second⟩, ⟨path, first, expanded⟩, ⟨requests, b, third, word⟩,
      ⟨loggers, fourth⟩⟩
  · rintro ⟨⟨scale, named⟩, ⟨level, second⟩, ⟨path, first, expanded⟩, ⟨requests, b, third, word⟩,
      ⟨loggers, fourth⟩⟩
    refine ⟨(readScale scale).1,
      ⟨(readScale scale).2, level, logPath, b, Log.readOverrides loggers, s, source⟩, ?_, rfl⟩
    simp only [config, named, readRest, first, second, expanded, third, word, fourth, bind, Except.bind]

theorem readLogPath_failsIn (text : Text) :
    FailsIn (Fault.Of valueKinds) (readLogPath accounts text) := by
  unfold readLogPath
  split
  · exact .ok _
  split
  · exact .ok _
  · next e _ =>
    refine .error ?_
    cases e <;> simp [Fault.Of, Fault.label, valueKinds, Text.HalfRun.label]

theorem readBoolean_failsIn (text : Text) : FailsIn (Fault.Of valueKinds) (readBoolean text) := by
  unfold readBoolean
  dsimp only
  split
  · exact .ok _
  split
  · exact .ok _
  · exact .error (by simp [Fault.Of, Fault.label, valueKinds])

theorem Store.config_failsIn (s : Store) (source : Path) :
    FailsIn (Fault.Of (referenceKinds ++ valueKinds)) (s.config accounts source).2 := by
  have value (name option : Text) :
      FailsIn (Fault.Of (referenceKinds ++ valueKinds)) (s.value name option) :=
    (s.value_failsIn name option).mono fun _ kind => List.mem_append_left _ kind
  have single {α : Type} {x : Except Fault α} (fails : FailsIn (Fault.Of valueKinds) x) :
      FailsIn (Fault.Of (referenceKinds ++ valueKinds)) x :=
    fails.mono fun _ kind => List.mem_append_right _ kind
  have scale := value "ecobee" "temperature_scale"
  unfold config
  split
  · next f failed => exact .error (scale f failed)
  · refine (value "logging" "path").bind fun path _ => ?_
    refine (value "logging" "level").bind fun level _ => ?_
    refine (single (readLogPath_failsIn _)).bind fun logPath _ => ?_
    refine (value "logging" "log_requests").bind fun requests _ => ?_
    refine (single (readBoolean_failsIn _)).bind fun logRequests _ => ?_
    exact (value "logging" "loggers").bind fun loggers _ => .ok _

/-- Kinds of all that can be wrong with a file of settings. -/
def loadKinds : List String := textKinds ++ (referenceKinds ++ valueKinds) ++ obstacleKinds

theorem Obstacle.label_mem (o : Obstacle) : o.label ∈ obstacleKinds := by
  unfold Obstacle.label
  split <;> simp [obstacleKinds, Text.HalfRun.label]

theorem Store.load_failsIn (folder : Folder) (source : Path) :
    FailsIn (fun e => e.label ∈ loadKinds) (Store.load folder source) := by
  unfold load
  split
  · exact .error (List.mem_append_right _ (Obstacle.label_mem _))
  · exact .ok _
  · next text _ =>
    refine (Store.initial.read_failsIn source text).mapError fun f kind => ?_
    exact List.mem_append_left _ (List.mem_append_left _ kind)

theorem Config.load_failsIn (folder : Folder) (source : Path) :
    FailsIn (fun e => e.label ∈ loadKinds) (Config.load accounts folder source).2 := by
  have store := Store.load_failsIn folder source
  unfold load
  split
  · next e failed => exact .error (store e failed)
  · next s _ =>
    refine (s.config_failsIn source).mapError fun f kind => ?_
    exact List.mem_append_left _ (List.mem_append_right _ kind)

end Config

end Thermostat.Settings
