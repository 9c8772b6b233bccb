import Thermostat.Proofs.Log.Inheritance

/-! The trace of requests that is held back: its logger gets a level of its own, whatever level logging
is configured with. -/
namespace Thermostat.Log

/-- Names of the levels that are more urgent than the one at which the trace is held back. -/
def urgentNames : List Text := ["WARNING", "WARN", "ERROR", "FATAL", "CRITICAL"]

/-- Settings that hold back the trace of requests, with overrides neither for its logger nor for those
above it. -/
structure Settings.HoldsBack (c : Settings) : Prop where
  held : c.logRequests = false
  free : ∀ o ∈ c.overrides,
    isRoot o.1 = false ∧ o.1 ∉ Text.ofString requestLogger :: dottedPrefixes requestLogger

/-- A text stands for a level that is no more urgent unless it is a name of one that is. -/
theorem Level.ofText_le_info_iff (text : Text) :
    ofText text ≤ info ↔ Text.upper (Text.trim text) ∉ urgentNames := by
  rw [ofText, resolve, ofName?]
  generalize Text.upper (Text.trim text) = u
  constructor
  · intro le urgent
    revert le
    simp only [urgentNames, List.mem_cons, List.not_mem_nil, or_false] at urgent
    rcases urgent with rfl | rfl | rfl | rfl | rfl <;> decide
  · intro calm
    have calmNames : ∀ e ∈ names, Text.ofString e.1 ∉ urgentNames → e.2 ≤ info := by decide
    cases found : names.find? fun e => u == Text.ofString e.1 with
    | none => exact Int.le_refl _
    | some e =>
      have same : u = Text.ofString e.1 := by simpa using List.find?_some found
      exact calmNames e (List.mem_of_find?_eq_some found) (same ▸ calm)

theorem given?_eq_none {overrides : Entries Text Text} {name : Text}
    (free : ∀ o ∈ overrides, isSame o.1 name = false) : given? overrides name = none := by
  rw [given?, Option.map_eq_none_iff, List.find?_eq_none]
  intro o mem
  rw [free o (List.mem_reverse.mp mem)]
  exact Bool.false_ne_true

namespace Journal

variable {s : Journal} {c : Settings}

/-- Where the trace is held back, the level of its logger bounds what it shows, but it is no higher than
that: it lies below the level at the top just if that is a more urgent one, and then the logger passes
on what the level at the top holds back elsewhere. -/
theorem configure_heldBack (held : c.HoldsBack) (ended : (s.configure c).2 = none) :
    let h := (s.configure c).1.hierarchy
    h.root = Level.ofText c.level ∧ h.effectiveLevel requestLogger = Level.info ∧
      (h.root ≤ h.effectiveLevel requestLogger ↔
        Text.upper (Text.trim c.level) ∉ urgentNames) ∧
      ∀ level, (h.isEnabled requestLogger level = true ∧ level < h.root) ↔
        Level.info ≤ level ∧ level < Level.ofText c.level := by
  intro h
  have own (name : Text) : h.ownLevel name =
      (c.gives? name).getD ((s.started c).hierarchy.ownLevel name) := by
    have level := s.ownLevel_configure c name
    rw [ended] at level
    exact level
  have top : h.root = Level.ofText c.level := by
    have free : given? c.overrides rootName = none := given?_eq_none fun o mem => by
      rw [isSame_comm, isSame_of_isRoot isRoot_rootName]
      exact (held.free o mem).1
    have other : Text.ofString rootName ≠ requestLogger := by decide
    rw [← h.ownLevel_rootName, own, Settings.gives?, free, if_neg other, ownLevel_started,
      if_pos isRoot_rootName]
    rfl
  have requests : h.ownLevel requestLogger = Level.info := by
    have free : given? c.overrides requestLogger = none := given?_eq_none fun o mem => by
      rw [isSame_of_not_isRoot (held.free o mem).1, beq_eq_false_iff_ne]
      exact fun same => (held.free o mem).2 (same ▸ List.mem_cons_self)
    rw [own, Settings.gives?, free, if_pos rfl, held.held]
    rfl
  have level : h.effectiveLevel requestLogger = Level.info := by
    rw [Hierarchy.effectiveLevel_of_own, requests]
    rw [requests]
    decide
  refine ⟨top, level, ?_, fun l => ?_⟩
  · rw [top, level, Level.ofText_le_info_iff]
  · have order : Level.notset < Level.info := by decide
    rw [Hierarchy.isEnabled, level, top, Bool.and_eq_true, decide_eq_true_iff, decide_eq_true_iff]
    constructor
    · rintro ⟨⟨-, passes⟩, lt⟩
      exact ⟨passes, lt⟩
    · rintro ⟨passes, lt⟩
      exact ⟨⟨Int.lt_of_lt_of_le order passes, passes⟩, lt⟩

theorem configure_heldBack_warning :
    let c : Settings :=
      { level := " warning ", overrides := [("ecobee_actions.messages.event", "ERROR")] }
    let s := ((initial .empty).configure { level := "DEBUG", logRequests := true }).1
    let h := (s.configure c).1.hierarchy
    c.HoldsBack ∧ (s.configure c).2 = none ∧ h.root = Level.warning ∧
      h.effectiveLevel requestLogger = Level.info ∧ ¬ h.root ≤ h.effectiveLevel requestLogger := by
  intro c s h
  have held : c.HoldsBack := ⟨rfl, by decide⟩
  have ended : (s.configure c).2 = none := rfl
  obtain ⟨top, level, bounded, -⟩ := configure_heldBack held ended
  have urgent : Level.ofText c.level = Level.warning := by decide +kernel
  refine ⟨held, ended, top.trans urgent, level, ?_⟩
  rw [level, top, urgent]
  decide

/-- With an urgent level at the top, a less urgent record of the logger of requests is shown. -/
theorem lets_warning_through :
    let c : Settings := { level := "ERROR" }
    let s := ((initial .empty).configure c).1
    c.HoldsBack ∧ ((initial .empty).configure c).2 = none ∧
      ¬ s.hierarchy.root ≤ s.hierarchy.effectiveLevel requestLogger ∧
      Level.warning < s.hierarchy.root ∧
      (s.log "now" requestLogger .warning "not accepted").2 =
        Text.ofString "now | WARNING | ecobee_actions.actions | not accepted\n" ∧
      (s.log "now" "other" .warning "not accepted").2 = Text.ofString "" := by
  refine ⟨⟨rfl, by decide⟩, rfl, ?_⟩
  decide +kernel

end Journal

end Thermostat.Log
