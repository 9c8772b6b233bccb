import Thermostat.Proofs.Settings.Reading

/-! Runs of lines without faults: what a line end behind them changes, which names they take, and how they
stay in a section. -/
namespace Thermostat.Settings.Reading

variable {r r' : Reading} {name : Text} {ps qs : List CodePoint} {lines : List (List CodePoint)}

/-! ## A line end behind a text -/

theorem does_congr (content : Text.trimPoints qs = Text.trimPoints ps)
    (same : Text.trimPoints ps ≠ [] → depth qs = depth ps) (does : r.Does ps r') : r.Does qs r' := by
  have move (begins : r.Begins ps) : r.Begins qs ∧ depth qs = depth ps := by
    have deep := same begins.nonempty
    refine ⟨⟨content ▸ begins.nonempty, content ▸ begins.noComment, fun isOpen => ?_⟩, deep⟩
    rw [deep]
    exact begins.outer isOpen
  cases does with
  | blank empty => exact .blank (content.trans empty)
  | comment comment => exact .comment (content ▸ comment)
  | continued nonempty noComment isOpen deeper =>
    rw [← content] at nonempty noComment ⊢
    exact .continued nonempty noComment isOpen ((same (content ▸ nonempty)).symm ▸ deeper)
  | defaults begins header =>
    obtain ⟨begins, deep⟩ := move begins
    rw [← content] at header
    exact deep ▸ .defaults begins header
  | entered begins header notDefaults fresh =>
    obtain ⟨begins, deep⟩ := move begins
    rw [← content] at header
    exact deep ▸ .entered begins header notDefaults fresh
  | option begins noHeader somewhere cut nonempty fresh =>
    obtain ⟨begins, deep⟩ := move begins
    rw [← content] at noHeader cut
    exact deep ▸ .option begins noHeader somewhere cut nonempty fresh

/-- It makes no difference whether a line has its end. -/
theorem does_feed (does : r.Does ps r') : r.Does (ps ++ [.char '\n']) r' := by
  refine does_congr (Text.trimPoints_append (by decide)) (fun nonempty => ?_) does
  -- A line that is not blank is as deep as before.
  have stops : ¬ (ps.takeWhile Text.isBlankPoint).length = ps.length := by
    intro all
    refine nonempty (Text.trimPoints_eq_nil_iff.mpr ?_)
    rw [← List.takeWhile_eq_self_iff]
    exact (List.takeWhile_prefix _).eq_of_length all
  rw [depth, depth, List.takeWhile_append, if_neg stops]

/-- With a line end behind it, a text is read as before, up to an empty line. -/
theorem reads_ended {ended : List (List CodePoint)} (isEnded : Ended lines ended)
    (reads : r.Reads lines r') : ∃ last, r.Reads ended last ∧ (last = r' ∨ last = r'.extend "") := by
  induction isEnded generalizing r with
  | half lines => exact ⟨r', reads, Or.inl rfl⟩
  | empty =>
    cases reads
    exact ⟨_, .cons (.blank rfl) (.nil _), Or.inr rfl⟩
  | last line =>
    cases reads with
    | cons first later =>
      cases later
      exact ⟨_, .cons (does_feed first) (.nil _), Or.inl rfl⟩
  | cons line _ ih =>
    cases reads with
    | cons first later =>
      obtain ⟨last, later, same⟩ := ih later
      exact ⟨last, .cons first later, same⟩

/-! ## Names that are taken -/

/-- All names that are taken are names of sections that are there. -/
structure Tracked (r : Reading) : Prop where
  headers : ∀ name ∈ r.headers, name ∈ r.sections.map (·.1)
  options : ∀ e ∈ r.options, e.1 = defaultsName ∨ e.1 ∈ r.sections.map (·.1)
  target : ∀ name, r.target = .inSection name → name ∈ r.sections.map (·.1)

theorem mem_sections_update (f : Pending → Pending) (mem : name ∈ r.sections.map (·.1)) :
    name ∈ (r.update f).sections.map (·.1) := by
  unfold update
  split
  · exact mem
  · exact mem
  · exact Entries.mem_names_set.mpr (Or.inr mem)

theorem Tracked.update (tracked : r.Tracked) (f : Pending → Pending) : (r.update f).Tracked := by
  refine ⟨fun name mem => ?_, fun e mem => ?_, fun name same => ?_⟩
  · rw [update_headers] at mem
    exact mem_sections_update f (tracked.headers name mem)
  · rw [update_options] at mem
    exact (tracked.options e mem).imp_right (mem_sections_update f)
  · rw [update_target] at same
    exact mem_sections_update f (tracked.target name same)

theorem Tracked.extend (tracked : r.Tracked) (line : Text) : (r.extend line).Tracked := by
  rcases r.extend_eq_or line with same | ⟨f, changed⟩
  · rw [same]
    exact tracked
  · rw [changed]
    exact tracked.update f

/-- A name that is taken for an option is that of the defaults or of a section that is there. -/
theorem Tracked.targetName (tracked : r.Tracked) :
    r.targetName = defaultsName ∨ r.targetName ∈ r.sections.map (·.1) := by
  cases target : r.target with
  | nowhere => simp [Reading.targetName, target]
  | defaults => simp [Reading.targetName, target]
  | inSection name =>
    right
    rw [Reading.targetName, target]
    exact tracked.target name target

theorem Tracked.does (tracked : r.Tracked) (does : r.Does ps r') : r'.Tracked := by
  cases does with
  | blank => exact tracked.extend _
  | comment => exact tracked
  | continued => exact tracked.extend _
  | defaults => exact ⟨tracked.headers, tracked.options, nofun⟩
  | @entered name =>
    have known : name ∈ (if Entries.has r.sections name then r.sections
        else r.sections ++ [(name, [])]).map (·.1) := by
      split
      · next has => exact Entries.has_iff.mp has
      · simp
    have kept : ∀ other ∈ r.sections.map (·.1), other ∈ (if Entries.has r.sections name then r.sections
        else r.sections ++ [(name, [])]).map (·.1) := by
      intro other mem
      split
      · exact mem
      · rw [List.map_append]
        exact List.mem_append_left _ mem
    refine ⟨fun other mem => ?_, fun e mem => ?_, fun other same => ?_⟩
    · rcases List.mem_cons.mp mem with rfl | old
      · exact known
      · exact kept other (tracked.headers other old)
    · exact (tracked.options e mem).imp_right (kept e.1)
    · cases same
      exact known
  | option =>
    apply Tracked.update
    refine ⟨tracked.headers, fun e mem => ?_, tracked.target⟩
    rcases List.mem_cons.mp mem with rfl | old
    · exact tracked.targetName
    · exact tracked.options e old

theorem Tracked.reads (tracked : r.Tracked) (reads : r.Reads lines r') : r'.Tracked := by
  induction reads with
  | nil => exact tracked
  | cons first later ih => exact ih (tracked.does first)

theorem tracked_start : (start .initial).Tracked := ⟨nofun, nofun, nofun⟩

/-! ## Staying in a section -/

/-- Headers are not forgotten, and without a new one no other section is gone to. -/
structure Leads (r r' : Reading) : Prop where
  headers : r.headers <:+ r'.headers
  target : r'.headers = r.headers → r'.target = r.target ∨ r'.target = .defaults

theorem Leads.of_same (headers : r'.headers = r.headers) (target : r'.target = r.target) :
    r.Leads r' :=
  ⟨⟨[], by rw [List.nil_append, headers]⟩, fun _ => Or.inl target⟩

theorem leads_extend (line : Text) : r.Leads (r.extend line) := by
  rcases r.extend_eq_or line with same | ⟨f, changed⟩
  · rw [same]
    exact .of_same rfl rfl
  · rw [changed]
    exact .of_same (update_headers f) (update_target f)

theorem Does.leads (does : r.Does ps r') : r.Leads r' := by
  cases does with
  | blank => exact leads_extend _
  | comment => exact .of_same rfl rfl
  | continued => exact leads_extend _
  | defaults => exact ⟨List.suffix_rfl, fun _ => Or.inr rfl⟩
  | entered => exact ⟨List.suffix_cons _ _, fun same => absurd same (List.cons_ne_self _ _)⟩
  | option => exact .of_same (update_headers _) (update_target _)

theorem Leads.trans {r'' : Reading} (first : r.Leads r') (second : r'.Leads r'') : r.Leads r'' := by
  refine ⟨first.headers.trans second.headers, fun same => ?_⟩
  have front : r'.headers = r.headers :=
    List.IsSuffix.eq_of_length_le (same ▸ second.headers) first.headers.length_le
  rcases second.target (same.trans front.symm) with kept | defaults
  · rw [kept]
    exact first.target front
  · exact Or.inr defaults

theorem Reads.leads (reads : r.Reads lines r') : r.Leads r' := by
  induction reads with
  | nil => exact .of_same rfl rfl
  | cons first later ih => exact first.leads.trans ih

end Thermostat.Settings.Reading
