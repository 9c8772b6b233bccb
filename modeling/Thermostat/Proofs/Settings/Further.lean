import Thermostat.Proofs.Settings.Runs
import Thermostat.Proofs.Settings.Saving
import Thermostat.Proofs.Settings.Values

/-! A further section behind a text: it is read as it would be on its own, and nothing of what was read
before it changes. -/
namespace Thermostat.Settings

namespace Reading

variable {r r' base : Reading} {name : Text} {ps : List CodePoint} {lines : List (List CodePoint)}

/-! ## Behind another text -/

/-- A state in which a section is read behind all that was read in another state. -/
def behind (base : Reading) (name : Text) (r : Reading) : Reading :=
  { base with
    sections := base.sections ++ [(name, r.current)]
    target := r.target, option := r.option, indent := r.indent
    headers := name :: base.headers
    options := r.options ++ base.options }

theorem update_behind (absent : name ∉ base.sections.map (·.1)) (inside : r.target = .inSection name)
    (f : Pending → Pending) : (base.behind name r).update f = base.behind name (r.update f) := by
  have current : (r.update f).current = f r.current := by
    refine current_update ?_ f
    rw [inside]
    exact nofun
  have found : Entries.get? (base.sections ++ [(name, r.current)]) name = some r.current := by
    rw [Entries.get?_append, Entries.get?_eq_none_iff.mpr absent, Option.none_or, Entries.get?_cons,
      if_pos rfl]
  have put : Entries.set name (f r.current) (base.sections ++ [(name, r.current)]) =
      base.sections ++ [(name, f r.current)] := Entries.set_append_cons absent _ _
  simp only [behind, current, update_target, update_option, update_indent, update_options]
  simp only [update, inside, found, Option.getD_some, put]

theorem extend_behind (absent : name ∉ base.sections.map (·.1)) (inside : r.target = .inSection name)
    (line : Text) : (base.behind name r).extend line = base.behind name (r.extend line) := by
  have same : (base.behind name r).isOpen = r.isOpen := rfl
  have held : (base.behind name r).option = r.option := rfl
  unfold extend
  rw [held, same]
  split
  · split
    · exact update_behind absent inside _
    · rfl
  · rfl

theorem Begins.behind (begins : r.Begins ps) : (base.behind name r).Begins ps :=
  ⟨begins.nonempty, begins.noComment, begins.outer⟩

/-- A line that stays in the section does the same behind another text. -/
theorem Does.behind (absent : name ∉ base.sections.map (·.1)) (free : ∀ o, (name, o) ∉ base.options)
    (inside : r.target = .inSection name) (stays : r'.target = .inSection name)
    (same : r'.headers = r.headers) (does : r.Does ps r') :
    (base.behind name r).Does ps (base.behind name r') := by
  cases does with
  | blank empty =>
    rw [← extend_behind absent inside]
    exact .blank empty
  | comment comment => exact .comment comment
  | continued nonempty noComment isOpen deeper =>
    rw [← extend_behind absent inside]
    exact .continued nonempty noComment isOpen deeper
  | defaults => cases stays
  | entered => exact absurd same (List.cons_ne_self _ _)
  | option begins noHeader somewhere cut nonempty fresh =>
    have own : r.targetName = name := by rw [targetName, inside]
    rw [← update_behind absent (by exact inside)]
    refine .option begins.behind noHeader somewhere cut nonempty fun taken => ?_
    rcases List.mem_append.mp taken with new | old
    · exact fresh new
    · exact free _ (own ▸ old)

/-- So do all lines up to the end of the section. -/
theorem Reads.behind (absent : name ∉ base.sections.map (·.1)) (free : ∀ o, (name, o) ∉ base.options)
    (inside : r.target = .inSection name) (stays : r'.target = .inSection name)
    (same : r'.headers = r.headers) (reads : r.Reads lines r') :
    (base.behind name r).Reads lines (base.behind name r') := by
  induction reads with
  | nil => exact .nil _
  | @cons r next last ps rest first later ih =>
    have headers : next.headers = r.headers :=
      List.IsSuffix.eq_of_length_le (same ▸ later.leads.headers) first.leads.headers.length_le
    have target : next.target = .inSection name := by
      rcases first.leads.target headers with kept | left
      · exact kept.trans inside
      · -- From the defaults there is no way back without a header.
        rcases later.leads.target (same.trans headers.symm) with kept | defaults
        · rw [kept, left] at stays
          cases stays
        · rw [defaults] at stays
          cases stays
    exact .cons (first.behind absent free inside target headers)
      (ih target stays (same.trans headers.symm))

theorem finish_behind : (base.behind name r).finish = { base.finish with
    sections := base.finish.sections ++ [(name, r.current.map fun e => (e.1, closed e.2))] } := by
  simp [finish_eq, behind]

theorem options_finish (inside : r.target = .inSection name) :
    r.finish.options name = r.current.map fun e => (e.1, closed e.2) := by
  rw [finish_eq, Store.options, current, inside]
  dsimp only
  rw [Entries.get?_map]
  cases Entries.get? r.sections name <;> rfl

/-- Where no value is open, a header begins its section. -/
theorem Does.of_header (header : header? (Text.trimPoints ps) = some name)
    (notDefaults : name ≠ defaultsName) (isClosed : ¬ r.isOpen = true) (does : r.Does ps r') :
    r' = { r.enterSection name with indent := depth ps } := by
  obtain ⟨nonempty, noComment⟩ := content_of_header header
  cases does with
  | blank empty => exact absurd empty nonempty
  | comment comment => exact absurd comment noComment
  | continued _ _ isOpen => exact absurd isOpen isClosed
  | defaults _ other => exact absurd (Option.some.inj (header.symm.trans other)) notDefaults
  | entered _ other =>
    cases Option.some.inj (header.symm.trans other)
    rfl
  | option _ noHeader =>
    rw [noHeader] at header
    cases header

/-- A section that is new begins behind all others, without options. -/
theorem behind_enterSection (absent : name ∉ base.sections.map (·.1))
    (new : name ∉ r.sections.map (·.1)) (none : r.options = []) (indent : Nat) :
    base.behind name { r.enterSection name with indent := indent } =
      { base.enterSection name with indent := indent } := by
  have unknown : ¬ Entries.has base.sections name = true := fun has => absent (Entries.has_iff.mp has)
  have unknown' : ¬ Entries.has r.sections name = true := fun has => new (Entries.has_iff.mp has)
  have empty : Entries.get? (r.sections ++ [(name, ([] : Pending))]) name = some [] := by
    rw [Entries.get?_append, Entries.get?_eq_none_iff.mpr new, Option.none_or, Entries.get?_cons,
      if_pos rfl]
  simp only [behind, current, enterSection, if_neg unknown, if_neg unknown', empty, none,
    Option.getD_some, List.nil_append]

/-- The lines of a section are read behind all that was read before as they are read on their own. -/
theorem reads_section {line : List CodePoint} (tracked : base.Tracked)
    (absent : name ∉ base.sections.map (·.1)) (new : name ∉ Store.initial.sections.map (·.1))
    (notDefaults : name ≠ defaultsName) (header : header? (Text.trimPoints line) = some name)
    (outer : base.isOpen = true → depth line ≤ base.indent)
    (reads : (start .initial).Reads (line :: lines) r) (headers : r.headers = [name])
    (target : r.target = .inSection name) :
    base.Reads (line :: lines) (base.behind name r) := by
  have free : ∀ o, (name, o) ∉ base.options := by
    intro o taken
    rcases tracked.options _ taken with same | known
    · exact notDefaults same
    · exact absent known
  have untaken : name ∉ base.headers := fun taken => absent (tracked.headers name taken)
  cases reads with
  | cons first later =>
    cases first.of_header header notDefaults (by decide)
    obtain ⟨nonempty, noComment⟩ := content_of_header header
    have enters := Does.entered ⟨nonempty, noComment, outer⟩ header notDefaults untaken
    have new' : name ∉ (start .initial).sections.map (·.1) := by
      rw [start, List.map_map]
      exact new
    have begun := behind_enterSection absent new' rfl (depth line)
    refine .cons ?_ (later.behind absent free rfl target headers)
    rw [begun]
    exact enters

end Reading

/-- A block that is one section on its own: a header, and lines that are read as options of its section
without a fault. -/
structure SectionBlock (source : Path) (block name : Text) (os : Options) : Prop where
  notDefaults : name ≠ defaultsName
  header : ∃ line rest, linesOf block.points = line :: rest ∧
    Reading.header? (Text.trimPoints line) = some name
  /-- The block has no fault, no other header and no options but those of the section. -/
  options : ∃ r, (Reading.start .initial).lines source 1 (linesOf block.points) = .ok r ∧
    r.malformed = [] ∧ r.headers = [name] ∧ r.target = .inSection name ∧ r.finish.options name = os

/-- The first line of a block does not continue the value of an option that a text leaves open: it is not
indented deeper than that option. At the beginning of its line, a header never is. -/
def Shallow (source : Path) (text block : Text) : Prop :=
  ∀ r line, (Reading.start .initial).lines source 1 (linesOf text.points) = .ok r →
    (linesOf block.points).head? = some line → r.isOpen = true → Reading.depth line ≤ r.indent

variable {source place : Path} {text block name : Text} {os : Options}

/-- Behind a text that is read, a further section is read as well: the settings are those of the text,
with that one section at the end. -/
theorem Store.read_further {s : Store} {e : String} (whole : text.Whole)
    (ok : Store.initial.read source text = .ok s) (lineEnd : e ∈ lineEnds)
    (fresh : name ∉ s.sections.map (·.1)) (further : SectionBlock source block name os)
    (shallow : Shallow source text block) : Store.initial.read source (text ++ e ++ block) =
      .ok { s with sections := s.sections ++ [(name, os)] } := by
  obtain ⟨r, reads, rfl⟩ := Store.read_eq_ok_iff.mp ok
  obtain ⟨line, rest, lines, header⟩ := further.header
  obtain ⟨own, alone, sound, headers, target, rfl⟩ := further.options
  obtain ⟨form, opened⟩ := Reading.form_reads Reading.form_start nofun
    (fun ps mem => inline_content whole mem) reads
  obtain ⟨last, ended, same⟩ := Reading.reads_ended (ended_linesOf text.points lineEnd) reads
  have finish : last.finish = r.finish := by
    rcases same with rfl | rfl
    · rfl
    · exact Reading.finish_extend_blank opened
  have outer' : last.isOpen = true → Reading.depth line ≤ last.indent := by
    have bound := shallow r line (Reading.lines_sound_iff.mpr ⟨rfl, reads⟩).1 (by rw [lines]; rfl)
    rcases same with rfl | rfl
    · exact bound
    · rw [Reading.isOpen_extend, Reading.indent_extend]
      exact bound
  have absent : name ∉ last.sections.map (·.1) := by
    rw [← finish, Reading.finish_eq, List.map_map] at fresh
    exact fresh
  have new : name ∉ Store.initial.sections.map (·.1) :=
    fun mem => fresh (form.finish.sections.initial.subset mem)
  have later := Reading.reads_section (Reading.tracked_start.reads ended) absent new
    further.notDefaults header outer' (lines ▸ (Reading.lines_sound_iff.mp ⟨alone, sound⟩).2) headers
    target
  refine Store.read_eq_ok_iff.mpr ⟨last.behind name own, ?_, ?_⟩
  · -- A block that begins with a line end begins with an empty line, which is no header.
    have starts : block.points.head? ≠ some (.char '\n') := by
      intro head
      obtain ⟨behind, front⟩ := List.head?_eq_some_iff.mp head
      rw [front, linesOf_feed] at lines
      cases lines
      cases header
    have split : linesOf (text ++ e ++ block : Text).points =
        linesOf (text.points ++ (Text.ofString e).points) ++ linesOf block.points :=
      linesOf_append_lineEnd lineEnd starts
    rw [split, lines]
    exact Reading.reads_append.mpr ⟨last, ended, later⟩
  · rw [Reading.finish_behind, finish, Reading.options_finish target]

/-- Sections that the program does not know do not matter to it. Where a text of settings is loaded, so
is the same text with any kind of line end and a further section behind it whose header does not continue
a value: the scale, the level, the path, the trace of requests, the overrides and all that is reported are
the same, and the settings are those of the text with that one section at the end. -/
theorem Config.load_further {accounts : Accounts} {folder : Folder} {text e block : String}
    {records : List Log.Record} {c : Config} (holds : folder.Holds source text place)
    (loaded : Config.load accounts folder source = (records, .ok c)) (lineEnd : e ∈ lineEnds)
    (fresh : name ∉ c.store.sections.map (·.1)) (further : SectionBlock source block name os)
    (shallow : Shallow source text block) :
    Config.load accounts { folder with files := folder.files.set place (text ++ e ++ block) } source =
      (records, .ok { c with
        store := { c.store with sections := c.store.sections ++ [(name, os)] } }) := by
  obtain ⟨found, config⟩ := Config.load_eq_ok_iff.mp loaded
  have read := (Store.load_eq_ok_iff holds).mp found
  have whole := Text.whole_ofString text
  have form := Store.form_read whole read
  have same (n : Text) (mem : n ∈ Store.initial.sections.map (·.1)) (key : Text) :
      ({ c.store with sections := c.store.sections ++ [(name, os)] } : Store).raw? n key =
        c.store.raw? n key := by
    refine Store.raw?_append ?_ key
    rintro rfl
    exact fresh (form.sections.initial.subset mem)
  have read' := Store.read_further whole read lineEnd fresh further shallow
  rw [← Text.ofString_append, ← Text.ofString_append] at read'
  refine Config.load_eq_ok_iff.mpr ⟨(Store.load_eq_ok_iff (holds.set _)).mpr read', ?_⟩
  rw [Store.config_congr (same "ecobee" (by decide)) (same "logging" (by decide)), config]
  rfl

section Samples

/-- Settings that end without a line end in an indented value with a reference, below a scale that is not
known. -/
def kelvinText : String :=
  "[DEFAULT]\nlow = debug\n[ecobee]\ntemperature_scale = kelvin\n[logging]\n  level = %(low)s"

/-- A section of its own that sets the same name as the defaults, to a value of several lines. Its header
is indented, but less than the last value above it. -/
def noteText : String := " [note]\nlow: 1\n\n  two\n"

def noteOptions : Options := [("low", "1\n\ntwo")]

def kelvinStore : Store :=
  ⟨[("low", "debug")],
   [("ecobee", [("temperature_scale", "kelvin")]),
    ("logging", [("level", "%(low)s"), ("path", ""), ("log_requests", "false"), ("loggers", "")])]⟩

def kelvinConfig : Config := ⟨.fahrenheit, "debug", none, false, [], kelvinStore, sampleSource⟩

def kelvinFolder : Folder := folderWith kelvinText

def kelvinRecord : Log.Record :=
  { level := .warning, logger := loggerName
    message := some "Unknown temperature_scale 'kelvin', falling back to Fahrenheit" }

theorem sectionBlock_note : SectionBlock sampleSource noteText "note" noteOptions := by
  have first : (linesOf (Text.ofString noteText).points).head? =
      some (Text.ofString " [note]\n").points := by decide +kernel
  obtain ⟨rest, lines⟩ := List.head?_eq_some_iff.mp first
  refine ⟨by decide, ⟨_, rest, lines, by decide +kernel⟩, ?_⟩
  exact ⟨_, rfl, rfl, rfl, rfl, rfl⟩

theorem shallow_note : Shallow sampleSource kelvinText noteText := by
  intro r line read first _
  have ends : ((Reading.start .initial).lines sampleSource 1
      (linesOf (Text.ofString kelvinText).points)).map Reading.indent = .ok 2 := rfl
  have header : (linesOf (Text.ofString noteText).points).head? =
      some (Text.ofString " [note]\n").points := by decide +kernel
  rw [read] at ends
  rw [Except.ok.inj ends, Option.some.inj (first.symm.trans header)]
  decide

theorem Config.load_further_note :
    Config.load sampleAccounts kelvinFolder sampleSource = ([kelvinRecord], .ok kelvinConfig) ∧
      "\r\n" ∈ lineEnds ∧ Text.ofString "note" ∉ kelvinStore.sections.map (·.1) ∧
      SectionBlock sampleSource noteText "note" noteOptions ∧ Shallow sampleSource kelvinText noteText ∧
      Config.load sampleAccounts { kelvinFolder with
        files := kelvinFolder.files.set sampleSource (kelvinText ++ "\r\n" ++ noteText) } sampleSource =
          ([kelvinRecord], .ok { kelvinConfig with
            store := { kelvinStore with
              sections := kelvinStore.sections ++ [(Text.ofString "note", noteOptions)] } }) := by
  have holds : kelvinFolder.Holds sampleSource kelvinText sampleSource := holds_sample kelvinText
  have read : Store.initial.read sampleSource kelvinText = .ok kelvinStore := rfl
  have loaded : Config.load sampleAccounts kelvinFolder sampleSource =
      ([kelvinRecord], .ok kelvinConfig) :=
    Config.load_eq_ok_iff.mpr ⟨(Store.load_eq_ok_iff holds).mpr read, rfl⟩
  have lineEnd : "\r\n" ∈ lineEnds := by decide
  have fresh : Text.ofString "note" ∉ kelvinStore.sections.map (·.1) := by decide
  exact ⟨loaded, lineEnd, fresh, sectionBlock_note, shallow_note,
    Config.load_further holds loaded lineEnd fresh sectionBlock_note shallow_note⟩

def levelText : String := "[logging]\nlevel = INFO\n"

/-- A section on its own, with an indented header. -/
def extraText : String := " [extra]\nlog_requests = true\n"

/-- The settings that come out where the header continues the level. -/
def swallowedStore : Store :=
  ⟨[],
   [("ecobee", [("temperature_scale", "F")]),
    ("logging", [("level", "INFO\n\n[extra]"), ("path", ""), ("log_requests", "true"),
      ("loggers", "")])]⟩

def swallowedConfig : Config :=
  ⟨.fahrenheit, "INFO\n\n[extra]", none, true, [], swallowedStore, sampleSource⟩

/-- A header that is indented deeper than the option above it is none: it becomes a part of the level, and
the options of its section become those of the section above. -/
theorem Config.load_deeper_header :
    Config.load sampleAccounts (folderWith levelText) sampleSource = ([], .ok initialConfig) ∧
      Text.ofString "extra" ∉ initialConfig.store.sections.map (·.1) ∧
      SectionBlock sampleSource extraText "extra" [("log_requests", "true")] ∧
      Config.load sampleAccounts (folderWith (levelText ++ "\n" ++ extraText)) sampleSource =
        ([], .ok swallowedConfig) ∧
      swallowedConfig.level ≠ initialConfig.level ∧
      swallowedConfig.logRequests ≠ initialConfig.logRequests ∧
      Text.ofString "extra" ∉ swallowedConfig.store.sections.map (·.1) := by
  have loads {text : String} {c : Config} (read : Store.initial.read sampleSource text = .ok c.store)
      (config : c.store.config sampleAccounts sampleSource = ([], .ok c)) :
      Config.load sampleAccounts (folderWith text) sampleSource = ([], .ok c) :=
    Config.load_eq_ok_iff.mpr ⟨(Store.load_eq_ok_iff (holds_sample text)).mpr read, config⟩
  have first : (linesOf (Text.ofString extraText).points).head? =
      some (Text.ofString " [extra]\n").points := by decide +kernel
  obtain ⟨rest, lines⟩ := List.head?_eq_some_iff.mp first
  have block : SectionBlock sampleSource extraText "extra" [("log_requests", "true")] := by
    refine ⟨by decide, ⟨_, rest, lines, by decide +kernel⟩, ?_⟩
    exact ⟨_, rfl, rfl, rfl, rfl, rfl⟩
  have before : Config.load sampleAccounts (folderWith levelText) sampleSource =
      ([], .ok initialConfig) := loads rfl rfl
  have after : Config.load sampleAccounts (folderWith (levelText ++ "\n" ++ extraText)) sampleSource =
      ([], .ok swallowedConfig) := loads rfl rfl
  exact ⟨before, by decide, block, after, by decide, by decide, by decide⟩

end Samples

end Thermostat.Settings
