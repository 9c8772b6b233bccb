import Thermostat.Proofs.Folder
import Thermostat.Proofs.Settings.RoundTrip
import Thermostat.Proofs.Text.Append
import Thermostat.Proofs.Text.Whole

/-! Saving and loading a configuration: nothing that was loaded or changed is lost. -/
namespace Thermostat.Settings

theorem writeParts_of_whole {ts : List Text} (whole : ∀ t ∈ ts, t.Whole) :
    ∃ s, writeParts ts = (s, none) ∧ Text.ofString s = Text.join ts := by
  induction ts with
  | nil => exact ⟨"", rfl, rfl⟩
  | cons t ts ih =>
    obtain ⟨first, whole⟩ := List.forall_mem_cons.mp whole
    obtain ⟨front, written, same⟩ := first.exists_toString?
    obtain ⟨back, rest, same'⟩ := ih whole
    refine ⟨front ++ back, by rw [writeParts, written, rest], ?_⟩
    rw [Text.ofString_append, same, same']
    rfl

theorem ValueForm.whole {option v : Text} (form : ValueForm option v) : v.Whole := by
  obtain ⟨first, rest, form, -, value⟩ := form
  intro p mem
  rw [value] at mem
  rcases List.mem_append.mp mem with front | later
  · exact (form.inline first List.mem_cons_self p front).whole
  · obtain ⟨l, there, mem⟩ := List.mem_flatMap.mp later
    rcases List.mem_cons.mp mem with rfl | inside
    · rfl
    · exact (form.inline l (List.mem_cons_of_mem _ there) p inside).whole

theorem whole_writeValue {v : Text} (whole : v.Whole) : (Store.writeValue v).Whole := by
  intro p mem
  obtain ⟨q, there, mem⟩ := List.mem_flatMap.mp mem
  split at mem
  · rcases List.mem_cons.mp mem with rfl | tab
    · exact whole p there
    · rw [List.mem_singleton.mp tab]
      rfl
  · exact List.mem_singleton.mp mem ▸ whole q there

theorem whole_writeSection {name : Text} {os : Options} (named : ∀ p ∈ name.points, Inline p)
    (form : OptionsForm ValueForm os) : ∀ t ∈ Store.writeSection name os, t.Whole := by
  have header : ("[" ++ name ++ "]\n" : Text).Whole :=
    ((Text.whole_ofString _).append fun p mem => (named p mem).whole).append (Text.whole_ofString _)
  have option {e : Text × Text} (mem : e ∈ os) :
      (e.1 ++ " = " ++ Store.writeValue e.2 ++ "\n" : Text).Whole := by
    have key : e.1.Whole := fun p there => ((form.names e mem).inline p there).whole
    have value := whole_writeValue (form.values e mem).whole
    exact ((key.append (Text.whole_ofString _)).append value).append (Text.whole_ofString _)
  intro t mem
  rcases List.mem_append.mp mem with front | last
  · rcases List.mem_cons.mp front with rfl | inside
    · exact header
    · obtain ⟨e, there, rfl⟩ := List.mem_map.mp inside
      exact option there
  · exact List.mem_singleton.mp last ▸ Text.whole_ofString "\n"

theorem Store.Form.whole {s : Store} (form : s.Form) : ∀ t ∈ s.write, t.Whole := by
  intro t mem
  rcases List.mem_append.mp mem with defaults | sections
  · split at defaults
    · cases defaults
    · exact whole_writeSection (by decide) form.defaults t defaults
  · obtain ⟨e, there, part⟩ := List.mem_flatMap.mp sections
    exact whole_writeSection (form.sections.names e there).inline (form.sections.options e there) t part

/-! ## Configurations -/

variable {accounts : Accounts} {folder : Folder} {source place : Path} {text : String}
  {records : List Log.Record}
  {c : Config} {s : Store}

/-- A configuration holds the settings that it was read from, and knows their file. -/
theorem of_readRest {scale : TemperatureScale} (ok : readRest accounts source s scale = .ok c) :
    c.store = s ∧ c.source = source := by
  obtain ⟨path, -, ok⟩ := bind_eq_ok_iff.mp ok
  obtain ⟨level, -, ok⟩ := bind_eq_ok_iff.mp ok
  obtain ⟨logPath, -, ok⟩ := bind_eq_ok_iff.mp ok
  obtain ⟨requests, -, ok⟩ := bind_eq_ok_iff.mp ok
  obtain ⟨logRequests, -, ok⟩ := bind_eq_ok_iff.mp ok
  obtain ⟨loggers, -, ok⟩ := bind_eq_ok_iff.mp ok
  cases ok
  exact ⟨rfl, rfl⟩

theorem Store.of_config (ok : s.config accounts source = (records, .ok c)) :
    c.store = s ∧ c.source = source := by
  unfold config at ok
  split at ok
  · cases (Prod.mk.inj ok).2
  · exact of_readRest (Prod.mk.inj ok).2

theorem Config.load_eq_ok_iff : Config.load accounts folder source = (records, .ok c) ↔
    Store.load folder source = .ok c.store ∧ c.store.config accounts source = (records, .ok c) := by
  cases loaded : Store.load folder source with
  | error e => simp [load, loaded]
  | ok s =>
    have whole : Config.load accounts folder source = (records, .ok c) ↔
        s.config accounts source = (records, .ok c) := by
      simp only [load, loaded, Prod.ext_iff, mapError_eq_ok_iff]
    rw [whole, Except.ok.injEq]
    constructor
    · intro config
      obtain ⟨same, -⟩ := Store.of_config config
      exact ⟨same.symm, same ▸ config⟩
    · rintro ⟨rfl, config⟩
      exact config

theorem Store.load_eq_ok_iff (holds : folder.Holds source text place) :
    Store.load folder source = .ok s ↔ Store.initial.read source text = .ok s := by
  simp only [load, holds.read, mapError_eq_ok_iff]

/-- A configuration is saved in the file that it comes from, and nothing else changes. -/
theorem Config.save_eq (form : c.store.Form) (holds : folder.Holds c.source text place) :
    ∃ written, Text.ofString written = Text.join c.store.write ∧
      c.save folder = ({ folder with files := folder.files.set place written }, none) := by
  obtain ⟨written, parts, same⟩ := writeParts_of_whole form.whole
  refine ⟨written, same, ?_⟩
  simp only [save, holds.makeDirectories, parts, holds.write_eq, Option.map_none]

/-- Nothing is lost when a configuration is saved that was loaded and changed: its settings are loaded
as they were, they are written in the same way again, and without changes the configuration is the same
in all its parts. -/
theorem Config.load_save {changes : List Change} {store : Store}
    (holds : folder.Holds source text place)
    (loaded : Config.load accounts folder source = (records, .ok c))
    (plain : ∀ change ∈ changes, change.Plain)
    (changed : changes.foldlM Store.adjust c.store = .ok store) :
    ∃ saved, ({ c with store := store } : Config).save folder = (saved, none) ∧
      Store.load saved source = .ok store ∧
      (∀ records' c', Config.load accounts saved source = (records', .ok c') →
        c'.store = store ∧ c'.save saved = (saved, none)) ∧
      (changes = [] → Config.load accounts saved source = (records, .ok c)) := by
  obtain ⟨found, config⟩ := Config.load_eq_ok_iff.mp loaded
  obtain ⟨-, rfl⟩ := Store.of_config config
  have read := (Store.load_eq_ok_iff holds).mp found
  have form := (Store.form_read (Text.whole_ofString text) read).adjustAll plain changed
  obtain ⟨written, same, save⟩ := Config.save_eq (c := { c with store := store }) form holds
  have holds' := holds.set written
  have reloaded : Store.load { folder with files := folder.files.set place written } c.source =
      .ok store := by
    rw [Store.load_eq_ok_iff holds', same]
    exact Store.read_write form c.source
  refine ⟨_, save, reloaded, fun records' c' again => ?_, fun none => ?_⟩
  · obtain ⟨found', config'⟩ := Config.load_eq_ok_iff.mp again
    obtain ⟨-, source'⟩ := Store.of_config config'
    have store' : c'.store = store := Except.ok.inj (found'.symm.trans reloaded)
    obtain ⟨written', same', save'⟩ := Config.save_eq (store' ▸ form) (source' ▸ holds')
    -- The same settings are written in the same way, so the file is set to what is in it.
    have twice : written' = written := by
      rw [← Text.ofString_inj, same', same, store']
    refine ⟨store', ?_⟩
    rw [save', twice, Entries.set_of_get? holds'.file]
  · subst none
    cases changed
    exact Config.load_eq_ok_iff.mpr ⟨reloaded, config⟩

section Samples

def sampleSource : Path := ⟨"", ["ecobee-actions.cfg"]⟩

/-- Settings with defaults, a section of their own and a value of several lines, one of them empty. -/
def sampleText : String := "[DEFAULT]\na = b\n[note]\nK: one\n\n  two\n"

def sampleStore : Store :=
  ⟨[("a", "b")],
   [("ecobee", [("temperature_scale", "F")]),
    ("logging", [("level", "INFO"), ("path", ""), ("log_requests", "false"), ("loggers", "")]),
    ("note", [("k", "one\n\ntwo")])]⟩

def sampleConfig : Config := ⟨.fahrenheit, "INFO", none, false, [], sampleStore, sampleSource⟩

/-- A directory with a file of settings. -/
def folderWith (text : String) : Folder := { Folder.empty with files := [(sampleSource, text)] }

theorem holds_sample (text : String) : (folderWith text).Holds sampleSource text sampleSource :=
  ⟨rfl, rfl, rfl⟩

def sampleAccounts : Accounts := ⟨.ofText "/home/user", []⟩

/-- Settings that are loaded, changed and kept. -/
theorem Config.load_save_sample :
    Config.load sampleAccounts (folderWith sampleText) sampleSource = ([], .ok sampleConfig) ∧
      ∃ store saved, [Change.mk "logging" "level" "DEBUG"].foldlM Store.adjust sampleStore = .ok store ∧
        ({ sampleConfig with store := store } : Config).save (folderWith sampleText) = (saved, none) ∧
        Store.load saved sampleSource = .ok store := by
  have holds := holds_sample sampleText
  have read : Store.initial.read sampleSource sampleText = .ok sampleStore := rfl
  have loaded : Config.load sampleAccounts (folderWith sampleText) sampleSource =
      ([], .ok sampleConfig) :=
    Config.load_eq_ok_iff.mpr ⟨(Store.load_eq_ok_iff holds).mpr read, rfl⟩
  have plain : ∀ change ∈ [Change.mk "logging" "level" "DEBUG"], change.Plain := by
    intro change mem
    rw [List.mem_singleton.mp mem]
    exact ⟨by decide, by decide, by decide⟩
  obtain ⟨saved, save, reloaded, -⟩ := Config.load_save holds loaded plain rfl
  exact ⟨loaded, _, saved, rfl, save, reloaded⟩

def half : Text := ⟨[.ofNat CodePoint.firstHalf]⟩

def initialConfig : Config := ⟨.fahrenheit, "INFO", none, false, [], .initial, sampleSource⟩

/-- The settings of an empty file with half of a pair as a level. -/
def halvedStore : Store :=
  ⟨[], [("ecobee", [("temperature_scale", "F")]), ("logging",
    [("level", half), ("path", ""), ("log_requests", "false"), ("loggers", "")])]⟩

/-- A half of a pair is accepted as a value, but it cannot be saved: the file is left without it and
without all that stands behind it. -/
theorem Config.save_half :
    Config.load sampleAccounts (folderWith "") sampleSource = ([], .ok initialConfig) ∧
      Text.trim half = half ∧
      initialConfig.store.adjust ⟨"logging", "level", half⟩ = .ok halvedStore ∧
      ∃ saved fault, ({ initialConfig with store := halvedStore } : Config).save
          (folderWith "") = (saved, some (.unwritable fault)) ∧
        Store.load saved sampleSource = .ok .initial ∧ Store.initial ≠ halvedStore := by
  have holds := holds_sample ""
  have read : Store.initial.read sampleSource (Text.ofString "") = .ok .initial := rfl
  have loaded : Config.load sampleAccounts (folderWith "") sampleSource = ([], .ok initialConfig) :=
    Config.load_eq_ok_iff.mpr ⟨(Store.load_eq_ok_iff holds).mpr read, rfl⟩
  have parts : writeParts halvedStore.write =
      ("[ecobee]\ntemperature_scale = F\n\n[logging]\n", some ⟨8, .ofNat CodePoint.firstHalf, 1⟩) := by
    decide +kernel
  have makes : (folderWith "").makeDirectories sampleSource.parent =
      (folderWith "", none) := holds.makeDirectories
  have save : ({ initialConfig with store := halvedStore } : Config).save (folderWith "") =
      (folderWith "[ecobee]\ntemperature_scale = F\n\n[logging]\n",
        some (.unwritable ⟨8, .ofNat CodePoint.firstHalf, 1⟩)) := by
    simp only [save, initialConfig, makes, parts, holds.write_eq, Option.map_some]
    rfl
  have cut := holds.set "[ecobee]\ntemperature_scale = F\n\n[logging]\n"
  exact ⟨loaded, by decide, rfl, _, _, save, (Store.load_eq_ok_iff cut).mpr rfl, by decide⟩

end Samples

end Thermostat.Settings
