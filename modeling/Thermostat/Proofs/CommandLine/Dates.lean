import Thermostat.Proofs.CommandLine.Render
import Thermostat.Proofs.Request.WindowReading

/-! Moments in the arguments of an action that is rendered: what is shown has each of them with its date
and its time to the second, or nothing is shown. -/
namespace Thermostat

namespace Action

/-- The ends of a window reach the request as they were given. -/
theorem value_handed {scale : TemperatureScale} {action : Action} {a b : Arguments}
    (ok : action.handed scale a = .ok b) {parameter : String} {names : List String}
    (isEnd : (parameter, names) ∈ Request.windowEnds) : b.value parameter = a.value parameter := by
  have apart : ∀ e ∈ Request.windowEnds, e.1 ∉ ["selection", "cool_hold_temp", "heat_hold_temp",
      "hold_climate_ref", "params", "event"] := by decide
  have free := apart _ isEnd
  simp only [List.mem_cons, List.not_mem_nil, or_false, not_or] at free
  obtain ⟨selection, cool, heat, climate, params, event⟩ := free
  cases action
  case createVacation =>
    obtain ⟨c, -, ok⟩ := bind_eq_ok_iff.mp ok
    obtain ⟨h, -, ok⟩ := bind_eq_ok_iff.mp ok
    cases ok
    rw [Arguments.value_cons, Arguments.value_cons, if_neg (Ne.symm cool), if_neg (Ne.symm heat),
      Arguments.value_without]
    simp [selection, cool, heat]
  case setHold =>
    obtain ⟨e, -, ok⟩ := bind_eq_ok_iff.mp ok
    cases ok
    rw [Arguments.value_cons, if_neg (Ne.symm event), Arguments.value_without]
    simp [selection, cool, heat, climate]
  case setHoldParams =>
    obtain ⟨es, -, ok⟩ := bind_eq_ok_iff.mp ok
    obtain ⟨e, -, ok⟩ := bind_eq_ok_iff.mp ok
    cases ok
    rw [Arguments.value_cons, if_neg (Ne.symm event), Arguments.value_without]
    simp [selection, params]
  all_goals
    cases ok
    exact Arguments.value_without _ (by simp [selection])

theorem names_kind (action : Action) : ∀ e ∈ Request.windowEnds,
    e.1 ∈ action.signature.names → e.1 ∈ action.kind.signature.names := by
  cases action <;> decide

/-- An end of a window that an action is given is sent, and it is a moment. -/
theorem sent_moment {scale : TemperatureScale} {action : Action} {a : Arguments} {r : Request}
    {parameter date time : String} (isEnd : (parameter, [date, time]) ∈ Request.windowEnds)
    (known : parameter ∈ action.signature.names) (given : a.value parameter ≠ .none)
    (ok : (action.makeRequest scale a).2 = .ok r) :
    ∃ d, a.value parameter = .dateTime d ∧
      Entries.get? r.params date = some (.text (.text d.date.wire)) ∧
      Entries.get? r.params time = some (.text (.text d.time.wire)) := by
  rw [makeRequest_eq, bind_eq_ok_iff] at ok
  obtain ⟨b, handed, ok⟩ := ok
  have takes := RequestKind.windowed_of_mem_names isEnd (action.names_kind _ isEnd known)
  have value := value_handed handed isEnd
  obtain ⟨w, -, read⟩ := RequestKind.window_of_make takes ok
  obtain ⟨start, finish, -⟩ := Window.read_eq_ok_iff.mp read
  have moment : ∃ o, b.value parameter = Window.momentValue o := by
    rcases Request.mem_windowEnds_iff.mp isEnd with ⟨rfl, -⟩ | ⟨rfl, -⟩
    · exact ⟨_, start⟩
    · exact ⟨_, finish⟩
  rw [Window.exists_momentValue_iff, value] at moment
  obtain ⟨d, moment⟩ := moment.resolve_left given
  exact ⟨d, moment, RequestKind.sent_end takes ok isEnd (value.trans moment)⟩

end Action

namespace CommandLine

/-- The moment that a value is read as. -/
def momentOf? : Value → Option DateTime
  | .dateTime d => some d
  | .text l => DateTime.read? l.content
  | _ => none

/-- A document of one request is shown, in which some parts are texts. -/
def ShowsParts (out : Text) (parts : List (String × String)) : Prop :=
  ∃ selection type params, (∀ room, 4 ≤ room → Json.read (some digitLimit) room out =
      .ok (.dict [("selection", selection),
        ("functions", .list [.dict [("type", type), ("params", .dict params)]])])) ∧
    ∀ p ∈ parts, Entries.get? params p.1 = some (.string p.2)

/-- What becomes of a value for an argument that is a moment by its name: either it is read as a moment
and shown under the names of that end of a window, or nothing is shown. -/
structure KeepsMoment (a : Action) (name : Text) (v : Value) (report : Report) : Prop where
  finishes : report.ending = .finished 0 ∨ report.ending = .finished 1
  kept : report.ending = .finished 0 → ∃ d parameter date time, momentOf? v = some d ∧
    name = Text.ofString parameter ∧ parameter ∈ a.signature.names ∧
    (parameter, [date, time]) ∈ Request.windowEnds ∧
    ShowsParts report.out [(date, d.date.wire), (time, d.time.wire)]
  silent : report.ending ≠ .finished 0 → report.out = ""

theorem readMoment_eq {name : Text} {v : Value} (moment : namesMoment name = true) :
    readMoment name v = ((momentOf? v).map .dateTime).getD v := by
  cases v with
  | text l =>
    dsimp only [readMoment, momentOf?]
    rw [if_pos moment]
    cases DateTime.read? l.content <;> rfl
  | _ => rfl

theorem momentOf?_of_readMoment {name : Text} {v : Value} {d : DateTime} (moment : namesMoment name = true)
    (read : readMoment name v = .dateTime d) : momentOf? v = some d := by
  rw [readMoment_eq moment] at read
  cases found : momentOf? v with
  | some e =>
    rw [found] at read
    cases read
    rfl
  | none =>
    rw [found, Option.map_none, Option.getD_none] at read
    rw [read] at found
    cases found

theorem readMoment_ne_none {name : Text} {v : Value} (given : v ≠ .none) : readMoment name v ≠ .none := by
  unfold readMoment
  split
  · split
    · split <;> nofun
    · nofun
  · exact given

theorem get?_argumentsOf (entries : List (Text × Value)) (name : Text) :
    Entries.get? (argumentsOf entries) name = (Entries.get? entries name).map (readMoment name) :=
  Entries.get?_map_named readMoment entries name

/-- Only the ends of windows are called as moments are. -/
theorem windowEnd_of_namesMoment (a : Action) : ∀ p ∈ a.signature.parameters,
    namesMoment p.name = true → p.name = "start_date_time" ∨ p.name = "end_date_time" := by
  cases a <;> decide

/-- What is rendered shows the texts that the request sends. -/
theorem showsParts_iff (m : Machine) (p : Progress) (c : Settings.Config)
    {action selection arguments : Text} {a : Action} {named : List (Text × Value)} {r : Request}
    (makes : Makes m.depth c.scale action selection arguments a named r)
    (parts : List (String × String)) :
    ShowsParts (perform m p c (.render action (some selection) (some arguments))).out parts ↔
      ∀ part ∈ parts, ∃ l, Entries.get? r.params part.1 = some (.text l) ∧
        Json.joined l.content = Text.ofString part.2 := by
  have sent (name : String) :
      Entries.get? (r.params.map fun p => (Text.ofString p.1, paramValue Json.joined p.2))
        (Text.ofString name) = (Entries.get? r.params name).map (paramValue Json.joined) := by
    rw [← Entries.get?_map, ← Entries.get?_map_of_injective fun _ _ => Text.ofString_inj.mp, List.map_map]
    rfl
  constructor
  · rintro ⟨first, type, params, shown, each⟩ part mem
    have shown := shown 4 (Nat.le_refl 4)
    rw [read_out_of_makes m p c makes (Nat.le_refl 4)] at shown
    simp only [document, Except.ok.injEq, Value.dict.injEq, Value.list.injEq, List.cons.injEq,
      Prod.mk.injEq, true_and, and_true] at shown
    obtain ⟨-, -, rfl⟩ := shown
    have found := each part mem
    rw [sent, Option.map_eq_some_iff] at found
    obtain ⟨q, found, same⟩ := found
    cases q with
    | text l => exact ⟨l, found, Label.text.inj (Value.text.inj same)⟩
    | _ => cases same
  · intro each
    refine ⟨_, _, _, fun room le => read_out_of_makes m p c makes le, fun part mem => ?_⟩
    obtain ⟨l, found, joined⟩ := each part mem
    rw [sent, found, Option.map_some, paramValue, joined]
    rfl

theorem Makes.shows_moment {depth : Nat} {scale : TemperatureScale}
    {action selection arguments : Text} {a : Action} {named : List (Text × Value)} {r : Request}
    {name : Text} {v : Value} (makes : Makes depth scale action selection arguments a named r)
    (found : Entries.get? named name = some (readMoment name v)) (moment : namesMoment name = true)
    (present : v ≠ .none) :
    ∃ d parameter date time, momentOf? v = some d ∧ name = Text.ofString parameter ∧
      parameter ∈ a.signature.names ∧ (parameter, [date, time]) ∈ Request.windowEnds ∧
      Entries.get? r.params date = some (.text (.text d.date.wire)) ∧
      Entries.get? r.params time = some (.text (.text d.time.wire)) := by
  obtain ⟨q, behind, rfl⟩ := makes.fits.known _ (Entries.mem_of_get? found)
  have param := List.mem_of_mem_drop behind
  have known : q.name ∈ a.signature.names := List.mem_map_of_mem param
  have value := a.signature_distinct.value_bound_rest named makes.fits.room behind
  rw [found, Option.getD_some] at value
  have given : (a.signature.bound [.text (.text selection)] named).value q.name ≠ .none := by
    rw [value]
    exact readMoment_ne_none present
  obtain ⟨date, time, isEnd⟩ : ∃ date time, (q.name, [date, time]) ∈ Request.windowEnds := by
    rcases windowEnd_of_namesMoment a q param moment with same | same <;> rw [same]
    · exact ⟨_, _, List.mem_cons_self⟩
    · exact ⟨_, _, List.mem_cons_of_mem _ List.mem_cons_self⟩
  obtain ⟨d, read, sent⟩ := Action.sent_moment isEnd known given makes.made
  exact ⟨d, q.name, date, time, momentOf?_of_readMoment moment (value.symm.trans read), rfl, known,
    isEnd, sent⟩

/-- Rendering keeps each moment that it is given, or shows nothing. -/
theorem perform_render_keeps (m : Machine) (p : Progress) (c : Settings.Config)
    {action selection arguments name : Text} {a : Action} {entries : List (Text × Value)} {v : Value}
    (documented : findAction? action = some a)
    (object : Json.read (some digitLimit) m.depth arguments = .ok (.dict entries))
    (given : Entries.get? entries name = some v) (moment : namesMoment name = true)
    (present : v ≠ .none) :
    KeepsMoment a name v (perform m p c (.render action (some selection) (some arguments))) := by
  by_cases makes : ∃ b named r, Makes m.depth c.scale action selection arguments b named r
  · obtain ⟨b, named, r, makes⟩ := makes
    have ending := ending_of_makes m p c makes
    refine ⟨Or.inl ending, fun _ => ?_, fun other => absurd ending other⟩
    obtain ⟨called, entries', read, rfl⟩ := makes.asked
    rw [findAction?_eq_some_iff.mpr called] at documented
    rw [read] at object
    cases documented
    cases object
    have found : Entries.get? (argumentsOf entries) name = some (readMoment name v) := by
      rw [get?_argumentsOf, given, Option.map_some]
    obtain ⟨d, parameter, date, time, read, same, known, isEnd, dated, timed⟩ :=
      makes.shows_moment found moment present
    refine ⟨d, parameter, date, time, read, same, known, isEnd, (showsParts_iff m p c makes _).mpr ?_⟩
    simp only [List.forall_mem_cons]
    exact ⟨⟨_, dated, Json.joined_ofString _⟩, ⟨_, timed, Json.joined_ofString _⟩, List.forall_mem_nil _⟩
  · have shallow : ¬ TooDeep m.depth action arguments := by
      rintro ⟨-, c, deep⟩
      cases object.symm.trans deep
    obtain ⟨finished, silent⟩ :=
      silent_of_not_makes m p c shallow fun b named r made => makes ⟨b, named, r, made⟩
    refine ⟨Or.inr finished, fun ending => ?_, fun _ => silent⟩
    rw [finished] at ending
    cases ending

section Samples

/-- Half a second past eight. -/
def fractional : DateTime :=
  ⟨{ year := 2026, month := 12, day := 20 },
    { TimeOfDay.midnight with
      hour := 8, hour_lt := by decide, microsecond := 500000, microsecond_lt := by decide }, none⟩

def fractionalArguments : Text :=
  "\x7b\"occupied\": true, \"start_date_time\": \"2026-12-20T08:00:00.500000\"\x7d"

theorem read_fractionalArguments :
    Json.read (some digitLimit) 900 fractionalArguments =
      .ok (.dict [("occupied", .bool true), ("start_date_time", .string fractional.iso)]) := by
  have iso : fractional.iso = "2026-12-20T08:00:00.500000" := by decide +kernel
  rw [iso]
  cbv

/-- A start that is read and shown to the second. -/
theorem perform_render_keeps_start :
    findAction? "set-occupied" = some .setOccupied ∧
      Json.read (some digitLimit) 900 fractionalArguments =
        .ok (.dict [("occupied", .bool true), ("start_date_time", .string fractional.iso)]) ∧
      KeepsMoment .setOccupied "start_date_time" (.string fractional.iso)
        (perform sampleMachine sampleStart sampleConfig
          (.render "set-occupied" (some "home") (some fractionalArguments))) :=
  ⟨rfl, read_fractionalArguments, perform_render_keeps sampleMachine sampleStart sampleConfig rfl
    read_fractionalArguments rfl (by decide) nofun⟩

/-- A part of a second is read, but it is not shown. -/
theorem render_drops_fraction :
    momentOf? (.string fractional.iso) = some fractional ∧
      (perform sampleMachine sampleStart sampleConfig
        (.render "set_occupied" (some "home") (some fractionalArguments))).ending = .finished 0 ∧
      ¬ ShowsParts (perform sampleMachine sampleStart sampleConfig
        (.render "set_occupied" (some "home") (some fractionalArguments))).out
          [("startDate", fractional.date.wire), ("startTime", fractional.time.iso)] := by
  have moment : momentOf? (.string fractional.iso) = some fractional := fractional.read?_iso
  have named : argumentsOf [("occupied", .bool true), ("start_date_time", .string fractional.iso)] =
      ([("occupied", .bool true), ("start_date_time", .dateTime fractional)] : List (Text × Value)) := by
    have start : readMoment "start_date_time" (.string fractional.iso) = .dateTime fractional := by
      rw [readMoment_eq (by decide), moment]
      rfl
    unfold argumentsOf
    rw [List.map_cons, List.map_cons, start]
    rfl
  have fits : Action.setOccupied.signature.Fits [.string "home"]
      [("occupied", .bool true), ("start_date_time", .dateTime fractional)] :=
    ((Action.signature_distinct _).bind_eq_ok_iff _ _ _).mp rfl |>.1
  have makes : Makes 900 sampleConfig.scale "set_occupied" "home" fractionalArguments .setOccupied
      [("occupied", .bool true), ("start_date_time", .dateTime fractional)]
      (.setOccupied true ⟨⟨some fractional, none⟩, none, none⟩) :=
    ⟨⟨rfl, _, read_fractionalArguments, named.symm⟩, fits, rfl⟩
  refine ⟨moment, ending_of_makes sampleMachine sampleStart sampleConfig makes, fun shows => ?_⟩
  obtain ⟨l, found, joined⟩ := (showsParts_iff sampleMachine sampleStart sampleConfig makes _).mp shows
    ("startTime", fractional.time.iso) (List.mem_cons_of_mem _ List.mem_cons_self)
  cases found
  change Json.joined (Text.ofString fractional.time.wire) = _ at joined
  rw [Json.joined_ofString, Text.ofString_inj] at joined
  exact absurd joined (by decide +kernel)

end Samples

end CommandLine

end Thermostat
