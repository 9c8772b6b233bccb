import Thermostat.Proofs.Calendar.WireReading
import Thermostat.Proofs.Request.WindowOrder
import Thermostat.Proofs.Text.Append

/-! The ends of a window as they are read back from what a request sends for them. -/
namespace Thermostat

namespace Request

/-- The text that a request sends under a name. -/
def text? (r : Request) (name : String) : Option Text :=
  match Entries.get? r.params name with
  | some (.text l) => some l.content
  | _ => none

/-- The date and the time that a request sends, written as one moment. -/
def moment? (r : Request) (date time : String) : Option Text := do
  let d ← r.text? date
  let t ← r.text? time
  some (d ++ "T" ++ t)

theorem mem_windowEnds_iff {parameter date time : String} :
    (parameter, [date, time]) ∈ windowEnds ↔
      parameter = "start_date_time" ∧ date = "startDate" ∧ time = "startTime" ∨
        parameter = "end_date_time" ∧ date = "endDate" ∧ time = "endTime" := by
  simp [windowEnds]

end Request

namespace RequestKind

variable {k : RequestKind} {a : Arguments} {r : Request} {parameter date time : String} {d : DateTime}

theorem windowed_of_mem_names (isEnd : (parameter, [date, time]) ∈ Request.windowEnds)
    (mem : parameter ∈ k.signature.names) : k ∈ windowed := by
  have takes : ∀ e ∈ Request.windowEnds, e.1 ∈ k.signature.names → k ∈ windowed := by
    cases k <;> decide
  exact takes _ isEnd mem

/-- The end of a window that an argument gives is sent as its clock shows it. -/
theorem sent_end (takes : k ∈ windowed) (ok : (k.make a).2 = .ok r)
    (isEnd : (parameter, [date, time]) ∈ Request.windowEnds) (given : a.value parameter = .dateTime d) :
    Entries.get? r.params date = some (.text (.text d.date.wire)) ∧
      Entries.get? r.params time = some (.text (.text d.time.wire)) := by
  obtain ⟨⟨start, finish⟩, taken, read⟩ := window_of_make takes ok
  obtain ⟨first, last, -⟩ := Window.read_eq_ok_iff.mp read
  rcases Request.mem_windowEnds_iff.mp isEnd with ⟨rfl, rfl, rfl⟩ | ⟨rfl, rfl, rfl⟩
  · rw [given, eq_comm, Window.momentValue_eq_dateTime_iff] at first
    cases first
    exact Request.sent_start taken
  · rw [given, eq_comm, Window.momentValue_eq_dateTime_iff] at last
    cases last
    exact Request.sent_finish taken

/-- A moment that was accepted as an end of a window is read back from its date and its time to the
second, as its own clock shows it, unless its year has less than four digits: then nothing is read. -/
theorem read?_sent_end {placed : List Value} {named : List (Text × Value)} {records : List Log.Record}
    (made : k.construct placed named = .ok (records, .ok r))
    (isEnd : (parameter, [date, time]) ∈ Request.windowEnds)
    (given : (k.signature.bound placed named).value parameter = .dateTime d) :
    ∃ t, r.moment? date time = some t ∧
      DateTime.read? t = if 1000 ≤ d.date.year then some d.shown else none := by
  obtain ⟨fits, made⟩ := construct_eq_ok_iff.mp made
  have known : parameter ∈ k.signature.names := by
    by_contra free
    rw [← Signature.names_bound _ named fits.room] at free
    rw [Arguments.value_eq, Entries.get?_eq_none_iff.mpr free] at given
    cases given
  obtain ⟨dated, timed⟩ :=
    sent_end (windowed_of_mem_names isEnd known) (congrArg Prod.snd made) isEnd given
  refine ⟨Text.ofString d.wire, ?_, d.read?_wire⟩
  rw [Request.moment?, Request.text?, dated, Request.text?, timed, DateTime.wire, Text.ofString_append,
    Text.ofString_append]
  rfl

/-- A plug is to be on from the year 7, which cannot be read back, to the last moment of the calendar. -/
theorem read?_sent_end_early :
    let last : DateTime := ⟨{ year := 9999, month := 12, day := 31 },
      { hour := 23, minute := 59, second := 59, microsecond := 999999 }, some .zero⟩
    ∃ r, RequestKind.controlPlug.construct
        [.string "Garage", .string "on", .dateTime .early, .dateTime last] [] = .ok ([], .ok r) ∧
      (∃ t, r.moment? "startDate" "startTime" = some t ∧ DateTime.read? t = none) ∧
      ∃ t, r.moment? "endDate" "endTime" = some t ∧ DateTime.read? t = some last.shown := by
  intro last
  have ordered : (Window.mk (some .early) (some last)).Ordered := by
    rintro _ _ ⟨⟩ ⟨⟩
    exact ⟨rfl, by decide +kernel⟩
  obtain ⟨r, made⟩ := construct_sample (k := .controlPlug) (by decide) ordered
  refine ⟨r, made, ?_, ?_⟩
  · exact read?_sent_end (d := .early) made List.mem_cons_self rfl
  · exact read?_sent_end (d := last) made (List.mem_cons_of_mem _ List.mem_cons_self) rfl

end RequestKind

end Thermostat
