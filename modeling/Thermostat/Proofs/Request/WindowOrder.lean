import Thermostat.Proofs.Calendar.Order
import Thermostat.Proofs.Request.Rendering

/-! The window of a request as it is sent. Its ends are compared as moments of universal time, but sent
as their own clocks show them: an end whose clock is behind that of the start may be sent as the earlier
of the two. -/
namespace Thermostat

namespace Request

/-- A request sends a moment under the names of a date and of a time of day. -/
def Shows (r : Request) (date time : String) (m : List Nat) : Prop :=
  ∃ (d : Date) (t : TimeOfDay), Entries.get? r.params date = some (.text (.text d.wire)) ∧
    Entries.get? r.params time = some (.text (.text t.wire)) ∧ m = d.fields ++ t.fields

/-- Both ends of a window are sent, and the end is not read as earlier than the start. -/
def Forward (r : Request) : Prop :=
  ∃ m n, r.Shows "startDate" "startTime" m ∧ r.Shows "endDate" "endTime" n ∧ ¬ Earlier n m

variable {r : Request}

/-- What is sent can be read in one way only. -/
theorem Shows.unique {date time : String} {m n : List Nat} (first : r.Shows date time m)
    (second : r.Shows date time n) : m = n := by
  obtain ⟨d, t, dated, timed, rfl⟩ := first
  obtain ⟨e, u, dated', timed', rfl⟩ := second
  have date := Label.text.inj (Param.text.inj (Option.some.inj (dated.symm.trans dated')))
  have time := Label.text.inj (Param.text.inj (Option.some.inj (timed.symm.trans timed')))
  obtain rfl := Date.wire_inj.mp (Text.ofString_inj.mp date)
  obtain ⟨hour, minute, second⟩ := TimeOfDay.wire_eq_iff.mp (Text.ofString_inj.mp time)
  simp only [TimeOfDay.fields, hour, minute, second]

/-- A moment that is stored as the date and the time of an end is sent as its clock shows it. -/
theorem sent_of_stored {w : Window} {d : DateTime} {p date time : String} (taken : r.window? = some w)
    (dated : ⟨p, date, some (.date d.date)⟩ ∈ w.stored)
    (timed : ⟨p, time, some (.time d.time)⟩ ∈ w.stored) :
    Entries.get? r.params date = some (.text (.text d.date.wire)) ∧
      Entries.get? r.params time = some (.text (.text d.time.wire)) := by
  have sent {name : String} {x : Stored} (mem : ⟨p, name, some x⟩ ∈ w.stored) :
      ∃ p, Entries.get? r.params name = some p ∧ x.Shown p := by
    have shown := shown_of_mem_stored (window_stored taken _ mem)
    dsimp only at shown
    generalize Entries.get? r.params name = found at shown ⊢
    cases shown with
    | some shown => exact ⟨_, rfl, shown⟩
  obtain ⟨_, date, rfl⟩ := sent dated
  obtain ⟨_, time, rfl⟩ := sent timed
  exact ⟨date, time⟩

theorem sent_start {d : DateTime} {finish : Option DateTime} (taken : r.window? = some ⟨some d, finish⟩) :
    Entries.get? r.params "startDate" = some (.text (.text d.date.wire)) ∧
      Entries.get? r.params "startTime" = some (.text (.text d.time.wire)) :=
  sent_of_stored (p := "start_date_time") taken (by simp [Window.stored]) (by simp [Window.stored])

theorem sent_finish {d : DateTime} {start : Option DateTime} (taken : r.window? = some ⟨start, some d⟩) :
    Entries.get? r.params "endDate" = some (.text (.text d.date.wire)) ∧
      Entries.get? r.params "endTime" = some (.text (.text d.time.wire)) :=
  sent_of_stored (p := "end_date_time") taken (by simp [Window.stored]) (by simp [Window.stored])

/-- The ends of a window are sent as their clocks show them. -/
theorem shows_ends {s f : DateTime} (taken : r.window? = some ⟨some s, some f⟩) :
    r.Shows "startDate" "startTime" s.fields ∧ r.Shows "endDate" "endTime" f.fields := by
  obtain ⟨startDate, startTime⟩ := sent_start taken
  obtain ⟨endDate, endTime⟩ := sent_finish taken
  exact ⟨⟨_, _, startDate, startTime, rfl⟩, _, _, endDate, endTime, rfl⟩

/-- Where the ends of its window are known, a request is forward just if their clocks show them so. -/
theorem forward_iff {s f : DateTime} (taken : r.window? = some ⟨some s, some f⟩) :
    r.Forward ↔ ¬ Earlier f.fields s.fields := by
  obtain ⟨first, last⟩ := shows_ends taken
  constructor
  · rintro ⟨m, n, start, finish, forward⟩
    rwa [start.unique first, finish.unique last] at forward
  · exact fun forward => ⟨_, _, first, last, forward⟩

end Request

namespace RequestKind

/-- The requests that take a window. -/
def windowed : List RequestKind := [.controlPlug, .createVacation, .setHold, .setOccupied]

section Windowed

variable {k : RequestKind} (takes : k ∈ windowed)
include takes

/-- A request that takes a window has that of its arguments. -/
theorem window_of_make {a : Arguments} {r : Request} (ok : (k.make a).2 = .ok r) :
    ∃ w, r.window? = some w ∧
      Window.read (a.value "start_date_time") (a.value "end_date_time") = .ok w := by
  have ends {h : Hold} (read : a.terms.read = .ok h) :
      Window.read (a.value "start_date_time") (a.value "end_date_time") = .ok h.window := by
    obtain ⟨mean, ordered, -⟩ := Terms.read_eq_ok_iff.mp read
    exact Window.read_eq_ok_iff.mpr ⟨mean.start, mean.finish, ordered⟩
  cases made_of_make ok with
  | controlPlug plug state hold => exact ⟨_, rfl, ends hold⟩
  | createVacation name cool heat window fan minutes => exact ⟨_, rfl, window⟩
  | setHold event hold => exact ⟨_, rfl, ends hold⟩
  | setOccupied occupied hold => exact ⟨_, rfl, ends hold⟩
  | _ => simp [windowed] at takes

/-- The ends that a request is made from are those of its window, and they are in order. -/
theorem window_of_construct {placed : List Value} {named : List (Text × Value)}
    {records : List Log.Record} {r : Request} {s f : DateTime}
    (made : k.construct placed named = .ok (records, .ok r))
    (start : (k.signature.bound placed named).value "start_date_time" = .dateTime s)
    (finish : (k.signature.bound placed named).value "end_date_time" = .dateTime f) :
    r.window? = some ⟨some s, some f⟩ ∧ (Window.mk (some s) (some f)).Ordered := by
  obtain ⟨-, made⟩ := construct_eq_ok_iff.mp made
  obtain ⟨w, taken, read⟩ := window_of_make takes (congrArg Prod.snd made)
  obtain ⟨first, last, ordered⟩ := Window.read_eq_ok_iff.mp read
  rw [start, eq_comm, Window.momentValue_eq_dateTime_iff] at first
  rw [finish, eq_comm, Window.momentValue_eq_dateTime_iff] at last
  obtain ⟨start, finish⟩ := w
  cases first
  cases last
  exact ⟨taken, ordered⟩

/-- Arguments for a request with a window. -/
def sample (k : RequestKind) (s f : DateTime) : List Value :=
  match k with
  | .controlPlug => [.string "Garage", .string "on", .dateTime s, .dateTime f]
  | .createVacation =>
    [.string "Ski trip", .temperature ⟨800⟩, .temperature ⟨550⟩, .dateTime s, .dateTime f]
  | .setHold => [HoldEvent.empty.toValue, .none, .none, .dateTime s, .dateTime f]
  | _ => [.bool true, .dateTime s, .dateTime f]

theorem value_sample (s f : DateTime) :
    (k.signature.bound (sample k s f) []).value "start_date_time" = .dateTime s ∧
      (k.signature.bound (sample k s f) []).value "end_date_time" = .dateTime f := by
  simp only [windowed, List.mem_cons, List.not_mem_nil, or_false] at takes
  rcases takes with rfl | rfl | rfl | rfl <;> exact ⟨rfl, rfl⟩

theorem construct_sample {s f : DateTime} (ordered : (Window.mk (some s) (some f)).Ordered) :
    ∃ r, k.construct (sample k s f) [] = .ok ([], .ok r) := by
  have window : Window.read (.dateTime s) (.dateTime f) = .ok ⟨some s, some f⟩ :=
    Window.read_eq_ok_iff.mpr ⟨rfl, rfl, ordered⟩
  have hold : Hold.read .none .none (.dateTime s) (.dateTime f) =
      .ok ⟨⟨some s, some f⟩, none, none⟩ := by
    unfold Hold.read
    rw [window]
    rfl
  simp only [windowed, List.mem_cons, List.not_mem_nil, or_false] at takes
  rcases takes with rfl | rfl | rfl | rfl
  · have made : (Request.ofControlPlug (.string "Garage") (.string "on") (.dateTime s) (.dateTime f) .none
        .none) = .ok (.controlPlug (.text "Garage") .on ⟨⟨some s, some f⟩, none, none⟩) := by
      unfold Request.ofControlPlug
      rw [hold]
      rfl
    exact ⟨_, congrArg (fun r => Except.ok (Request.silent r)) made⟩
  · have made : (Request.ofCreateVacation (.string "Ski trip") (.temperature ⟨800⟩)
        (.temperature ⟨550⟩) (.dateTime s) (.dateTime f) .none .none) =
          .ok (.createVacation (.text "Ski trip") ⟨800⟩ ⟨550⟩ ⟨some s, some f⟩ none none) := by
      unfold Request.ofCreateVacation
      rw [window]
      rfl
    exact ⟨_, congrArg (fun r => Except.ok (Request.silent r)) made⟩
  · have made : (Request.ofSetHold HoldEvent.empty.toValue .none .none (.dateTime s)
        (.dateTime f)) = .ok (.setHold HoldEvent.empty ⟨⟨some s, some f⟩, none, none⟩) := by
      unfold Request.ofSetHold
      rw [hold]
      rfl
    exact ⟨_, congrArg (fun r => Except.ok (Request.silent r)) made⟩
  · have made : (Request.ofSetOccupied (.bool true) (.dateTime s) (.dateTime f) .none .none) =
        .ok (.setOccupied true ⟨⟨some s, some f⟩, none, none⟩) := by
      unfold Request.ofSetOccupied
      rw [hold]
      rfl
    exact ⟨_, congrArg (fun r => Except.ok (Request.silent r)) made⟩

/-- Where the clocks of both ends are known, or neither is, requests are forward whatever their ends just
if the clock of the end is not behind that of the start. -/
theorem forward_iff_ahead_le (o p : Option Offset) :
    (∀ placed named records r s f, k.construct placed named = .ok (records, .ok r) →
      (k.signature.bound placed named).value "start_date_time" = .dateTime s →
      (k.signature.bound placed named).value "end_date_time" = .dateTime f →
      s.offset = o → f.offset = p → r.Forward) ↔
    (o.isNone = p.isNone → DateTime.ahead o ≤ DateTime.ahead p) := by
  constructor
  · intro forward matched
    by_contra behind
    let s : DateTime := ⟨{ year := 2026, month := 12, day := 20 },
      { hour := 0, minute := 0, second := 1, microsecond := 0 }, o⟩
    let f : DateTime := ⟨{ year := 2026, month := 12, day := 20 },
      { hour := 0, minute := 0, second := 0, microsecond := 999999 }, p⟩
    have ordered : (Window.mk (some s) (some f)).Ordered := by
      rintro _ _ ⟨⟩ ⟨⟩
      have start : s.instant + DateTime.ahead o = _ := s.instant_add_ahead
      have finish : f.instant + DateTime.ahead p = _ := f.instant_add_ahead
      have day : s.date = f.date := rfl
      have tick : s.time.microseconds = f.time.microseconds + 1 := by
        simp only [s, f]
        decide
      rw [day] at start
      refine ⟨matched, ?_⟩
      omega
    obtain ⟨r, made⟩ := construct_sample takes ordered
    obtain ⟨start, finish⟩ := value_sample takes s f
    obtain ⟨taken, -⟩ := window_of_construct takes made start finish
    have shown := (Request.forward_iff taken).mp (forward _ _ _ _ s f made start finish rfl rfl)
    exact shown (by simp [s, f, DateTime.fields, Date.fields, TimeOfDay.fields])
  · rintro ahead placed named records r s f made start finish rfl rfl
    obtain ⟨taken, ordered⟩ := window_of_construct takes made start finish
    obtain ⟨matched, instants⟩ := ordered s f rfl rfl
    have ahead := ahead matched
    refine (Request.forward_iff taken).mpr fun earlier => ?_
    have later := DateTime.instant_lt earlier
    omega

end Windowed

/-- Vacations whose ends are on an unnamed clock. -/
theorem forward_createVacation :
    RequestKind.createVacation ∈ windowed ∧
      ∀ placed named records r s f,
        RequestKind.createVacation.construct placed named = .ok (records, .ok r) →
        (RequestKind.createVacation.signature.bound placed named).value "start_date_time" =
          .dateTime s →
        (RequestKind.createVacation.signature.bound placed named).value "end_date_time" =
          .dateTime f →
        s.offset = none → f.offset = none → r.Forward :=
  ⟨by decide, (forward_iff_ahead_le (by decide) none none).mpr fun _ => Int.le_refl _⟩

/-- Noon on a clock that is five hours ahead is before nine o'clock of universal time, and is sent as
if it were after it. -/
theorem not_forward_setOccupied :
    ∃ r, RequestKind.setOccupied.construct []
        [("occupied", .bool true),
         ("start_date_time", .dateTime ⟨{ year := 2026, month := 12, day := 20 },
           { hour := 12, minute := 0, second := 0, microsecond := 0 },
           some { microseconds := 18000000000 }⟩),
         ("end_date_time", .dateTime ⟨{ year := 2026, month := 12, day := 20 },
           { hour := 9, minute := 0, second := 0, microsecond := 0 }, some .zero⟩)] =
        .ok ([], .ok r) ∧ ¬ r.Forward := by
  refine ⟨_, rfl, fun forward => ?_⟩
  have shown := (Request.forward_iff rfl).mp forward
  exact shown (by simp [DateTime.fields, Date.fields, TimeOfDay.fields])

end RequestKind

end Thermostat
