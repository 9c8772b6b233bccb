import Thermostat.Proofs.Hold.Recognised
import Thermostat.Proofs.Request.Payload
import Thermostat.Proofs.Request.Writable
import Thermostat.Proofs.Session.Delivery
import Thermostat.Proofs.Text.Append

/-! The records of a call: first its attempt, if there is a request, then the one thing that went
wrong, if it answers no. -/
namespace Thermostat

/-- What a call is reported for: a refused argument, nobody to perform its request, another failure,
or a provider that does not consent. -/
inductive Blame
  | rejected (message : Text)
  | notQueued (message : Text)
  | failed (cause : Log.Cause)
  | refused (kind : RequestKind)

/-- The record of a blame. It has no text where the selection cannot be written. -/
def Blame.record (action : Action) (selection : Option Text) : Blame → Log.Record
  | .rejected m =>
    Session.record .error (selection.map fun t =>
      "Ecobee action " ++ action.name ++ " rejected for selection '" ++ t ++ "': " ++ m)
  | .notQueued m =>
    Session.record .error (selection.map fun t =>
      "Ecobee action " ++ action.name ++ " not queued for selection '" ++ t ++ "': " ++ m)
  | .failed cause =>
    { Session.record .error (selection.map fun t =>
        "Ecobee action " ++ action.name ++ " failed for selection '" ++ t ++ "'") with
      cause := some cause }
  | .refused kind =>
    Session.record .warning (selection.map fun t =>
      "Ecobee function " ++ kind.wireName ++ " was not accepted for selection '" ++ t ++ "'")

def attemptRecord (description : String) (selection : Text) : Log.Record :=
  Session.record .debug (some ("Attempting to call Ecobee function '" ++ description ++
    "' against selection '" ++ selection ++ "'"))

/-- A refused argument and nobody to perform the request are told apart, whatever the selections. -/
theorem Blame.record_rejected_ne {action : Action} {selection selection' : Text} (m n : Text) :
    (Blame.rejected m).record action (some selection) ≠
      (Blame.notQueued n).record action (some selection') := by
  intro same
  have message := Option.some.inj (congrArg Log.Record.message same)
  simp only [Text.append_assoc, Text.append_right_inj] at message
  have second := congrArg (fun t : Text => t.points[1]?) message
  simp [Text.ofString, Text.points_append] at second

/-- No two blames have the same record. -/
theorem Blame.record_inj {action : Action} {selection : Text} {b c : Blame} :
    b.record action (some selection) = c.record action (some selection) ↔ b = c := by
  have levels : Log.Level.error ≠ Log.Level.warning := by decide
  refine ⟨fun same => ?_, congrArg _⟩
  have level := congrArg Log.Record.level same
  have cause := congrArg Log.Record.cause same
  cases b <;> cases c
  case rejected.rejected | notQueued.notQueued =>
    have message := Option.some.inj (congrArg Log.Record.message same)
    exact congrArg _ ((Text.append_right_inj _).mp message)
  case failed.failed => exact congrArg _ (Option.some.inj cause)
  case refused.refused =>
    have message := Option.some.inj (congrArg Log.Record.message same)
    simp only [Text.append_left_inj, Text.append_right_inj, Text.ofString_inj] at message
    exact congrArg _ (RequestKind.wireName_inj.mp message)
  case rejected.notQueued => exact absurd same (record_rejected_ne _ _)
  case notQueued.rejected => exact absurd same.symm (record_rejected_ne _ _)
  all_goals first | exact absurd level levels | exact absurd level.symm levels | cases cause

/-- What a failure is reported for; one that stops the program is not. -/
def Failure.blame? : Failure → Option Blame
  | .rejected m => some (.rejected m)
  | .notQueued m => some (.notQueued m)
  | .failed cause => some (.failed cause)
  | .interrupted _ => none

namespace Course

def request? : Course → Option Request
  | .unmade _ => none
  | .unresolved r _ => some r
  | .delivered r _ => some r

/-- What a call of some course is reported for. -/
def blame? : Course → Option Blame
  | .unmade f => (Failure.ofFault f).blame?
  | .unresolved _ f => f.blame?
  | .delivered _ (.error f) => f.blame?
  | .delivered r (.ok accepted) => if accepted then none else some (.refused r.kind)

/-- A blame is that of a failure, or that of a provider that does not consent. -/
theorem blame?_eq_some {c : Course} {b : Blame} (blame : c.blame? = some b) :
    (∃ f, c.failure? = some f ∧ f.blame? = some b) ∨
      ∃ r, c = .delivered r (.ok false) ∧ b = .refused r.kind := by
  cases c with
  | unmade f => exact Or.inl ⟨_, rfl, blame⟩
  | unresolved r f => exact Or.inl ⟨_, rfl, blame⟩
  | delivered r result =>
    cases result with
    | error f => exact Or.inl ⟨_, rfl, blame⟩
    | ok accepted =>
      cases accepted with
      | true => cases blame
      | false => exact Or.inr ⟨r, rfl, (Option.some.inj blame).symm⟩

end Course

namespace Session

/-- The record of a call behind the attempt of its request, if there is one. -/
def aftermath (action : Action) (selection : Value) (c : Course) : List Log.Record :=
  (c.blame?.map fun b => b.record action selection.plain?).toList

/-- A failure has the one record of its blame. -/
theorem report_eq (action : Action) (selection : Value) (f : Failure) :
    (report action selection f).1 = (f.blame?.map fun b => b.record action selection.plain?).toList := by
  cases f <;> rfl

theorem ownRecords_eq_append (action : Action) (selection : Value) (c : Course) :
    ownRecords action selection c =
      c.request?.toList.map (traceRecord · selection) ++ aftermath action selection c := by
  cases c with
  | unmade f => exact report_eq action selection (.ofFault f)
  | unresolved r f => exact congrArg (_ :: ·) (report_eq action selection f)
  | delivered r result =>
    cases result with
    | error f => exact congrArg (_ :: ·) (report_eq action selection f)
    | ok accepted => cases accepted <;> rfl

/-- The records that are left with the logger of sessions. -/
def own (records : List Log.Record) : List Log.Record :=
  records.filter fun r => r.logger = Text.ofString loggerName

/-- A record tells why a call answers no: it is that of a refused argument, of nobody to perform the
request, or of another failure, just where this is what was caught; and it is that of a refusal just
where the provider was asked and did not consent. -/
structure Tells (s : Session) (action : Action) (a : Arguments) (selection : Text)
    (r : Log.Record) : Prop where
  rejected : ∀ m, r = (Blame.rejected m).record action (some selection) ↔
    (s.course action a).failure? = some (.rejected m)
  notQueued : ∀ m, r = (Blame.notQueued m).record action (some selection) ↔
    (s.course action a).failure? = some (.notQueued m)
  failed : ∀ cause, r = (Blame.failed cause).record action (some selection) ↔
    (s.course action a).failure? = some (.failed cause)
  refused : ∀ kind, r = (Blame.refused kind).record action (some selection) ↔
    ∃ request v, s.course action a = .delivered request (.ok v.isTruthy) ∧
      s.provider = .answers v ∧ v.isTruthy = false ∧ request.kind = kind

/-- What the records of the session say about a call. -/
structure Reports (s : Session) (action : Action) (a : Arguments) (selection : Text)
    (outcome : Outcome) (records : List Log.Record) : Prop where
  /-- The attempt of a request that is made comes first, and there is no second one. -/
  attempted : ∀ request, (s.course action a).request? = some request →
    ∃ description rest, request.literal? = some description ∧
      records = attemptRecord description selection :: rest ∧
      ∀ r ∈ rest, Log.Level.warning ≤ r.level
  unattempted : (s.course action a).request? = none → ∀ r ∈ records, Log.Level.warning ≤ r.level
  accepted : outcome = .answered true → Log.above .warning records = []
  refused : outcome = .answered false →
    ∃ r, Log.above .warning records = [r] ∧ s.Tells action a selection r
  interrupted : ∀ cause, outcome = .interrupted cause → Log.above .warning records = []

theorem makeRequest_of_course {s : Session} {action : Action} {a : Arguments} {r : Request}
    (made : (s.course action a).request? = some r) : (action.makeRequest s.scale a).2 = .ok r := by
  unfold course at made
  cases result : (action.makeRequest s.scale a).2 with
  | error f =>
    rw [result] at made
    cases made
  | ok request =>
    rw [result] at made
    dsimp only at made
    split at made <;> cases made <;> rfl

section Records

variable {action : Action} {v : Value} {t : Text} {c : Course}

theorem traceRecord_eq (plain : v.plain? = some t) {r : Request} {d : String}
    (literal : r.literal? = some d) : traceRecord r v = attemptRecord d t := by
  simp only [traceRecord, literal, plain]
  rfl

theorem Blame.logger_record (action : Action) (selection : Option Text) (b : Blame) :
    (b.record action selection).logger = Text.ofString loggerName := by
  cases b <;> rfl

theorem Blame.le_level_record (action : Action) (selection : Option Text) (b : Blame) :
    Log.Level.warning ≤ (b.record action selection).level := by
  have error : Log.Level.warning ≤ Log.Level.error := by decide
  have warning : Log.Level.warning ≤ Log.Level.warning := by decide
  cases b with
  | refused kind => exact warning
  | _ => exact error

theorem mem_aftermath_iff {r : Log.Record} : r ∈ aftermath action v c ↔
    ∃ b, c.blame? = some b ∧ b.record action v.plain? = r := by
  rw [aftermath, Option.mem_toList, Option.map_eq_some_iff]

theorem own_ownRecords (action : Action) (v : Value) (c : Course) :
    own (ownRecords action v c) = ownRecords action v c := by
  refine List.filter_eq_self.mpr fun r mem => decide_eq_true ?_
  rw [ownRecords_eq_append, List.mem_append] at mem
  rcases mem with traced | behind
  · obtain ⟨request, -, rfl⟩ := List.mem_map.mp traced
    rfl
  · obtain ⟨b, -, rfl⟩ := mem_aftermath_iff.mp behind
    exact Blame.logger_record action _ b

/-- Of the records of a call, only the blame is a warning or worse. -/
theorem above_ownRecords (action : Action) (v : Value) (c : Course) :
    Log.above .warning (ownRecords action v c) = aftermath action v c := by
  rw [ownRecords_eq_append, Log.above, List.filter_append, List.filter_eq_nil_iff.mpr,
    List.nil_append, List.filter_eq_self]
  · intro r mem
    obtain ⟨b, -, rfl⟩ := mem_aftermath_iff.mp mem
    exact decide_eq_true (Blame.le_level_record action _ b)
  · intro r mem
    obtain ⟨request, -, rfl⟩ := List.mem_map.mp mem
    exact (by decide : ¬ decide (Log.Level.warning ≤ Log.Level.debug) = true)

end Records

theorem own_made (scale : TemperatureScale) (action : Action) (a : Arguments) :
    own (action.makeRequest scale a).1 = [] := by
  have foreign {logger : String} (ne : logger ≠ loggerName) {records : List Log.Record}
      (from_ : ∀ r ∈ records, r.logger = Text.ofString logger) : own records = [] := by
    refine List.filter_eq_nil_iff.mpr fun r mem same => ne (Text.ofString_inj.mp ?_)
    rw [← from_ r mem]
    exact of_decide_eq_true same
  have added (entries : List (Text × Value)) :
      ∀ r ∈ (HoldEvent.empty.addEntries scale entries).1,
        r.logger = Text.ofString HoldEvent.loggerName := by
    intro r mem
    obtain ⟨e, -, -, rfl⟩ := HoldEvent.mem_records_addEntries mem
    rfl
  have held (entries : List (Text × Value)) : own (Action.holdOfEntries scale entries a).1 = [] := by
    have records := foreign (by decide) (added entries)
    unfold Action.holdOfEntries HoldEvent.ofEntries
    cases made : HoldEvent.empty.addEntries scale entries with
    | mk rs result =>
      rw [made] at records
      cases result <;> exact records
  unfold Action.makeRequest
  cases action with
  | setHold => exact held _
  | setHoldParams =>
    dsimp only
    split
    · exact held _
    · rfl
  | sendMessage =>
    change own (Request.ofSendMessage _).1 = []
    unfold Request.ofSendMessage
    split
    · rfl
    · split
      · have other : Request.loggerName ≠ loggerName := by decide
        exact foreign other (by simp [Request.cutRecord])
      · rfl
  | _ => rfl

/-- Just the calls that answer no are reported. -/
theorem blame?_isSome_iff (action : Action) (v : Value) (c : Course) :
    c.blame?.isSome = true ↔ outcome action v c = .answered false := by
  have reported (f : Failure) :
      f.blame?.isSome = true ↔ (report action v f).2 = .answered false := by
    cases f <;> simp [Failure.blame?, report]
  cases c with
  | unmade f => exact reported _
  | unresolved r f => exact reported f
  | delivered r result =>
    cases result with
    | error f => exact reported f
    | ok accepted => cases accepted <;> simp [Course.blame?, outcome]

theorem tells_of_blame {s : Session} {action : Action} {a : Arguments} {selection : Text}
    {b : Blame} (blame : (s.course action a).blame? = some b) :
    s.Tells action a selection (b.record action (some selection)) := by
  rcases Course.blame?_eq_some blame with ⟨f, failure, blame⟩ | ⟨request, delivered, rfl⟩
  · have undelivered (r : Request) (accepted : Bool) :
        s.course action a ≠ .delivered r (.ok accepted) := by
      intro delivered
      rw [delivered] at failure
      cases failure
    constructor <;> intro x <;> rw [Blame.record_inj]
    case refused =>
      constructor
      · rintro rfl
        cases f <;> cases blame
      · rintro ⟨r, v, delivered, -⟩
        exact absurd delivered (undelivered r _)
    all_goals
      rw [failure]
      cases f <;> cases blame <;> simp
  · have provider : ∃ v, s.provider = .answers v ∧ v.isTruthy = false := by
      have performed : s.perform.2 = .ok false := by
        unfold course at delivered
        split at delivered
        · cases delivered
        · split at delivered
          · cases delivered
          · exact (Course.delivered.inj delivered).2
      unfold perform at performed
      cases given : s.provider with
      | answers v =>
        rw [given] at performed
        exact ⟨v, rfl, Except.ok.inj performed⟩
      | fails f =>
        rw [given] at performed
        cases performed
    obtain ⟨v, provider, refuses⟩ := provider
    constructor <;> intro x <;> rw [Blame.record_inj]
    case refused =>
      constructor
      · intro same
        cases same
        exact ⟨request, v, by rw [refuses, delivered], provider, refuses, rfl⟩
      · rintro ⟨r, w, course, -, -, rfl⟩
        rw [delivered] at course
        rw [(Course.delivered.inj course).1]
    all_goals
      rw [delivered]
      constructor <;> nofun

/-- The whole numbers of a call: those in its arguments, and those that its request sends. -/
inductive Involves (scale : TemperatureScale) (action : Action) (placed : List Value)
    (named : List (Text × Value)) : Int → Prop
  | placed {v : Value} {n : Int} (mem : v ∈ placed) (holds : v.Holds n) :
      Involves scale action placed named n
  | named {e : Text × Value} {n : Int} (mem : e ∈ named) (holds : e.2.Holds n) :
      Involves scale action placed named n
  | sent {r : Request} {n : Int}
      (made : (action.makeRequest scale (action.signature.bound placed named)).2 = .ok r)
      (sends : r.Sends n) : Involves scale action placed named n

/-- A call whose arguments fit, and whose whole numbers are all short, is reported for what went wrong
in it and for nothing else. -/
theorem call_reports (s : Session) {action : Action} {placed : List Value}
    {named : List (Text × Value)} (fits : action.signature.Fits placed named)
    (short : ∀ n, Involves s.scale action placed named n → ShortInt n) :
    ∃ v t, selectionOf? placed named = some v ∧ v.plain? = some t ∧
      Reports s action (action.signature.bound placed named) t
        (s.call action placed named).2.outcome (own (s.call action placed named).2.records) := by
  have missing : ∀ p ∈ action.signature.parameters, (p.default.getD .none).Short := by
    intro p param
    rw [action.default_eq_none param]
    exact Value.short_none
  have values := Arguments.value_of_forall Value.short_none
    (Signature.forall_bound (fun v mem n holds => short n (.placed mem holds))
      (fun e mem n holds => short n (.named mem holds)) missing)
  obtain ⟨t, plain⟩ := Option.isSome_iff_exists.mp (Value.plain?_isSome (values "selection"))
  refine ⟨_, t, selectionOf?_eq fits, plain, ?_⟩
  have literal : ∀ r, (s.course action (action.signature.bound placed named)).request? = some r →
      r.literal?.isSome = true := by
    intro r made
    have made := makeRequest_of_course made
    exact Request.literal?_isSome (fun n sends => short n (.sent made sends))
      (Action.makeRequest_ignored values made)
  rw [s.call_of_fits fits, invoke_eq]
  generalize action.signature.bound placed named = a at plain literal ⊢
  have records : own ((action.makeRequest s.scale a).1 ++
      ownRecords action (a.value "selection") (s.course action a)) =
        ownRecords action (a.value "selection") (s.course action a) := by
    rw [own, List.filter_append, ← own, ← own, own_made, List.nil_append, own_ownRecords]
  dsimp only
  rw [records]
  have blamed := blame?_isSome_iff action (a.value "selection") (s.course action a)
  have urgent : ∀ r ∈ aftermath action (a.value "selection") (s.course action a),
      Log.Level.warning ≤ r.level := by
    intro r mem
    obtain ⟨b, -, rfl⟩ := mem_aftermath_iff.mp mem
    exact Blame.le_level_record action _ b
  constructor
  case attempted =>
    intro r made
    obtain ⟨d, written⟩ := Option.isSome_iff_exists.mp (literal r made)
    refine ⟨d, _, written, ?_, urgent⟩
    rw [ownRecords_eq_append, made, ← traceRecord_eq plain written]
    rfl
  case unattempted =>
    intro unmade
    rw [ownRecords_eq_append, unmade]
    exact urgent
  case refused =>
    intro refused
    obtain ⟨b, blame⟩ := Option.isSome_iff_exists.mp (blamed.mpr refused)
    refine ⟨b.record action (some t), ?_, tells_of_blame blame⟩
    rw [above_ownRecords, aftermath, blame, plain]
    rfl
  all_goals
    intros
    rw [above_ownRecords, aftermath]
    cases blame : (s.course action a).blame? with
    | none => rfl
    | some b => simp_all

/-- A refused hold of two hours. -/
theorem call_reports_refused_hold :
    ∃ v t, selectionOf? [.string "home", .bool true] [("hold_hours", .int 2)] = some v ∧
      v.plain? = some t ∧
      Reports (opened .celsius .ready (.answers .none)) .setOccupied
        (Action.setOccupied.signature.bound [.string "home", .bool true] [("hold_hours", .int 2)]) t
        (.answered false)
        (own ((opened .celsius .ready (.answers .none)).call .setOccupied
          [.string "home", .bool true] [("hold_hours", .int 2)]).2.records) := by
  have optional : ∀ p ∈ Action.setOccupied.signature.parameters.drop 2, p.default.isSome = true := by
    decide
  have fits : Action.setOccupied.signature.Fits [.string "home", .bool true]
      [("hold_hours", .int 2)] := by
    refine ⟨by decide, by decide, fun p mem required => ?_⟩
    have given := optional p mem
    rw [required] at given
    cases given
  have two : ShortInt 2 := by unfold ShortInt; decide
  refine call_reports (opened .celsius .ready (.answers .none)) fits ?_
  intro n involved
  cases involved with
  | placed mem holds =>
    rcases List.mem_cons.mp mem with rfl | mem
    · cases holds
    · cases List.mem_singleton.mp mem
      cases holds
  | named mem holds =>
    cases List.mem_singleton.mp mem
    cases holds
    exact two
  | sent made sends =>
    cases made
    obtain ⟨name, mem⟩ := sends
    obtain ⟨-, hours⟩ : name = "holdHours" ∧ n = 2 := by
      simpa [Request.params, Hold.params, Window.params, Window.momentParams] using mem
    exact hours ▸ two

end Session

end Thermostat
