import Thermostat.Proofs.Session.Reports

/-! Records that say of a request that it was not sent. Those about a failure of the session itself are
right; a provider that fails like a refused argument, or like a service that is not there, is reported
in the same words, although the request was sent to it. -/
namespace Thermostat

/-- What keeps a request from being sent: an argument is refused, or nobody is there to send it to. -/
inductive Hindrance
  | argument
  | service

namespace Hindrance

def failure : Hindrance → Text → Failure
  | argument => .rejected
  | service => .notQueued

def blame : Hindrance → Text → Blame
  | argument => .rejected
  | service => .notQueued

/-- A record says of a call that a hindrance kept its request from being sent. -/
def Told (k : Hindrance) (action : Action) (r : Log.Record) : Prop :=
  ∃ selection m, r = (k.blame m).record action (some selection)

theorem blame?_eq_some {k : Hindrance} {f : Failure} {m : Text}
    (reported : f.blame? = some (k.blame m)) : f = k.failure m := by
  cases k <;> cases f <;> cases reported <;> rfl

variable {k : Hindrance} {action : Action}

theorem Told.error {r : Log.Record} (told : k.Told action r) :
    r.level = .error ∧ r.logger = Text.ofString Session.loggerName := by
  obtain ⟨selection, m, rfl⟩ := told
  cases k <;> exact ⟨rfl, rfl⟩

/-- Only the record of a hindrance tells of it, whatever the selections are called. -/
theorem Told.eq_blame {b : Blame} {selection : Option Text}
    (told : k.Told action (b.record action selection)) : ∃ m, b = k.blame m := by
  obtain ⟨t, m, same⟩ := told
  cases selection with
  | none =>
    -- a record without a text tells of nothing
    have message := congrArg Log.Record.message same
    cases k <;> cases b <;> cases message
  | some selection =>
    cases k <;> cases b
    case argument.rejected n => exact ⟨n, rfl⟩
    case service.notQueued n => exact ⟨n, rfl⟩
    case argument.notQueued n => exact absurd same.symm (Blame.record_rejected_ne m n)
    case service.rejected n => exact absurd same (Blame.record_rejected_ne n m)
    case argument.failed => cases congrArg Log.Record.cause same
    case service.failed => cases congrArg Log.Record.cause same
    all_goals cases congrArg Log.Record.level same

end Hindrance

namespace Session

variable {scale : TemperatureScale} {service : Lookup} {provider : Provider} {s : Session}
  {action : Action} {placed : List Value} {named : List (Text × Value)}

/-- What the records that tell of hindrances have to do with what a call sends. -/
structure ReportsUnsent (scale : TemperatureScale) (service : Lookup) (provider : Provider)
    (action : Action) (placed : List Value) (named : List (Text × Value))
    (before after : Session) (answer : Answer) : Prop where
  /-- A request that is reported as hindered was not sent, unless the provider's own failure is one
  that tells of such a hindrance. -/
  unsent : ∀ k : Hindrance, ∀ r ∈ answer.records, k.Told action r →
    (answer.sent = [] ∧ after.calls = before.calls) ∨ ∃ m, provider = .fails (k.failure m)
  /-- Any failure of the provider comes of a request that was sent, and is reported in the same words
  as one of the session. -/
  failed : action.signature.Fits placed named → service = .ready →
    ∀ request, action.Describes scale (action.signature.bound placed named) request →
    ∀ v t, selectionOf? placed named = some v → v.plain? = some t →
    ∀ f b, provider = .fails f → f.blame? = some b →
      answer.sent = [(v, request)] ∧ b.record action (some t) ∈ answer.records

/-- A record of an error is that of what the call is reported for. -/
theorem blame_of_mem_records {a : Arguments} {r : Log.Record}
    (mem : r ∈ (s.invoke action a).2.records) (error : r.level = .error)
    (left : r.logger = Text.ofString loggerName) :
    ∃ b, (s.course action a).blame? = some b ∧
      b.record action (a.value "selection").plain? = r := by
  rw [invoke_eq, ownRecords_eq_append] at mem
  rcases List.mem_append.mp mem with made | mem
  · have made : r ∈ own (action.makeRequest s.scale a).1 :=
      List.mem_filter.mpr ⟨made, decide_eq_true left⟩
    rw [own_made] at made
    cases made
  rcases List.mem_append.mp mem with traced | behind
  · obtain ⟨request, -, rfl⟩ := List.mem_map.mp traced
    cases error
  · exact mem_aftermath_iff.mp behind

/-- What is reported of a request that was sent is the failure of its provider, or that the provider
does not consent. -/
theorem blame_of_delivered {selection : Value} {made : Except Fault Request} {request : Request}
    {result : Except Failure Bool} {b : Blame}
    (delivered : courseOf selection service provider made = .delivered request result)
    (blame : (courseOf selection service provider made).blame? = some b) :
    (∃ f, provider = .fails f ∧ f.blame? = some b) ∨ b = .refused request.kind := by
  cases made with
  | error f => cases delivered
  | ok r =>
    cases service with
    | ready =>
      cases provider with
      | answers v =>
        cases delivered
        rcases Course.blame?_eq_some blame with ⟨f, failure, -⟩ | ⟨r', same, refused⟩
        · cases failure
        · rw [(Course.delivered.inj same).1]
          exact Or.inr refused
      | fails f => exact Or.inl ⟨f, rfl, blame⟩
    | _ => cases delivered

/-- A call either sends nothing, or it is reported for what its provider does. -/
theorem InForce.unsent_or_blame (h : InForce scale service provider s) {a : Arguments} {b : Blame}
    (blame : (s.course action a).blame? = some b) :
    ((s.invoke action a).2.sent = [] ∧ (s.invoke action a).1.calls = s.calls) ∨
      (∃ f, provider = .fails f ∧ f.blame? = some b) ∨ ∃ kind, b = .refused kind := by
  rw [invoke_eq]
  cases course : s.course action a with
  | delivered request result =>
    rw [h.course_eq] at course blame
    rcases blame_of_delivered course blame with fails | refused
    · exact Or.inr (Or.inl fails)
    · exact Or.inr (Or.inr ⟨_, refused⟩)
  | _ => exact Or.inl ⟨rfl, (h.counts_moved _ _).2⟩

theorem InForce.call_reportsUnsent (h : InForce scale service provider s) (action : Action)
    (placed : List Value) (named : List (Text × Value)) :
    ReportsUnsent scale service provider action placed named s (s.call action placed named).1
      (s.call action placed named).2 := by
  by_cases fits : action.signature.Fits placed named
  case neg =>
    obtain ⟨m, call⟩ := s.call_of_misfit fits
    rw [call]
    exact ⟨fun _ => nofun, fun fits' => absurd fits' fits⟩
  case pos =>
    rw [s.call_of_fits fits]
    refine ⟨fun k r mem told => ?unsent,
      fun _ ready request described v t given plain f b fails blame => ?failed⟩
    case unsent =>
      obtain ⟨error, left⟩ := told.error
      obtain ⟨b, blame, rfl⟩ := blame_of_mem_records mem error left
      obtain ⟨m, rfl⟩ := told.eq_blame
      rcases h.unsent_or_blame blame with unsent | ⟨f, fails, reported⟩ | ⟨kind, refused⟩
      · exact Or.inl unsent
      · rw [Hindrance.blame?_eq_some reported] at fails
        exact Or.inr ⟨m, fails⟩
      · cases k <;> cases refused
    case failed =>
      have made := (Action.describes_iff (action.signature.names_bound named fits.room) request).mp
        described
      cases (selectionOf?_eq fits).symm.trans given
      rw [invoke_eq, h.course_eq, made, ready, fails]
      refine ⟨rfl, ?_⟩
      have reported {c : Course} (same : c.blame? = f.blame?) : b.record action (some t) ∈
          aftermath action ((action.signature.bound placed named).value "selection") c :=
        mem_aftermath_iff.mpr ⟨b, same.trans blame, by rw [plain]⟩
      rw [ownRecords_eq_append]
      exact List.mem_append_right _ (List.mem_append_right _ (reported rfl))

/-- A request of any run that is reported as not sent was not sent, unless its provider says so
itself. -/
theorem run_reportsUnsent (scale : TemperatureScale) (service : Lookup) (provider : Provider)
    (earlier later : List Step) (action : Action) (placed : List Value)
    (named : List (Text × Value)) :
    ∃ before after answer,
      before = (opened scale service provider).after earlier ∧
      ((opened scale service provider).run
        (earlier ++ .call action placed named :: later))[earlier.length]? =
        some (after, some answer) ∧
      ReportsUnsent scale (serviceAfter service earlier) (providerAfter provider earlier) action
        placed named before after answer := by
  have start : InForce scale service provider (opened scale service provider) :=
    ⟨rfl, rfl, rfl, rfl⟩
  exact ⟨_, _, _, rfl, run_getElem? _ earlier later _,
    (start.after earlier).call_reportsUnsent action placed named⟩

/-- A provider that calls itself not configured has been called, though the record denies it. -/
theorem told_of_sent :
    ∃ after answer,
      ((opened .fahrenheit .ready (.answers (.bool true))).run
        [.provider (.fails (.notQueued "boom")),
          .call .deleteVacation [.string "home", .string "Ski trip"] []])[1]? =
        some (after, some answer) ∧
      answer.sent ≠ [] ∧ ∃ r ∈ answer.records, Hindrance.service.Told .deleteVacation r := by
  refine ⟨_, _, rfl, List.cons_ne_nil _ _, _, List.mem_cons_of_mem _ List.mem_cons_self, "home",
    "boom", rfl⟩

end Session

end Thermostat
