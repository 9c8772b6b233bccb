import Thermostat.Proofs.Action.Descriptor
import Thermostat.Proofs.Session.Course

/-! Delivery over whole runs: at every call of a run the lookups, the requests that are sent and the
answer follow from the arguments of the call and from what lookup and provider do at the time. -/
namespace Thermostat.Session

/-- A session that looks for its provider at every call, before the first step. -/
def opened (scale : TemperatureScale) (service : Lookup) (provider : Provider) : Session :=
  { scale := scale, service := service, provider := provider }

def after (s : Session) (steps : List Step) : Session := steps.foldl (fun s t => (s.step t).1) s

/-- What the lookup, and below the provider, does after steps that may have switched it. -/
def serviceAfter (service : Lookup) (steps : List Step) : Lookup :=
  steps.foldl (fun l t => match t with | .service l' => l' | _ => l) service

def providerAfter (provider : Provider) (steps : List Step) : Provider :=
  steps.foldl (fun p t => match t with | .provider p' => p' | _ => p) provider

/-- The selection of a call, given by place or by name. -/
def selectionOf? (placed : List Value) (named : List (Text × Value)) : Option Value :=
  placed.head?.or (Entries.get? named "selection")

/-- What one call does to the counts of its session, to whom it sends what, and how it ends. -/
structure Delivers (scale : TemperatureScale) (service : Lookup) (provider : Provider)
    (action : Action) (placed : List Value) (named : List (Text × Value))
    (before after : Session) (answer : Answer) : Prop where
  /-- Arguments that do not fit are an error of the call; nothing is looked for and nothing sent. -/
  misfit : ¬ action.signature.Fits placed named →
    (∃ m, answer.outcome = .mismatched m) ∧ after.lookups = before.lookups ∧
      after.calls = before.calls ∧ answer.sent = []
  /-- Without a request nothing is looked for and nothing sent. -/
  undescribed : action.signature.Fits placed named →
    (∀ r, ¬ action.Describes scale (action.signature.bound placed named) r) →
    answer.outcome = .answered false ∧ after.lookups = before.lookups ∧
      after.calls = before.calls ∧ answer.sent = []
  /-- A request is looked for once, and sent once if there is a provider. -/
  described : action.signature.Fits placed named →
    ∀ r, action.Describes scale (action.signature.bound placed named) r →
    after.lookups = before.lookups + 1 ∧
      (service ≠ .ready → after.calls = before.calls ∧ answer.sent = []) ∧
      (service = .ready → after.calls = before.calls + 1 ∧
        ∃ v, selectionOf? placed named = some v ∧ answer.sent = [(v, r)])
  /-- The answer is yes only for a request that was sent and got a consenting answer. -/
  accepted : action.signature.Fits placed named →
    (answer.outcome = .answered true ↔
      answer.sent ≠ [] ∧ ∃ v, provider = .answers v ∧ v.isTruthy = true)
  /-- All other calls whose arguments fit answer no, unless lookup or provider stop the program. -/
  returns : action.signature.Fits placed named →
    (∃ b, answer.outcome = .answered b) ∨ ∃ cause, answer.outcome = .interrupted cause ∧
      (service = .failing (.interrupted cause) ∨
        answer.sent ≠ [] ∧ provider = .fails (.interrupted cause))

/-- What stays as it is in a session, and what its lookup and its provider do at some time. -/
structure InForce (scale : TemperatureScale) (service : Lookup) (provider : Provider)
    (s : Session) : Prop where
  scale_eq : s.scale = scale
  route_eq : s.route = .lookup
  service_eq : s.service = service
  provider_eq : s.provider = provider

variable {scale : TemperatureScale} {service : Lookup} {provider : Provider} {s : Session}

theorem InForce.moved (h : InForce scale service provider s) (selection : Value) (c : Course) :
    InForce scale service provider (s.moved selection c) := by
  have resolved : InForce scale service provider (s.resolve selection).1 := by
    unfold resolve
    rw [h.route_eq]
    exact ⟨h.scale_eq, rfl, h.service_eq, h.provider_eq⟩
  cases c with
  | unmade f => exact h
  | unresolved r f => exact resolved
  | delivered r result =>
    exact ⟨resolved.scale_eq, resolved.route_eq, resolved.service_eq, resolved.provider_eq⟩

theorem InForce.call (h : InForce scale service provider s) (action : Action)
    (placed : List Value) (named : List (Text × Value)) :
    InForce scale service provider (s.call action placed named).1 := by
  unfold Session.call
  split
  · exact h
  · rw [invoke_eq]
    exact h.moved _ _

/-- Steps change nothing but what they switch. -/
theorem InForce.after (h : InForce scale service provider s) (steps : List Step) :
    InForce scale (serviceAfter service steps) (providerAfter provider steps) (s.after steps) := by
  induction steps generalizing s service provider with
  | nil => exact h
  | cons t steps ih =>
    cases t with
    | service l => exact ih ⟨h.scale_eq, h.route_eq, rfl, h.provider_eq⟩
    | provider p => exact ih ⟨h.scale_eq, h.route_eq, h.service_eq, rfl⟩
    | call action placed named => exact ih (h.call action placed named)

/-- In a run each step is taken from where the earlier ones lead. -/
theorem run_getElem? (s : Session) (earlier later : List Step) (t : Step) :
    (s.run (earlier ++ t :: later))[earlier.length]? = some ((s.after earlier).step t) := by
  induction earlier generalizing s with
  | nil => rfl
  | cons u earlier ih => exact ih (s.step u).1

/-- The selection is the first parameter and has no default: whoever calls gives it. -/
theorem selectionOf?_eq {action : Action} {placed : List Value} {named : List (Text × Value)}
    (fits : action.signature.Fits placed named) :
    selectionOf? placed named =
      some ((action.signature.bound placed named).value "selection") := by
  obtain ⟨p, ps, first, name, required⟩ := action.selection_first
  have value := Signature.value_bound_first first placed named
  rw [name] at value
  change _ = (selectionOf? placed named).getD _ at value
  have given : (selectionOf? placed named).isSome = true := by
    unfold selectionOf?
    cases placed with
    | cons v vs => rfl
    | nil =>
      have mem : p ∈ action.signature.parameters.drop ([] : List Value).length := by
        rw [first]
        exact List.mem_cons_self
      obtain ⟨e, mem, same⟩ := fits.complete p mem required
      rw [name] at same
      exact Entries.get?_isSome_iff.mpr (List.mem_map.mpr ⟨e, mem, same⟩)
  obtain ⟨v, given⟩ := Option.isSome_iff_exists.mp given
  rw [value, given, Option.getD_some]

/-- The course of a call by the request that is made, and by what lookup and provider do. -/
def courseOf (selection : Value) (service : Lookup) (provider : Provider) :
    Except Fault Request → Course
  | .error f => .unmade f
  | .ok request =>
    match service with
    | .absent => .unresolved request (notConfigured "Ecobee Service" selection)
    | .withoutProvider => .unresolved request (notConfigured "Ecobee Action Provider" selection)
    | .failing f => .unresolved request f
    | .ready =>
      match provider with
      | .answers v => .delivered request (.ok v.isTruthy)
      | .fails f => .delivered request (.error f)

theorem InForce.course_eq (h : InForce scale service provider s) (action : Action) (a : Arguments) :
    s.course action a =
      courseOf (a.value "selection") service provider (action.makeRequest scale a).2 := by
  obtain ⟨rfl, route, rfl, rfl⟩ := h
  unfold course resolve perform
  rw [route]
  cases (action.makeRequest s.scale a).2 with
  | error f => rfl
  | ok request =>
    cases s.service with
    | ready => cases s.provider <;> rfl
    | _ => rfl

/-- A call looks for its provider unless its request cannot be made, and calls it if it is delivered. -/
theorem InForce.counts_moved (h : InForce scale service provider s) (selection : Value)
    (c : Course) :
    (s.moved selection c).lookups = s.lookups + (match c with | .unmade _ => 0 | _ => 1) ∧
      (s.moved selection c).calls = s.calls + (match c with | .delivered _ _ => 1 | _ => 0) := by
  have route := h.route_eq
  cases c <;> simp [Session.moved, resolve, perform, route]

theorem notConfigured_ne_interrupted (what : String) (selection : Value) (cause : Log.Cause) :
    notConfigured what selection ≠ .interrupted cause := by
  unfold notConfigured
  split
  · exact nofun
  · next e _ => cases e <;> exact nofun

theorem outcome_courseOf_accepted_iff (action : Action) (selection : Value) (service : Lookup)
    (provider : Provider) (made : Except Fault Request) :
    outcome action selection (courseOf selection service provider made) = .answered true ↔
      sent selection (courseOf selection service provider made) ≠ [] ∧
        ∃ v, provider = .answers v ∧ v.isTruthy = true := by
  cases made with
  | error f => simp [courseOf, outcome, sent, report_ofFault]
  | ok r =>
    cases service with
    | ready => cases provider <;> simp [courseOf, outcome, sent, report_ne_accepted]
    | _ => simp [courseOf, outcome, sent, report_ne_accepted]

/-- A report answers no, or it stops the program for the cause that it was given. -/
theorem report_cases (action : Action) (selection : Value) (f : Failure) :
    (report action selection f).2 = .answered false ∨
      ∃ cause, f = .interrupted cause ∧ (report action selection f).2 = .interrupted cause := by
  cases f <;> simp [report]

theorem outcome_courseOf_cases (action : Action) (selection : Value) (service : Lookup)
    (provider : Provider) (made : Except Fault Request) :
    (∃ b, outcome action selection (courseOf selection service provider made) = .answered b) ∨
      ∃ cause, outcome action selection (courseOf selection service provider made) =
          .interrupted cause ∧
        (service = .failing (.interrupted cause) ∨
          sent selection (courseOf selection service provider made) ≠ [] ∧
            provider = .fails (.interrupted cause)) := by
  have unconfigured (what : String) :
      ∃ b, (report action selection (notConfigured what selection)).2 = .answered b := by
    obtain no | ⟨cause, eq, -⟩ := report_cases action selection (notConfigured what selection)
    · exact ⟨false, no⟩
    · exact absurd eq (notConfigured_ne_interrupted what selection cause)
  cases made with
  | error f => exact Or.inl ⟨false, report_ofFault action selection f⟩
  | ok r =>
    cases service with
    | absent => exact Or.inl (unconfigured _)
    | withoutProvider => exact Or.inl (unconfigured _)
    | failing f =>
      obtain no | ⟨cause, rfl, eq⟩ := report_cases action selection f
      · exact Or.inl ⟨false, no⟩
      · exact Or.inr ⟨cause, eq, Or.inl rfl⟩
    | ready =>
      cases provider with
      | answers v => exact Or.inl ⟨_, rfl⟩
      | fails f =>
        obtain no | ⟨cause, rfl, eq⟩ := report_cases action selection f
        · exact Or.inl ⟨false, no⟩
        · exact Or.inr ⟨cause, eq, Or.inr ⟨by simp [courseOf, sent], rfl⟩⟩

/-- A call is carried out with what its arguments are bound to if they fit. -/
theorem call_of_fits (s : Session) {action : Action} {placed : List Value}
    {named : List (Text × Value)} (fits : action.signature.Fits placed named) :
    s.call action placed named = s.invoke action (action.signature.bound placed named) := by
  have bind := (action.signature_distinct.bind_eq_ok_iff placed named _).mpr ⟨fits, rfl⟩
  unfold Session.call
  rw [bind]

/-- A call whose arguments do not fit is an error, and leaves the session as it is. -/
theorem call_of_misfit (s : Session) {action : Action} {placed : List Value}
    {named : List (Text × Value)} (misfit : ¬ action.signature.Fits placed named) :
    ∃ m, s.call action placed named = (s, ⟨.mismatched m, [], []⟩) := by
  unfold Session.call
  cases bound : action.signature.bind placed named with
  | error m => exact ⟨_, rfl⟩
  | ok a => exact absurd ((action.signature_distinct.bind_eq_ok_iff placed named a).mp bound).1 misfit

theorem InForce.call_delivers (h : InForce scale service provider s) (action : Action)
    (placed : List Value) (named : List (Text × Value)) :
    Delivers scale service provider action placed named s (s.call action placed named).1
      (s.call action placed named).2 := by
  by_cases fits : action.signature.Fits placed named
  case neg =>
    obtain ⟨m, call⟩ := s.call_of_misfit fits
    rw [call]
    exact ⟨fun _ => ⟨⟨_, rfl⟩, rfl, rfl, rfl⟩, fun fits' => absurd fits' fits,
      fun fits' => absurd fits' fits, fun fits' => absurd fits' fits,
      fun fits' => absurd fits' fits⟩
  case pos =>
    have describes (r : Request) :
        action.Describes scale (action.signature.bound placed named) r ↔
          (action.makeRequest scale (action.signature.bound placed named)).2 = .ok r :=
      Action.describes_iff (action.signature.names_bound named fits.room) r
    rw [s.call_of_fits fits, invoke_eq, h.course_eq]
    have counts := h.counts_moved ((action.signature.bound placed named).value "selection")
    refine ⟨fun misfit => absurd fits misfit, fun _ none => ?_, fun _ r request => ?_,
      fun _ => outcome_courseOf_accepted_iff _ _ _ _ _,
      fun _ => outcome_courseOf_cases _ _ _ _ _⟩
    · cases made : (action.makeRequest scale (action.signature.bound placed named)).2 with
      | ok r => exact absurd ((describes r).mpr made) (none r)
      | error f =>
        obtain ⟨lookups, calls⟩ := counts (.unmade f)
        exact ⟨report_ofFault _ _ _, lookups, calls, rfl⟩
    · rw [(describes r).mp request]
      have selected := selectionOf?_eq fits
      generalize (action.signature.bound placed named).value "selection" = selection
        at counts selected ⊢
      obtain ⟨lookups, calls⟩ := counts (courseOf selection service provider (.ok r))
      cases service with
      | ready =>
        have delivered : ∃ result,
            courseOf selection .ready provider (.ok r) = .delivered r result := by
          cases provider <;> exact ⟨_, rfl⟩
        obtain ⟨result, delivered⟩ := delivered
        rw [delivered] at lookups calls ⊢
        exact ⟨lookups, fun ne => absurd rfl ne, fun _ => ⟨calls, _, selected, rfl⟩⟩
      | absent => exact ⟨lookups, fun _ => ⟨calls, rfl⟩, nofun⟩
      | withoutProvider => exact ⟨lookups, fun _ => ⟨calls, rfl⟩, nofun⟩
      | failing f => exact ⟨lookups, fun _ => ⟨calls, rfl⟩, nofun⟩

/-- Every call of every run delivers. -/
theorem run_delivers (scale : TemperatureScale) (service : Lookup) (provider : Provider)
    (earlier later : List Step) (action : Action) (placed : List Value)
    (named : List (Text × Value)) :
    ∃ before after answer,
      before = (opened scale service provider).after earlier ∧
      ((opened scale service provider).run
        (earlier ++ .call action placed named :: later))[earlier.length]? =
        some (after, some answer) ∧
      Delivers scale (serviceAfter service earlier) (providerAfter provider earlier) action placed
        named before after answer := by
  have start : InForce scale service provider (opened scale service provider) :=
    ⟨rfl, rfl, rfl, rfl⟩
  exact ⟨_, _, _, rfl, run_getElem? _ earlier later _,
    (start.after earlier).call_delivers action placed named⟩

end Thermostat.Session
