import Thermostat.Proofs.Action.Hold
import Thermostat.Proofs.Session.Reports

/-! Two calls for a hold that have the same arguments but for entries whose names no field has: neither
whoever calls nor whoever performs the requests can tell them apart. -/
namespace Thermostat

/-- A request without the entries that its hold has set aside. -/
def Request.bare : Request → Request
  | setHold event hold => setHold ⟨event.slots, []⟩ hold
  | r => r

theorem Request.kind_bare (r : Request) : r.bare.kind = r.kind := by cases r <;> rfl

theorem Request.params_bare (r : Request) : r.bare.params = r.params := by cases r <;> rfl

def Course.bare : Course → Course
  | .unmade f => .unmade f
  | .unresolved r f => .unresolved r.bare f
  | .delivered r result => .delivered r.bare result

/-- The request that is made from entries is, but for what is set aside, made from those of them that
are recognised. -/
theorem Action.map_bare_holdOfEntries {scale : TemperatureScale}
    {entries others : List (Text × Value)} {a b : Arguments}
    (same : HoldEvent.recognised entries = HoldEvent.recognised others) (terms : a.terms = b.terms) :
    (holdOfEntries scale entries a).2.map Request.bare =
      (holdOfEntries scale others b).2.map Request.bare := by
  have slots : (HoldEvent.ofEntries scale entries).2.map HoldEvent.slots =
      (HoldEvent.ofEntries scale others).2.map HoldEvent.slots := HoldEvent.map_slots_ofEntries same
  rw [holdOfEntries_eq_bind, holdOfEntries_eq_bind, terms]
  generalize (HoldEvent.ofEntries scale entries).2 = read at slots ⊢
  generalize (HoldEvent.ofEntries scale others).2 = read' at slots ⊢
  cases read with
  | error f =>
    cases read' with
    | error f' =>
      cases slots
      rfl
    | ok event' => cases slots
  | ok event =>
    cases read' with
    | error f' => cases slots
    | ok event' =>
      have slots : event.slots = event'.slots := Except.ok.inj slots
      cases b.terms.read with
      | error f => rfl
      | ok hold => exact congrArg (fun slots => Except.ok (Request.setHold ⟨slots, []⟩ hold)) slots

namespace Session

section Bare

variable (s : Session) (action : Action) (selection : Value) (c : Course)

theorem moved_bare : s.moved selection c.bare = s.moved selection c := by cases c <;> rfl

theorem outcome_bare : outcome action selection c.bare = outcome action selection c := by
  cases c with
  | delivered r result => cases result <;> rfl
  | _ => rfl

theorem sent_bare :
    sent selection c.bare = (sent selection c).map fun e => (e.1, e.2.bare) := by
  cases c <;> rfl

theorem aftermath_bare : aftermath action selection c.bare = aftermath action selection c := by
  have blame : c.bare.blame? = c.blame? := by
    cases c with
    | delivered r result =>
      cases result with
      | error f => rfl
      | ok accepted => simp only [Course.bare, Course.blame?, r.kind_bare]
    | _ => rfl
  rw [aftermath, blame, aftermath]

theorem request?_bare : c.bare.request? = c.request?.map Request.bare := by cases c <;> rfl

end Bare

theorem bare_course (s : Session) (action : Action) {a b : Arguments}
    (selection : a.value "selection" = b.value "selection")
    (made : (action.makeRequest s.scale a).2.map Request.bare =
      (action.makeRequest s.scale b).2.map Request.bare) :
    (s.course action a).bare = (s.course action b).bare := by
  unfold course
  rw [selection]
  cases first : (action.makeRequest s.scale a).2 with
  | error f =>
    cases second : (action.makeRequest s.scale b).2 with
    | error f' =>
      rw [first, second] at made
      cases made
      rfl
    | ok r' =>
      rw [first, second] at made
      cases made
  | ok r =>
    cases second : (action.makeRequest s.scale b).2 with
    | error f' =>
      rw [first, second] at made
      cases made
    | ok r' =>
      rw [first, second] at made
      have same : r.bare = r'.bare := Except.ok.inj made
      dsimp only
      cases (s.resolve (b.value "selection")).2 with
      | error f => exact congrArg (Course.unresolved · f) same
      | ok u => exact congrArg (Course.delivered · s.perform.2) same

/-- Arguments by place, with entries for the second of them. -/
def placedWith (placed : List Value) (entries : List (Text × Value)) : List Value :=
  placed.set 1 (.dict entries)

/-- Arguments by name, with entries for the one that takes them. -/
def namedWith (named : List (Text × Value)) (entries : List (Text × Value)) : List (Text × Value) :=
  named.map fun e => (e.1, if e.1 = Text.ofString "params" then .dict entries else e.2)

/-- What is recorded of an answer: warnings about entries that no field has the name of, the attempts
of requests, and the rest. -/
def Logs (entries : List (Text × Value)) (selection : Value) (tried : List Request)
    (rest records : List Log.Record) : Prop :=
  ∃ warnings, records = warnings ++ tried.map (traceRecord · selection) ++ rest ∧
    ∀ r ∈ warnings, ∃ e ∈ entries, Slot.ofWireName? e.1 = none ∧
      HoldEvent.ignoredRecord e.1 e.2 = r

/-- Two calls that leave the session as they found it alike, end alike, and send the same on the wire,
in requests that differ in nothing but what is set aside; their records differ in the warnings about
that and in how the requests are described. -/
structure SameOnWire (entries others : List (Text × Value)) (x y : Session × Answer) : Prop where
  session : x.1 = y.1
  outcome : x.2.outcome = y.2.outcome
  sent : (x.2.sent.map fun e => (e.1, e.2.kind, e.2.params)) =
    y.2.sent.map fun e => (e.1, e.2.kind, e.2.params)
  bare : (x.2.sent.map fun e => (e.1, e.2.bare)) = y.2.sent.map fun e => (e.1, e.2.bare)
  records : ∃ selection tried tried' rest, tried.map Request.bare = tried'.map Request.bare ∧
    Logs entries selection tried rest x.2.records ∧ Logs others selection tried' rest y.2.records

theorem names_namedWith (named : List (Text × Value)) (entries : List (Text × Value)) :
    (namedWith named entries).map (·.1) = named.map (·.1) := List.map_map

theorem get?_namedWith (named : List (Text × Value)) (entries : List (Text × Value)) (name : Text) :
    Entries.get? (namedWith named entries) name =
      (Entries.get? named name).map fun v =>
        if name = Text.ofString "params" then .dict entries else v :=
  Entries.get?_map_named (fun k v => if k = Text.ofString "params" then Value.dict entries else v) named name

section Bound

variable {placed : List Value} {named : List (Text × Value)} {entries : List (Text × Value)}
  (fits : Action.setHoldParams.signature.Fits (placedWith placed entries) (namedWith named entries))
include fits

theorem value_params :
    (Action.setHoldParams.signature.bound (placedWith placed entries)
      (namedWith named entries)).value "params" = .dict entries := by
  obtain ⟨p, place, name, required⟩ : ∃ p, Action.setHoldParams.signature.parameters[1]? = some p ∧
      p.name = "params" ∧ p.default = none := ⟨_, rfl, rfl, rfl⟩
  have value := Action.setHoldParams.signature_distinct.value_bound (namedWith named entries)
    fits.room place
  rw [name, required, Option.getD_none, get?_namedWith] at value
  rw [value]
  by_cases second : 1 < placed.length
  · simp [placedWith, second]
  · have behind : placed.length ≤ 1 := Nat.le_of_not_lt second
    have mem : p ∈ Action.setHoldParams.signature.parameters.drop
        (placedWith placed entries).length := by
      refine List.mem_of_getElem? (i := 1 - placed.length) ?_
      rw [List.getElem?_drop, placedWith, List.length_set, Nat.add_sub_cancel' behind, place]
    obtain ⟨e, given, same⟩ := fits.complete p mem required
    have known : Text.ofString "params" ∈ named.map (·.1) := by
      rw [← names_namedWith named entries, ← name, ← same]
      exact List.mem_map_of_mem given
    obtain ⟨v, found⟩ := Option.isSome_iff_exists.mp (Entries.get?_isSome_iff.mpr known)
    have none : (placedWith placed entries)[1]? = none := by
      rw [List.getElem?_eq_none_iff, placedWith, List.length_set]
      exact behind
    rw [none, found]
    rfl

/-- Arguments other than the entries are what they are with any other entries. -/
theorem value_other {others : List (Text × Value)}
    (fits' : Action.setHoldParams.signature.Fits (placedWith placed others) (namedWith named others))
    ⦃name : String⦄ (mem : name ∈ ["selection", "hold_type", "hold_hours", "start_date_time",
      "end_date_time"]) :
    (Action.setHoldParams.signature.bound (placedWith placed entries)
        (namedWith named entries)).value name =
      (Action.setHoldParams.signature.bound (placedWith placed others)
        (namedWith named others)).value name := by
  have other (i : Nat) (apart : i ≠ 1) {p : Parameter}
      (place : Action.setHoldParams.signature.parameters[i]? = some p) (ne : p.name ≠ "params") :
      (Action.setHoldParams.signature.bound (placedWith placed entries)
          (namedWith named entries)).value p.name =
        (Action.setHoldParams.signature.bound (placedWith placed others)
          (namedWith named others)).value p.name := by
    have free : Text.ofString p.name ≠ Text.ofString "params" := fun same =>
      ne (Text.ofString_inj.mp same)
    rw [Action.setHoldParams.signature_distinct.value_bound _ fits.room place,
      Action.setHoldParams.signature_distinct.value_bound _ fits'.room place, get?_namedWith,
      get?_namedWith, placedWith, placedWith, List.getElem?_set_ne apart.symm,
      List.getElem?_set_ne apart.symm]
    simp only [if_neg free]
  simp only [List.mem_cons, List.not_mem_nil, or_false] at mem
  rcases mem with rfl | rfl | rfl | rfl | rfl
  · exact other 0 (by decide) rfl (by decide)
  · exact other 2 (by decide) rfl (by decide)
  · exact other 3 (by decide) rfl (by decide)
  · exact other 4 (by decide) rfl (by decide)
  · exact other 5 (by decide) rfl (by decide)

end Bound

/-- What is recorded of a call for a hold. -/
theorem logs_invoke (s : Session) {a : Arguments} {entries : List (Text × Value)}
    (mapping : a.value "params" = .dict entries) :
    Logs entries (a.value "selection") (s.course .setHoldParams a).request?.toList
      (aftermath .setHoldParams (a.value "selection") (s.course .setHoldParams a))
      (s.invoke .setHoldParams a).2.records := by
  have records : (Action.setHoldParams.makeRequest s.scale a).1 =
      (HoldEvent.ofEntries s.scale entries).1 := by
    unfold Action.makeRequest
    rw [mapping]
    dsimp only
    unfold Action.holdOfEntries
    split <;> next read => rw [read]
  rw [invoke_eq, ownRecords_eq_append]
  dsimp only
  rw [records, ← List.append_assoc]
  exact ⟨_, rfl, fun r mem => HoldEvent.mem_records_addEntries mem⟩

/-- Entries whose names no field has change nothing of a hold but what it sets aside, and nothing of
a call for it but the warnings about them. -/
theorem sameOnWire_of_recognised_eq {entries others : List (Text × Value)}
    (same : HoldEvent.recognised entries = HoldEvent.recognised others) :
    (∀ scale, (HoldEvent.ofEntries scale entries).2.map HoldEvent.slots =
      (HoldEvent.ofEntries scale others).2.map HoldEvent.slots) ∧
    ∀ (s : Session) (placed : List Value) (named : List (Text × Value)),
      SameOnWire entries others
        (s.call .setHoldParams (placedWith placed entries) (namedWith named entries))
        (s.call .setHoldParams (placedWith placed others) (namedWith named others)) := by
  refine ⟨fun scale => HoldEvent.map_slots_ofEntries same, fun s placed named => ?_⟩
  have length : (placedWith placed others).length = (placedWith placed entries).length := by
    rw [placedWith, placedWith, List.length_set, List.length_set]
  have names : (namedWith named others).map (·.1) = (namedWith named entries).map (·.1) := by
    rw [names_namedWith, names_namedWith]
  cases bound : Action.setHoldParams.signature.bind (placedWith placed entries)
      (namedWith named entries) with
  | error m =>
    have bound' := Signature.bind_eq_error_congr length names bound
    unfold call
    rw [bound, bound']
    exact ⟨rfl, rfl, rfl, rfl, .none, [], [], [], rfl, ⟨[], rfl, nofun⟩, ⟨[], rfl, nofun⟩⟩
  | ok a =>
    cases bound' : Action.setHoldParams.signature.bind (placedWith placed others)
        (namedWith named others) with
    | error m =>
      rw [Signature.bind_eq_error_congr length.symm names.symm bound'] at bound
      cases bound
    | ok b =>
      obtain ⟨fits, rfl⟩ := (Action.signature_distinct _).bind_eq_ok_iff _ _ _ |>.mp bound
      obtain ⟨fits', rfl⟩ := (Action.signature_distinct _).bind_eq_ok_iff _ _ _ |>.mp bound'
      have mapping := value_params fits
      have mapping' := value_params fits'
      have rest := value_other fits fits'
      rw [s.call_of_fits fits, s.call_of_fits fits']
      generalize Action.setHoldParams.signature.bound (placedWith placed entries)
        (namedWith named entries) = a at mapping rest ⊢
      generalize Action.setHoldParams.signature.bound (placedWith placed others)
        (namedWith named others) = b at mapping' rest ⊢
      have selection : a.value "selection" = b.value "selection" := rest (by simp)
      have terms : a.terms = b.terms := by
        unfold Arguments.terms
        rw [rest (by simp), rest (by simp), rest (by simp), rest (by simp)]
      have made : (Action.setHoldParams.makeRequest s.scale a).2.map Request.bare =
          (Action.setHoldParams.makeRequest s.scale b).2.map Request.bare := by
        unfold Action.makeRequest
        rw [mapping, mapping']
        exact Action.map_bare_holdOfEntries same terms
      have course := s.bare_course .setHoldParams selection made
      have logs := s.logs_invoke mapping
      have logs' := s.logs_invoke mapping'
      rw [← aftermath_bare, course, selection, aftermath_bare] at logs
      have tried : (s.course .setHoldParams a).request?.toList.map Request.bare =
          (s.course .setHoldParams b).request?.toList.map Request.bare := by
        rw [← Option.toList_map, ← Option.toList_map, ← request?_bare, ← request?_bare, course]
      have bare : (sent (a.value "selection") (s.course .setHoldParams a)).map
            (fun e => (e.1, e.2.bare)) =
          (sent (b.value "selection") (s.course .setHoldParams b)).map
            fun e => (e.1, e.2.bare) := by
        rw [← sent_bare, ← sent_bare, course, selection]
      refine ⟨?_, ?_, ?_, ?_, _, _, _, _, tried, logs, logs'⟩
      · rw [invoke_eq, invoke_eq, ← moved_bare, course, moved_bare, selection]
      · rw [invoke_eq, invoke_eq, ← outcome_bare, course, outcome_bare, selection]
      · have wire := congrArg (List.map fun e : Value × Request => (e.1, e.2.kind, e.2.params)) bare
        rw [invoke_eq, invoke_eq]
        simpa only [List.map_map, Function.comp_def, Request.kind_bare, Request.params_bare]
          using wire
      · rw [invoke_eq, invoke_eq]
        exact bare

/-- A reading, with entries around it that are called like other parts of a request. -/
theorem sameOnWire_of_reading :
    HoldEvent.recognised [("holdType", .string "indefinite"), ("coolHoldTemp", .int 21)] =
        HoldEvent.recognised [("coolHoldTemp", .int 21), ("startDate", .none), ("ignored", .list [])] ∧
      SameOnWire [("holdType", .string "indefinite"), ("coolHoldTemp", .int 21)]
        [("coolHoldTemp", .int 21), ("startDate", .none), ("ignored", .list [])]
        ((opened .celsius .ready (.answers .none)).call .setHoldParams
          (placedWith [.string "home", .none] [("holdType", .string "indefinite"),
            ("coolHoldTemp", .int 21)])
          (namedWith [("hold_hours", .int 2)] [("holdType", .string "indefinite"),
            ("coolHoldTemp", .int 21)]))
        ((opened .celsius .ready (.answers .none)).call .setHoldParams
          (placedWith [.string "home", .none] [("coolHoldTemp", .int 21), ("startDate", .none),
            ("ignored", .list [])])
          (namedWith [("hold_hours", .int 2)] [("coolHoldTemp", .int 21), ("startDate", .none),
            ("ignored", .list [])])) := by
  have same : HoldEvent.recognised [("holdType", .string "indefinite"), ("coolHoldTemp", .int 21)] =
      HoldEvent.recognised
        [("coolHoldTemp", .int 21), ("startDate", .none), ("ignored", .list [])] := rfl
  exact ⟨same, (sameOnWire_of_recognised_eq same).2 _ _ _⟩

end Session

end Thermostat
