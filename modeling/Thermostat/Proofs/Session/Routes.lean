import Thermostat.Proofs.Action.Readings
import Thermostat.Proofs.Session.Reports

/-! The routes by which temperatures reach a thermostat. A hold that is set by temperatures and a climate
is the hold that is set by the entries for them, and vacations and holds take the same readings alike. -/
namespace Thermostat

namespace Session

/-- Two records that differ in the name of the action that they are about, if at all. -/
structure Renamed (action other : Action) (r q : Log.Record) : Prop where
  level : r.level = q.level
  logger : r.logger = q.logger
  cause : r.cause = q.cause
  message : r.message = q.message ∨ ∃ rest : Text,
    r.message = some ("Ecobee action " ++ action.name ++ rest) ∧
      q.message = some ("Ecobee action " ++ other.name ++ rest)

/-- Two calls that leave the session alike, with its counts of lookups and of calls, end alike and send
the same; their records differ in the name of the action at most. -/
structure SameUpToName (action other : Action) (x y : Session × Answer) : Prop where
  session : x.1 = y.1
  outcome : x.2.outcome = y.2.outcome
  sent : x.2.sent = y.2.sent
  records : List.Forall₂ (Renamed action other) x.2.records y.2.records

/-- Arguments of the two actions for a hold that stand for the same: one has temperatures and climate as
arguments of their own, the other has the entries for those of them that are given. -/
structure SameHold (a b : Arguments) : Prop where
  selection : b.value "selection" = a.value "selection"
  params : b.value "params" = .dict (Action.givenEntries a)
  terms : b.terms = a.terms

/-- The arguments by which a hold is set with entries instead. -/
def withEntries (a : Arguments) : Arguments :=
  [("selection", a.value "selection"), ("params", .dict (Action.givenEntries a)),
   ("hold_type", a.value "hold_type"), ("hold_hours", a.value "hold_hours"),
   ("start_date_time", a.value "start_date_time"), ("end_date_time", a.value "end_date_time")]

section Names

variable (action other : Action)

theorem renamed_self (r : Log.Record) : Renamed action other r r := ⟨rfl, rfl, rfl, Or.inl rfl⟩

theorem renamed_record (selection : Option Text) (b : Blame) :
    Renamed action other (b.record action selection) (b.record other selection) := by
  cases selection with
  | none => cases b <;> exact ⟨rfl, rfl, rfl, Or.inl rfl⟩
  | some t =>
    cases b with
    | refused kind => exact renamed_self action other _
    | _ =>
      refine ⟨rfl, rfl, rfl, Or.inr ?_⟩
      simp only [Blame.record, record, Option.map_some, Text.append_assoc, Option.some.injEq,
        Text.append_right_inj]
      exact ⟨_, rfl, rfl⟩

theorem renamed_aftermath (selection : Value) (c : Course) :
    List.Forall₂ (Renamed action other) (aftermath action selection c) (aftermath other selection c) := by
  unfold aftermath
  cases c.blame? with
  | none => exact .nil
  | some b => exact .cons (renamed_record action other selection.plain? b) .nil

theorem outcome_report (selection : Value) (f : Failure) :
    (report action selection f).2 = (report other selection f).2 := by
  cases f <;> rfl

theorem outcome_eq (selection : Value) (c : Course) :
    outcome action selection c = outcome other selection c := by
  cases c with
  | delivered r result =>
    cases result with
    | error f => exact outcome_report action other selection f
    | ok accepted => rfl
  | _ => exact outcome_report action other selection _

/-- Where two actions make the same request for the same selection, they differ in their names alone. -/
theorem sameUpToName_invoke (s : Session) {a b : Arguments}
    (selection : b.value "selection" = a.value "selection")
    (made : other.makeRequest s.scale b = action.makeRequest s.scale a) :
    SameUpToName action other (s.invoke action a) (s.invoke other b) := by
  have course : s.course other b = s.course action a := by
    unfold course
    rw [made, selection]
  rw [invoke_eq, invoke_eq, course, made, selection]
  refine ⟨rfl, outcome_eq action other _ _, rfl, ?_⟩
  dsimp only
  rw [ownRecords_eq_append, ownRecords_eq_append, ← List.append_assoc, ← List.append_assoc]
  exact List.rel_append (List.forall₂_same.mpr fun r _ => renamed_self action other r)
    (renamed_aftermath action other _ _)

end Names

theorem SameHold.makeRequest_eq {a b : Arguments} (same : SameHold a b) (scale : TemperatureScale) :
    Action.setHoldParams.makeRequest scale b = Action.setHold.makeRequest scale a := by
  have entries : Action.setHoldParams.makeRequest scale b =
      Action.holdOfEntries scale (Action.givenEntries a) b := by
    unfold Action.makeRequest
    rw [same.params]
  rw [entries, ← Action.holdEntries_eq]
  exact Action.holdOfEntries_congr same.terms

/-- Every way of setting a hold by temperatures has its counterpart by entries. -/
theorem sameHold_withEntries (a : Arguments) :
    Action.setHoldParams.signature.Fits [] (withEntries a).named ∧
      SameHold a (Action.setHoldParams.signature.bound [] (withEntries a).named) := by
  have names : Action.setHoldParams.signature.names = (withEntries a).map (·.1) := rfl
  have all (n : String) : n ∈ (withEntries a).map (·.1) ↔ n ∈ Action.setHoldParams.signature.names := by
    rw [names]
  have value {n : String} (mem : n ∈ Action.setHoldParams.signature.names) :=
    Action.setHoldParams.signature_distinct.value_named all mem
  refine ⟨Signature.fits_named all, value (by decide), value (by decide), ?_⟩
  unfold Arguments.terms
  rw [value (by decide), value (by decide), value (by decide), value (by decide)]
  rfl

/-- What the routes for temperatures have in common in a session. -/
structure RoutesAgree (s : Session) : Prop where
  /-- Setting a hold by temperatures and climate is setting it by the entries for them. -/
  holds : ∀ placed named placed' named', Action.setHold.signature.Fits placed named →
    Action.setHoldParams.signature.Fits placed' named' →
    SameHold (Action.setHold.signature.bound placed named)
      (Action.setHoldParams.signature.bound placed' named') →
    SameUpToName .setHold .setHoldParams (s.call .setHold placed named)
      (s.call .setHoldParams placed' named')
  /-- And it can always be set by them. -/
  counterpart : ∀ placed named, Action.setHold.signature.Fits placed named →
    ∃ placed' named', Action.setHoldParams.signature.Fits placed' named' ∧
      SameHold (Action.setHold.signature.bound placed named)
        (Action.setHoldParams.signature.bound placed' named')
  /-- Vacations and holds that are accepted send the same number for the same reading. -/
  sends : ∀ slot name, (slot, name) ∈ Action.readings → ∀ v, v ≠ .none → ∀ a b r q,
    a.value name = v → b.value name = v →
    (Action.createVacation.makeRequest s.scale a).2 = .ok r →
    (Action.setHold.makeRequest s.scale b).2 = .ok q →
    ∃ n, Entries.get? r.params slot.wireName = some (.number n) ∧
      Entries.get? q.params slot.wireName = some (.number n)
  /-- Where nothing but the reading is wrong, both are refused with the same fault or neither is. -/
  rejects : ∀ slot name, (slot, name) ∈ Action.readings → ∀ v, v ≠ .none → ∀ a b,
    Action.Tries s.scale .createVacation name v a → Action.Tries s.scale .setHold name v b →
    ∀ f, (Action.createVacation.makeRequest s.scale a).2 = .error f ↔
      (Action.setHold.makeRequest s.scale b).2 = .error f

theorem routesAgree (s : Session) : s.RoutesAgree := by
  refine ⟨?_, ?_, ?_, ?_⟩
  · intro placed named placed' named' fits fits' same
    rw [s.call_of_fits fits, s.call_of_fits fits']
    exact s.sameUpToName_invoke _ _ same.selection (same.makeRequest_eq s.scale)
  · exact fun placed named _ => ⟨_, _, sameHold_withEntries _⟩
  · rintro slot name reading _ given a b r q rfl value made made'
    obtain ⟨t, read, sent⟩ := Action.sends_vacation reading made
    obtain ⟨u, read', sent'⟩ := Action.sends_setHold reading (value ▸ given) made'
    rw [value, read] at read'
    cases read'
    exact ⟨_, sent, sent'⟩
  · intro slot name reading v given a b tries tries' f
    have vacation := Action.eq_error_iff_of_failsIn (f := f) (Action.failsIn_vacation reading tries)
      fun r made => (Action.sends_vacation reading made).imp fun t sent => tries.value ▸ sent.1
    have hold := Action.eq_error_iff_of_failsIn (f := f) (Action.failsIn_setHold reading tries')
      fun r made => (Action.sends_setHold reading (tries'.value ▸ given) made).imp
        fun t sent => tries'.value ▸ sent.1
    exact vacation.trans hold.symm

/-- A reading that is no number is refused alike by a vacation and by a hold on the scale of Celsius. -/
theorem routesAgree_hot :
    let vacation : Arguments := [("cool_hold_temp", .string "hot"), ("name", .string "Ski trip"),
      ("heat_hold_temp", .int 13)]
    let hold : Arguments := [("cool_hold_temp", .string "hot")]
    Action.Tries .celsius .createVacation "cool_hold_temp" (.string "hot") vacation ∧
      Action.Tries .celsius .setHold "cool_hold_temp" (.string "hot") hold ∧
      ∃ f, (Action.createVacation.makeRequest .celsius vacation).2 = .error f ∧
        (Action.setHold.makeRequest .celsius hold).2 = .error f := by
  intro vacation hold
  have other (v : Value) (rest : Arguments) : ∀ n, n ≠ "cool_hold_temp" →
      Arguments.value (("cool_hold_temp", .int 27) :: rest) n =
        Arguments.value (("cool_hold_temp", v) :: rest) n := by
    intro n ne
    rw [Arguments.value_cons, Arguments.value_cons, if_neg ne.symm, if_neg ne.symm]
  have tries : Action.Tries .celsius .createVacation "cool_hold_temp" (.string "hot") vacation :=
    ⟨rfl, _, _, other _ _, rfl⟩
  have tries' : Action.Tries .celsius .setHold "cool_hold_temp" (.string "hot") hold :=
    ⟨rfl, _, _, other _ _, rfl⟩
  have alike := (routesAgree { scale := .celsius }).rejects .coolHoldTemp "cool_hold_temp" (by decide)
    (.string "hot") nofun vacation hold tries tries'
  exact ⟨tries, tries', _, rfl, (alike _).mp rfl⟩

end Session

end Thermostat
