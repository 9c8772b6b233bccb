import Thermostat.Proofs.Request.Making
import Thermostat.Proofs.Value.Writable
import Thermostat.Request.Text

/-! Requests can be written if the numbers that they send are short, and the values that they set
aside. -/
namespace Thermostat

namespace Request

/-- The whole numbers that a request sends. -/
def Sends (r : Request) (n : Int) : Prop := ∃ name, (name, Param.number n) ∈ r.params

/-- The entries that a request has set aside. -/
def ignored : Request → List (Text × Value)
  | setHold event _ => event.ignored
  | _ => []

end Request

theorem HoldSlots.number_mem_params {h : HoldSlots} {s : Slot} {c : s.kind.Content} {n : Int}
    (set : h s = some c) (number : s.kind.number? c = some n) :
    (s.wireName, Param.number n) ∈ h.params := by
  have sent {k : SlotKind} {c : k.Content} (number : k.number? c = some n) :
      k.param c = .number n := by
    cases k <;> cases number <;> rfl
  exact List.mem_filterMap.mpr ⟨s, Slot.mem_all s, by rw [set, Option.map_some, sent number]⟩

theorem Hold.hours_mem_params {h : Hold} {n : Int} (hours : h.hours = some n) :
    ("holdHours", Param.number n) ∈ h.params := by
  simp [Hold.params, hours]

namespace Request

theorem hoursText_isSome {o : Option Int} (short : ∀ n, o = some n → ShortInt n) :
    (hoursText o).isSome = true := by
  cases o with
  | none => rfl
  | some n => simp [hoursText, (short n rfl).intText?]

theorem windowTexts_isSome (w : Window) : ∀ e ∈ windowTexts w, e.2.isSome = true := by
  simp [windowTexts]

theorem policyTexts_isSome {h : Hold}
    (short : ∀ n, ("holdHours", Param.number n) ∈ h.params → ShortInt n) :
    ∀ e ∈ policyTexts h, e.2.isSome = true := by
  have hours := hoursText_isSome fun n hours => short n (Hold.hours_mem_params hours)
  simp [policyTexts, hours]

theorem temperature_isSome {t : Temperature} (short : ShortInt t.tenths) :
    t.literal?.isSome = true := by
  simp [Temperature.literal?, short.intText?]

theorem event_isSome {event : HoldEvent}
    (short : ∀ name n, (name, Param.number n) ∈ event.slots.params → ShortInt n)
    (aside : ∀ e ∈ event.ignored, e.2.Short) : event.literal?.isSome = true := by
  refine Value.literal?_isSome _ fun n holds => ?_
  cases holds with
  | slot set number => exact short _ n (HoldSlots.number_mem_params set number)
  | ignored mem holds => exact aside _ mem n holds

/-- Every part of a request can be written. -/
theorem texts_isSome {r : Request} (short : ∀ n, r.Sends n → ShortInt n)
    (aside : ∀ e ∈ r.ignored, e.2.Short) : ∀ e ∈ r.texts, e.2.isSome = true := by
  have sent (name : String) (n : Int) (mem : (name, Param.number n) ∈ r.params) : ShortInt n :=
    short n ⟨name, mem⟩
  cases r with
  | controlPlug plug state hold =>
    have policy := policyTexts_isSome fun n mem => sent _ n (List.mem_append_right _ mem)
    simp only [texts, List.forall_mem_append, List.forall_mem_cons]
    exact ⟨⟨⟨rfl, rfl, nofun⟩, windowTexts_isSome _⟩, policy⟩
  | createVacation name cool heat window fan fanMinutes =>
    have cool := temperature_isSome (sent "coolHoldTemp" cool.tenths (by simp [params]))
    have heat := temperature_isSome (sent "heatHoldTemp" heat.tenths (by simp [params]))
    have minutes := hoursText_isSome fun n (given : fanMinutes = some n) =>
      sent "fanMinOnTime" n (by simp [params, given])
    simp only [texts, List.forall_mem_append, List.forall_mem_cons]
    exact ⟨⟨⟨rfl, cool, heat, nofun⟩, windowTexts_isSome _⟩, rfl, minutes, nofun⟩
  | setHold event hold =>
    have event := event_isSome (fun name n mem => sent name n (List.mem_append_left _ mem)) aside
    have policy := policyTexts_isSome fun n mem => sent _ n (List.mem_append_right _ mem)
    simp only [texts, List.forall_mem_append, List.forall_mem_cons]
    exact ⟨⟨event, policy⟩, windowTexts_isSome _⟩
  | setOccupied occupied hold =>
    have policy := policyTexts_isSome fun n mem => sent _ n (List.mem_cons_of_mem _ mem)
    simp only [texts, List.forall_mem_append, List.forall_mem_cons]
    exact ⟨⟨rfl, windowTexts_isSome _⟩, policy⟩
  | _ => simp [texts]

theorem literal?_isSome {r : Request} (short : ∀ n, r.Sends n → ShortInt n)
    (aside : ∀ e ∈ r.ignored, e.2.Short) : r.literal?.isSome = true := by
  have each : ∀ e ∈ r.texts, (e.2.map (e.1 ++ "=" ++ ·)).isSome = true := by
    intro e mem
    rw [Option.isSome_map, texts_isSome short aside e mem]
  obtain ⟨ts, written⟩ := Option.isSome_iff_exists.mp (isSome_mapM each)
  simp [literal?, written]

end Request

/-- What a hold sets aside was given among its entries. -/
theorem HoldEvent.addEntries_ignored {scale : TemperatureScale} {entries : List (Text × Value)}
    {h h' : HoldEvent} (ok : (h.addEntries scale entries).2 = .ok h') :
    ∀ e ∈ h'.ignored, e ∈ h.ignored ∨ e ∈ entries := by
  induction entries generalizing h with
  | nil =>
    cases ok
    exact fun e mem => Or.inl mem
  | cons e entries ih =>
    intro x mem
    unfold addEntries at ok
    split at ok
    · rcases ih ok x mem with old | new
      · rcases List.mem_append.mp old with old | first
        · exact Or.inl old
        · exact Or.inr (List.mem_cons.mpr (Or.inl (List.mem_singleton.mp first)))
      · exact Or.inr (List.mem_cons_of_mem e new)
    · split at ok
      · cases ok
      · exact (ih ok x mem).imp id (List.mem_cons_of_mem e)

/-- A hold sets aside what its event does; other requests set nothing aside. -/
theorem RequestKind.make_ignored {k : RequestKind} {a : Arguments} {r : Request}
    (ok : (k.make a).2 = .ok r) :
    r.ignored = [] ∨ k = .setHold ∧ ∃ slots, a.value "event" = .event slots r.ignored := by
  cases made_of_make ok with
  | setHold event hold => exact Or.inr ⟨rfl, _, event⟩
  | _ => exact Or.inl rfl

namespace Action

variable {scale : TemperatureScale} {action : Action} {a : Arguments} {r : Request}

theorem makeRequest_ignored (short : ∀ n, (a.value n).Short)
    (ok : (action.makeRequest scale a).2 = .ok r) : ∀ e ∈ r.ignored, e.2.Short := by
  have held {entries : List (Text × Value)} {event : HoldEvent} {dropped : List String}
      (read : (HoldEvent.ofEntries scale entries).2 = .ok event)
      (made : (RequestKind.setHold.make (("event", event.toValue) :: a.without dropped)).2 = .ok r)
      (given : ∀ e ∈ entries, e.2.Short) : ∀ e ∈ r.ignored, e.2.Short := by
    rcases RequestKind.make_ignored made with none | ⟨-, slots, value⟩
    · rw [none]
      nofun
    · rw [Arguments.value_cons, if_pos rfl] at value
      have same := (Value.event.inj value).2
      intro e mem
      rw [← same] at mem
      rcases HoldEvent.addEntries_ignored read e mem with old | new
      · cases old
      · exact given e new
  rw [makeRequest_eq] at ok
  obtain ⟨b, handed, ok⟩ := bind_eq_ok_iff.mp ok
  cases action
  case setHold =>
    obtain ⟨event, read, handed⟩ := bind_eq_ok_iff.mp handed
    cases handed
    exact held read ok (forall_holdEntries short)
  case setHoldParams =>
    obtain ⟨entries, mapping, handed⟩ := bind_eq_ok_iff.mp handed
    obtain ⟨event, read, handed⟩ := bind_eq_ok_iff.mp handed
    cases handed
    have params := short "params"
    rw [requireEntries_eq_ok_iff.mp mapping] at params
    exact held read ok fun e mem n holds => params n (.entry mem holds)
  all_goals
    rcases RequestKind.make_ignored ok with none | ⟨kind, -⟩
    · rw [none]
      nofun
    · cases kind

end Action

end Thermostat
