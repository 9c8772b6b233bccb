import Thermostat.Proofs.Hold.Entries
import Thermostat.Proofs.Json.Data
import Thermostat.Proofs.Request.Rendering

/-! Where the numbers in a request come from: each of them was read from an argument. What is read
from structured text gives no number that cannot be written. -/
namespace Thermostat

/-- The whole numbers that are read from a value: the one that it is, the tenths of a temperature,
and those in the fields of an event. -/
inductive Value.Yields : Value → Int → Prop
  | number {v : Value} {n : Int} (whole : v.number? = some (n : ℚ)) : Yields v n
  | temperature (t : Temperature) : Yields (.temperature t) t.tenths
  | slot {slots : HoldSlots} {ignored : List (Text × Value)} {s : Slot} {c : s.kind.Content} {n : Int}
      (set : slots s = some c) (number : s.kind.number? c = some n) : Yields (.event slots ignored) n

/-- All whole numbers that are read from a value can be written. -/
def Value.Brief (v : Value) : Prop := ∀ n, v.Yields n → ShortInt n

theorem Value.brief_none : Brief .none := by
  rintro n ⟨whole⟩
  cases whole

theorem Value.brief_dateTime (d : DateTime) : Brief (.dateTime d) := by
  rintro n ⟨whole⟩
  cases whole

theorem shortInt_of_abs_lt {n : Int} {q : ℚ} (same : q = n) (small : |q| < powerOfTen 3000) :
    ShortInt n := by
  have below : n.natAbs < powerOfTen 3000 := by
    rw [same, ← Int.cast_abs, Int.abs_eq_natAbs] at small
    exact_mod_cast small
  have room : (3000 : Nat) ≤ maxDigits := by decide
  exact Nat.le_trans ((Decimal.digitCount_le_iff (by decide)).mpr below) room

theorem Json.Data.brief {v : Value} (data : Data maxDigits v) : v.Brief := by
  rintro n yields
  cases data with
  | int short =>
    cases yields with
    | number whole =>
      have same := Int.cast_injective (Option.some.inj whole)
      subst same
      exact short
  | @float d range =>
    cases yields with
    | number whole =>
      cases d with
      | finite negative mantissa exponent =>
        change (Double.shown negative mantissa exponent).held? = some (n : ℚ) at whole
        unfold Decimal.held? at whole
        split at whole
        · exact shortInt_of_abs_lt (Option.some.inj whole) (Double.abs_toRat_shown_lt negative range)
        · cases whole
      | _ => cases whole
  | _ =>
    cases yields with
    | number whole => cases whole

/-- A temperature has at most 28 digits. -/
theorem Temperature.shortInt_of_ofDegrees {scale : TemperatureScale} {relative : Bool} {d : Decimal}
    {t : Temperature} (ok : ofDegrees scale relative d = .ok t) : ShortInt t.tenths := by
  obtain ⟨f, -, ok⟩ := bind_eq_ok_iff.mp ok
  obtain ⟨tenfold, -, ok⟩ := bind_eq_ok_iff.mp ok
  obtain ⟨q, quantized, ok⟩ := bind_eq_ok_iff.mp ok
  cases ok
  have digits := Decimal.digitCount_quantize quantized
  have same : (wholeOf q).natAbs = q.coefficient := by
    unfold wholeOf
    split <;> omega
  change Decimal.digitCount (wholeOf q).natAbs ≤ maxDigits
  rw [same]
  exact Nat.le_trans digits (by decide)

theorem Field.shortInt_of_temperature {v : Value} {scale : TemperatureScale} {relative : Bool}
    {parameter : Text} {t : Temperature} (ok : Field.temperature v scale relative parameter = .ok t) :
    ShortInt t.tenths := by
  obtain ⟨d, -, ok⟩ := bind_eq_ok_iff.mp ok
  cases converted : Temperature.ofDegrees scale relative d with
  | ok u =>
    rw [converted] at ok
    cases ok
    exact Temperature.shortInt_of_ofDegrees converted
  | error s =>
    rw [converted] at ok
    cases ok

/-- What a field of a hold is read from gives the number in it. -/
theorem SlotKind.shortInt_of_read {k : SlotKind} {scale : TemperatureScale} {parameter : String}
    {v : Value} {c : k.Content} {n : Int} (brief : v.Brief)
    (ok : k.read scale parameter v = .ok c) (number : k.number? c = some n) : ShortInt n := by
  cases k with
  | temperature relative =>
    cases number
    exact Field.shortInt_of_temperature ok
  | count =>
    cases number
    exact brief _ (.number (Field.requireInt_eq_ok_iff.mp ok))
  | _ => cases number

/-- A field of a hold was set before, or was read from one of the entries. -/
theorem HoldEvent.addEntries_slots {scale : TemperatureScale} {entries : List (Text × Value)}
    {h h' : HoldEvent} (ok : (h.addEntries scale entries).2 = .ok h') {s : Slot} {c : s.kind.Content}
    (set : h'.slots s = some c) :
    h.slots s = some c ∨ ∃ e ∈ entries, s.kind.read scale s.wireName e.2 = .ok c := by
  induction entries generalizing h with
  | nil =>
    cases ok
    exact Or.inl set
  | cons e entries ih =>
    have later (or : ∃ e' ∈ entries, s.kind.read scale s.wireName e'.2 = .ok c) :
        ∃ e' ∈ e :: entries, s.kind.read scale s.wireName e'.2 = .ok c := by
      obtain ⟨e', mem, read⟩ := or
      exact ⟨e', List.mem_cons_of_mem e mem, read⟩
    unfold addEntries at ok
    split at ok
    · exact (ih ok).imp id later
    · next t known =>
      split at ok
      · cases ok
      · next d read =>
        rcases ih ok with old | new
        · change h.slots.put t d s = some c at old
          by_cases same : t = s
          · subst same
            rw [HoldSlots.put_self] at old
            cases old
            exact Or.inr ⟨e, List.mem_cons_self, read⟩
          · rw [HoldSlots.put_of_ne _ _ same] at old
            exact Or.inl old
        · exact Or.inr (later new)

theorem HoldEvent.brief_of_ofEntries {scale : TemperatureScale} {entries : List (Text × Value)}
    {h : HoldEvent} (brief : ∀ e ∈ entries, e.2.Brief) (ok : (ofEntries scale entries).2 = .ok h) :
    h.toValue.Brief := by
  rintro n yields
  cases yields with
  | number whole => cases whole
  | slot set number =>
    rcases addEntries_slots ok set with old | ⟨e, mem, read⟩
    · cases old
    · exact SlotKind.shortInt_of_read (brief e mem) read number

theorem SlotKind.number?_of_shown {k : SlotKind} {c : k.Content} {n : Int}
    (shown : (k.stored c).Shown (.number n)) : k.number? c = some n := by
  cases k with
  | temperature relative => exact congrArg some (Param.number.inj shown).symm
  | count => exact congrArg some (Param.number.inj shown).symm
  | label =>
    obtain ⟨l, label, -⟩ := shown
    cases label
  | _ => cases shown

theorem Stored.yields_of_shown {s : Stored} {v : Value} {n : Int} (shown : s.Shown (.number n))
    (read : s.ReadFrom v) : v.Yields n := by
  cases s with
  | number m =>
    cases shown
    exact .number read
  | temperature t =>
    cases shown
    change v = _ at read
    rw [read]
    exact .temperature t
  | text l =>
    obtain ⟨m, label, -⟩ := shown
    cases label
  | _ => cases shown

theorem Request.mem_event_stored {r : Request} {f : StoredField} (field : f ∈ r.stored)
    (parameter : f.parameter = "event") :
    ∃ event hold, r = .setHold event hold ∧ f ∈ event.slots.stored := by
  cases r with
  | setHold event hold =>
    rcases List.mem_append.mp field with slot | other
    · exact ⟨event, hold, rfl, slot⟩
    · simp only [Hold.stored, Window.stored, List.cons_append, List.nil_append, List.mem_cons,
        List.not_mem_nil, or_false] at other
      rcases other with rfl | rfl | rfl | rfl | rfl | rfl <;> simp at parameter
  | resetPreferences => cases field
  | _ =>
    simp only [stored, Hold.stored, Window.stored, List.cons_append, List.nil_append, List.mem_cons,
      List.not_mem_nil, or_false] at field
    grind

namespace RequestKind

/-- A number that is sent was read from an argument. -/
theorem yields_of_make {k : RequestKind} {a : Arguments} {r : Request}
    (ok : (k.make a).2 = .ok r) {name : String} {n : Int} (sent : (name, .number n) ∈ r.params) :
    ∃ parameter, (a.value parameter).Yields n := by
  obtain ⟨f, field, -, shown⟩ := Request.mem_stored_of_mem_params sent
  refine ⟨f.parameter, ?_⟩
  by_cases event : f.parameter = "event"
  · obtain ⟨e, hold, rfl, slot⟩ := Request.mem_event_stored field event
    obtain ⟨s, -, rfl⟩ := List.mem_map.mp slot
    cases made_of_make ok with
    | @setHold slots ignored _ value _ =>
      dsimp only at shown
      cases set : slots s with
      | none =>
        rw [set] at shown
        cases shown
      | some c =>
        rw [set] at shown
        cases shown with
        | some shown =>
          rw [event, value]
          exact .slot set (SlotKind.number?_of_shown shown)
  · have given := given_of_make ok f field event
    unfold StoredField.From at given
    cases value : f.value with
    | none =>
      rw [value] at shown
      cases shown
    | some s =>
      rw [value] at shown given
      cases shown with
      | some shown => exact Stored.yields_of_shown shown given

end RequestKind

namespace Action

variable {scale : TemperatureScale} {action : Action} {a b : Arguments}

theorem brief_without (brief : ∀ name, (a.value name).Brief) (names : List String) (name : String) :
    ((a.without names).value name).Brief := by
  by_cases dropped : name ∈ names
  · have gone : (a.without names).value name = .none := by
      rw [Arguments.value_eq, Arguments.without, Entries.get?_eq_none_iff.mpr, Option.getD_none]
      intro mem
      obtain ⟨e, kept, rfl⟩ := List.mem_map.mp mem
      have free := (List.mem_filter.mp kept).2
      simp [dropped] at free
    rw [gone]
    exact Value.brief_none
  · rw [Arguments.value_without a dropped]
    exact brief name

/-- What is handed on gives no more numbers than what was given. -/
theorem brief_handed (brief : ∀ name, (a.value name).Brief)
    (entries : ∀ es, a.value "params" = .dict es → ∀ e ∈ es, e.2.Brief)
    (ok : action.handed scale a = .ok b) (name : String) : (b.value name).Brief := by
  have cons {n : String} {v : Value} {c : Arguments} (first : v.Brief) (rest : (c.value name).Brief) :
      (Arguments.value ((n, v) :: c) name).Brief := by
    rw [Arguments.value_cons]
    split
    · exact first
    · exact rest
  have temperature {t : Temperature} (short : ShortInt t.tenths) : (Value.temperature t).Brief := by
    rintro n yields
    cases yields with
    | number whole => cases whole
    | temperature => exact short
  have rest (names : List String) := brief_without brief names name
  cases action
  case createVacation =>
    obtain ⟨cool, first, ok⟩ := bind_eq_ok_iff.mp ok
    obtain ⟨heat, second, ok⟩ := bind_eq_ok_iff.mp ok
    cases ok
    exact cons (temperature (Field.shortInt_of_temperature first))
      (cons (temperature (Field.shortInt_of_temperature second)) (rest _))
  case setHold =>
    obtain ⟨event, read, ok⟩ := bind_eq_ok_iff.mp ok
    cases ok
    exact cons (HoldEvent.brief_of_ofEntries (forall_holdEntries brief) read) (rest _)
  case setHoldParams =>
    obtain ⟨es, mapping, ok⟩ := bind_eq_ok_iff.mp ok
    obtain ⟨event, read, ok⟩ := bind_eq_ok_iff.mp ok
    cases ok
    have params := entries es (requireEntries_eq_ok_iff.mp mapping)
    exact cons (HoldEvent.brief_of_ofEntries params read) (rest _)
  all_goals
    cases ok
    exact rest _

/-- No number in a request is too long to be written if none of the arguments gives one. -/
theorem shortInt_of_makeRequest {r : Request} (brief : ∀ name, (a.value name).Brief)
    (entries : ∀ es, a.value "params" = .dict es → ∀ e ∈ es, e.2.Brief)
    (ok : (action.makeRequest scale a).2 = .ok r) {name : String} {n : Int}
    (sent : (name, .number n) ∈ r.params) : ShortInt n := by
  rw [makeRequest_eq] at ok
  obtain ⟨b, handed, ok⟩ := bind_eq_ok_iff.mp ok
  obtain ⟨parameter, yields⟩ := RequestKind.yields_of_make ok sent
  exact brief_handed brief entries handed parameter n yields

end Action

end Thermostat
