import Mathlib.Data.List.TakeWhile
import Thermostat.Proofs.Hold.Entries
import Thermostat.Proofs.Value.Writable

/-! What reading entries reports. A hold has the fields that are named and keeps the other entries; the
first entry that is refused is named by the refusal. Each entry that is set aside on the way is warned
about once. -/
namespace Thermostat

/-- A fault that, where an argument is refused, is about the argument of a name. -/
def Fault.Concerns (parameter : Text) (f : Fault) : Prop :=
  ∀ r, f = .rejected r → r.parameter = some parameter

namespace Field

variable {parameter : Text}

theorem refuse_concerns {α : Type} {r : Rejection} (same : r.parameter = some parameter) :
    FailsIn (Fault.Concerns parameter) (refuse r : Except Fault α) := by
  refine FailsIn.error fun r' refused => ?_
  unfold Fault.ofRejection at refused
  split at refused
  · cases refused
    exact same
  · next e unwritten => cases e <;> cases refused

theorem requireBool_concerns (v : Value) :
    FailsIn (Fault.Concerns parameter) (requireBool v parameter) := by
  unfold requireBool
  split
  · exact .ok _
  · exact refuse_concerns rfl

theorem requireText_concerns (v : Value) :
    FailsIn (Fault.Concerns parameter) (requireText v parameter) := by
  unfold requireText
  split
  · split
    · exact refuse_concerns rfl
    · exact .ok _
  · exact refuse_concerns rfl

theorem toDecimal_concerns (v : Value) :
    FailsIn (Fault.Concerns parameter) (toDecimal v parameter) := by
  unfold toDecimal
  split
  · exact refuse_concerns rfl
  · exact refuse_concerns rfl
  · split
    · exact refuse_concerns rfl
    · next e _ _ => exact .error (by cases e <;> nofun)
    · split
      · exact refuse_concerns rfl
      · exact .ok _
      · exact refuse_concerns rfl

theorem requireInt_concerns (v : Value) :
    FailsIn (Fault.Concerns parameter) (requireInt v parameter) := by
  unfold requireInt
  cases v with
  | int n => exact .ok n
  | float _ | decimal _ | number _ =>
    refine (toDecimal_concerns _).bind fun d _ => ?_
    split
    · exact .ok _
    · exact refuse_concerns rfl
  | _ => exact refuse_concerns rfl

theorem parseWord_concerns (α : Type) [Vocabulary α] (v : Value) :
    FailsIn (Fault.Concerns parameter) (parseWord α v (some parameter)) := by
  unfold parseWord
  dsimp only
  split
  · split
    · exact .ok _
    · exact refuse_concerns rfl
  · split
    · exact .ok _
    · split
      · exact .ok _
      · exact refuse_concerns rfl
  · exact refuse_concerns rfl

theorem temperature_concerns (v : Value) (scale : TemperatureScale) (relative : Bool) :
    FailsIn (Fault.Concerns parameter) (temperature v scale relative parameter) := by
  refine (toDecimal_concerns v).bind fun d _ => ?_
  cases Temperature.ofDegrees scale relative d with
  | ok t => exact .ok t
  | error s => exact .error nofun

end Field

/-- What a field is read from is refused by the name that the field is given. -/
theorem SlotKind.read_concerns (scale : TemperatureScale) (parameter : String) (k : SlotKind) (v : Value) :
    FailsIn (Fault.Concerns parameter) (k.read scale parameter v) := by
  cases k with
  | flag => exact Field.requireBool_concerns v
  | temperature relative => exact Field.temperature_concerns v scale relative
  | fanMode => exact Field.parseWord_concerns FanMode v
  | ventilatorMode => exact Field.parseWord_concerns VentilatorMode v
  | count => exact Field.requireInt_concerns v
  | label => exact Field.requireText_concerns v

/-- The fields that are set are sent under their names, in the order of all fields. -/
theorem HoldSlots.names_params (h : HoldSlots) :
    h.params.map (·.1) = (Slot.all.filter fun s => (h s).isSome).map Slot.wireName := by
  unfold params
  induction Slot.all with
  | nil => rfl
  | cons s rest ih => cases set : h s <;> simp [set, ih]

namespace HoldEvent

variable {scale : TemperatureScale} {entries : List (Text × Value)} {h : HoldEvent}

/-- The entries that have the name of no field, in their order. -/
def unrecognised (entries : List (Text × Value)) : List (Text × Value) :=
  entries.filter fun e => (Slot.ofWireName? e.1).isNone

/-- The record of the warning about an entry. -/
def warning (e : Text × Value) : Log.Record := ignoredRecord e.1 e.2

/-- The entries before the first that cannot be read. -/
def consumed (scale : TemperatureScale) (entries : List (Text × Value)) : List (Text × Value) :=
  entries.takeWhile fun e => (alone scale e).isOk

theorem consumed_cons_of_ok {e : Text × Value} {g : HoldEvent} (read : alone scale e = .ok g) :
    consumed scale (e :: entries) = e :: consumed scale entries :=
  List.takeWhile_cons_of_pos (by rw [read]; rfl)

theorem consumed_cons_of_error {e : Text × Value} {f : Fault} (failed : alone scale e = .error f) :
    consumed scale (e :: entries) = [] :=
  List.takeWhile_cons_of_neg (by rw [failed]; exact Bool.false_ne_true)

/-- Where entries are read before one that cannot be read, they are all that is consumed. -/
theorem consumed_append_cons {before after : List (Text × Value)} {e : Text × Value} {f : Fault}
    (read : ∀ e ∈ before, ∃ g, alone scale e = .ok g) (failed : alone scale e = .error f) :
    consumed scale (before ++ e :: after) = before := by
  induction before with
  | nil => exact consumed_cons_of_error failed
  | cons first before ih =>
    obtain ⟨⟨g, first⟩, read⟩ := List.forall_mem_cons.mp read
    rw [List.cons_append, consumed_cons_of_ok first, ih read]

theorem consumed_eq_self (read : ∀ e ∈ entries, ∃ g, alone scale e = .ok g) :
    consumed scale entries = entries := by
  refine List.takeWhile_eq_self_iff.mpr fun e mem => ?_
  obtain ⟨g, read⟩ := read e mem
  rw [read]
  rfl

/-- An entry that cannot be read has the name of a field that does not take its value. -/
theorem known_of_alone_error {name : Text} {v : Value} {f : Fault}
    (failed : alone scale (name, v) = .error f) :
    ∃ s : Slot, name = Text.ofString s.wireName ∧ s.kind.read scale s.wireName v = .error f := by
  cases known : Slot.ofWireName? name with
  | none =>
    rw [alone_unknown known] at failed
    cases failed
  | some s =>
    have wire := Slot.ofWireName?_eq_some_iff.mp known
    subst wire
    rw [alone_known] at failed
    cases read : s.kind.read scale s.wireName v with
    | error f' =>
      rw [read] at failed
      cases failed
      exact ⟨s, rfl, read⟩
    | ok c =>
      rw [read] at failed
      cases failed

theorem aside_eq {e : Text × Value} :
    aside scale e = if (Slot.ofWireName? e.1).isNone then [e] else [] := by
  obtain ⟨name, v⟩ := e
  cases known : Slot.ofWireName? name with
  | none =>
    unfold aside
    rw [alone_unknown known]
    rfl
  | some s =>
    have wire := Slot.ofWireName?_eq_some_iff.mp known
    subst wire
    unfold aside
    rw [alone_known]
    cases s.kind.read scale s.wireName v <;> rfl

theorem flatMap_aside : entries.flatMap (aside scale) = unrecognised entries := by
  induction entries with
  | nil => rfl
  | cons e entries ih =>
    rw [List.flatMap_cons, ih, aside_eq, unrecognised, unrecognised, List.filter_cons]
    split <;> rfl

/-- All that is recorded are the warnings about entries that are set aside, as far as entries are read. -/
theorem records_addEntries (h : HoldEvent) (entries : List (Text × Value)) :
    (h.addEntries scale entries).1 =
      (unrecognised (consumed scale entries)).map warning := by
  induction entries generalizing h with
  | nil => rfl
  | cons e entries ih =>
    obtain ⟨name, v⟩ := e
    cases known : Slot.ofWireName? name with
    | none =>
      have unknown : unrecognised ((name, v) :: consumed scale entries) =
          (name, v) :: unrecognised (consumed scale entries) :=
        List.filter_cons_of_pos (by simp [known])
      rw [consumed_cons_of_ok (alone_unknown known v), unknown, List.map_cons]
      simp only [addEntries, known, ih]
      rfl
    | some s =>
      have wire := Slot.ofWireName?_eq_some_iff.mp known
      subst wire
      have alone : alone scale (Text.ofString s.wireName, v) = _ := alone_known s v
      simp only [addEntries, known]
      cases read : s.kind.read scale s.wireName v with
      | error f =>
        rw [read] at alone
        rw [consumed_cons_of_error alone]
        rfl
      | ok c =>
        rw [read] at alone
        have recognised : unrecognised ((Text.ofString s.wireName, v) :: consumed scale entries) =
            unrecognised (consumed scale entries) :=
          List.filter_cons_of_neg (by simp [known])
        rw [consumed_cons_of_ok alone, recognised]
        exact ih _

section Added

variable {gs : List HoldEvent} (read : List.Forall₂ (fun e g => alone scale e = .ok g) entries gs)
include read

/-- The fields that are set when entries are added are those that were set and those that are named. -/
theorem isSome_foldl_iff (h : HoldEvent) (s : Slot) :
    ((gs.foldl extend h).slots s).isSome = true ↔
      (h.slots s).isSome = true ∨ Entries.has entries (Text.ofString s.wireName) = true := by
  induction read generalizing h with
  | nil => simp [Entries.has]
  | @cons e g entries gs first rest ih =>
    rw [List.foldl_cons, ih, slots_extend, Option.isSome_or, Bool.or_eq_true, isSome_alone_iff first s,
      Entries.has_iff, Entries.has_iff, List.map_cons, List.mem_cons, eq_comm]
    tauto

end Added

/-- One warning for each entry that is set aside, in their order. It spells the value of the entry where
that can be written. -/
structure Warned (aside : List (Text × Value)) (records : List Log.Record) : Prop where
  each : List.Forall₂ (fun e r => r = warning e) aside records
  spelled : ∀ e ∈ aside, e.2.Short → (warning e).message.isSome = true

theorem warned_map (aside : List (Text × Value)) : Warned aside (aside.map warning) := by
  refine ⟨?_, fun e _ short => ?_⟩
  · rw [List.forall₂_map_right_iff, List.forall₂_same]
    exact fun e _ => rfl
  · rw [warning, ignoredRecord, Option.isSome_map]
    exact Value.plain?_isSome short

theorem warned_ofEntries (scale : TemperatureScale) (entries : List (Text × Value)) :
    Warned (unrecognised (consumed scale entries)) (ofEntries scale entries).1 := by
  rw [ofEntries, records_addEntries]
  exact warned_map _

/-- What is known of a hold that was read: its fields are those that are named, in the order of all
fields, and it keeps the other entries as they were given, each of which was warned about. -/
structure Taken (entries : List (Text × Value)) (records : List Log.Record) (h : HoldEvent) : Prop where
  names : h.slots.params.map (·.1) =
    (Slot.all.map Slot.wireName).filter fun name : String => Entries.has entries (Text.ofString name)
  ignored : h.ignored = unrecognised entries
  warned : Warned h.ignored records

/-- What is known of a refusal: the refused entry is the first that its field does not take, and its
name is the argument of the refusal; of the entries before it, and of no others, those that were set
aside were warned about. -/
structure RefusedAt (scale : TemperatureScale) (before : List (Text × Value)) (s : Slot) (v : Value)
    (records : List Log.Record) (r : Rejection) : Prop where
  rejected : s.kind.read scale s.wireName v = .error (.rejected r)
  named : r.parameter = some (Text.ofString s.wireName)
  first : ∀ (t : Slot) (w : Value), (Text.ofString t.wireName, w) ∈ before →
    ∃ c, t.kind.read scale t.wireName w = .ok c
  warned : Warned (unrecognised before) records

/-- Reading entries accounts for each of them, whether it comes to an end or stops at a refusal. -/
structure Accounted (scale : TemperatureScale) (entries : List (Text × Value)) : Prop where
  taken : ∀ h, (ofEntries scale entries).2 = .ok h → Taken entries (ofEntries scale entries).1 h
  refused : ∀ r, (ofEntries scale entries).2 = .error (.rejected r) →
    ∃ before s v after, entries = before ++ (Text.ofString (Slot.wireName s), v) :: after ∧
      RefusedAt scale before s v (ofEntries scale entries).1 r

theorem ofEntries_accounted (scale : TemperatureScale) (entries : List (Text × Value)) :
    Accounted scale entries := by
  constructor
  · intro h ok
    obtain ⟨gs, read, rfl⟩ := ofEntries_eq_ok_iff.mp ok
    have each := mapM_eq_ok_iff.mp read
    have ignored : (gs.foldl extend empty).ignored = unrecognised entries := by
      rw [ignored_foldl each, flatMap_ignored each, flatMap_aside]
      rfl
    refine ⟨?_, ignored, ?_⟩
    · rw [HoldSlots.names_params, List.filter_map]
      refine congrArg (List.map Slot.wireName) (List.filter_congr fun s _ => ?_)
      rw [Bool.eq_iff_iff, isSome_foldl_iff each]
      simp [empty, HoldSlots.empty]
    · have warned := warned_ofEntries scale entries
      rw [consumed_eq_self (mapM_ok_iff.mp ⟨gs, read⟩)] at warned
      exact ignored ▸ warned
  · intro r failed
    obtain ⟨before, ⟨name, v⟩, after, rfl, read, error⟩ :=
      first_of_mapM_error (ofEntries_eq_error_iff.mp failed)
    obtain ⟨s, rfl, rejected⟩ := known_of_alone_error error
    refine ⟨before, s, v, after, rfl, rejected, ?_, fun t w mem => ?_, ?_⟩
    · exact s.kind.read_concerns scale s.wireName v _ rejected r rfl
    · obtain ⟨g, alone⟩ := read _ mem
      rw [alone_known] at alone
      obtain ⟨c, taken, -⟩ := map_eq_ok_iff.mp alone
      exact ⟨c, taken⟩
    · have warned := warned_ofEntries scale (before ++ (Text.ofString s.wireName, v) :: after)
      rwa [consumed_append_cons read error] at warned

end HoldEvent

end Thermostat
