import Thermostat.Call.Signature
import Thermostat.Hold.Policy
import Thermostat.Proofs.Value.Number
import Thermostat.Proofs.Vocabulary

/-! How long a hold lasts, as the values say that it is made from: which of them are accepted, and
what they then mean. -/
namespace Thermostat

namespace Window

/-- The value of a moment that may be left out. -/
def momentValue : Option DateTime → Value
  | some d => .dateTime d
  | none => .none

@[simp] theorem momentValue_eq_dateTime_iff {o : Option DateTime} {d : DateTime} :
    momentValue o = .dateTime d ↔ o = some d := by
  cases o <;> simp [momentValue]

theorem exists_momentValue_iff {v : Value} :
    (∃ o, v = momentValue o) ↔ v = .none ∨ ∃ d, v = .dateTime d := by
  constructor
  · rintro ⟨_ | d, rfl⟩
    · exact Or.inl rfl
    · exact Or.inr ⟨d, rfl⟩
  · rintro (rfl | ⟨d, rfl⟩)
    · exact ⟨none, rfl⟩
    · exact ⟨some d, rfl⟩

/-- Where both ends are given, both have an offset or none has, and the end is not before the start. -/
def Ordered (w : Window) : Prop :=
  ∀ s f, w.start = some s → w.finish = some f →
    s.offset.isNone = f.offset.isNone ∧ s.instant ≤ f.instant

theorem readMoment_eq_ok_iff {parameter : String} {v : Value} {o : Option DateTime} :
    readMoment parameter v = .ok o ↔ v = momentValue o := by
  cases v <;> cases o <;> simp [readMoment, momentValue, refuse]

theorem check_eq_ok_iff {w w' : Window} : check w = .ok w' ↔ w.Ordered ∧ w' = w := by
  obtain ⟨start, finish⟩ := w
  cases start with
  | none => simp [check, Ordered, eq_comm]
  | some s =>
    cases finish with
    | none => simp [check, Ordered, eq_comm]
    | some f =>
      have ordered : Ordered ⟨some s, some f⟩ ↔
          s.offset.isNone = f.offset.isNone ∧ s.instant ≤ f.instant := by
        simp [Ordered]
      rw [ordered]
      unfold check
      dsimp only
      split
      · next mixed =>
        have mixed := bne_iff_ne.mp mixed
        exact iff_of_false nofun fun h => mixed h.1.1
      · next matched =>
        have matched : s.offset.isNone = f.offset.isNone := by simpa using matched
        split
        · next reversed => exact iff_of_false nofun fun h => by omega
        · next forward =>
          rw [Except.ok.injEq]
          exact ⟨fun same => ⟨⟨matched, by omega⟩, same.symm⟩, fun h => h.2.symm⟩

/-- A window is read just from the values of its ends, if these are in order. -/
theorem read_eq_ok_iff {start finish : Value} {w : Window} :
    read start finish = .ok w ↔
      start = momentValue w.start ∧ finish = momentValue w.finish ∧ w.Ordered := by
  unfold read
  rw [bind_eq_ok_iff]
  constructor
  · rintro ⟨s, first, rest⟩
    obtain ⟨f, second, checked⟩ := bind_eq_ok_iff.mp rest
    obtain ⟨ordered, rfl⟩ := check_eq_ok_iff.mp checked
    exact ⟨readMoment_eq_ok_iff.mp first, readMoment_eq_ok_iff.mp second, ordered⟩
  · rintro ⟨first, second, ordered⟩
    refine ⟨w.start, readMoment_eq_ok_iff.mpr first, bind_eq_ok_iff.mpr ?_⟩
    exact ⟨w.finish, readMoment_eq_ok_iff.mpr second, check_eq_ok_iff.mpr ⟨ordered, rfl⟩⟩

end Window

/-- The four values that say how long a hold lasts. -/
structure Terms where
  type : Value
  hours : Value
  start : Value
  finish : Value

def Arguments.terms (a : Arguments) : Terms :=
  ⟨a.value "hold_type", a.value "hold_hours", a.value "start_date_time", a.value "end_date_time"⟩

namespace Terms

open Vocabulary

def read (t : Terms) : Except Fault Hold := Hold.read t.type t.hours t.start t.finish

/-- The hold that terms mean: each part is what its value is. -/
structure Mean (t : Terms) (h : Hold) : Prop where
  start : t.start = Window.momentValue h.window.start
  finish : t.finish = Window.momentValue h.window.finish
  type : t.type = .none ∧ h.type = none ∨ ∃ w : HoldType, Names t.type w ∧ h.type = some w
  hours : t.hours = .none ∧ h.hours = none ∨
    ∃ n : ℤ, t.hours.number? = some (n : ℚ) ∧ h.hours = some n

end Terms

namespace Hold

theorem readHours_eq_ok_iff {v : Value} {n : Int} :
    readHours v = .ok n ↔ v.number? = some (n : ℚ) ∧ 0 < n := by
  unfold readHours
  rw [bind_eq_ok_iff]
  constructor
  · rintro ⟨m, whole, checked⟩
    split at checked
    · cases checked
    · next positive =>
      cases checked
      exact ⟨Field.requireInt_eq_ok_iff.mp whole, by omega⟩
  · rintro ⟨whole, positive⟩
    exact ⟨n, Field.requireInt_eq_ok_iff.mpr whole, if_neg (by omega)⟩

/-- A hold has what its type needs. -/
def Complete (h : Hold) : Prop :=
  (h.type = some .holdHours → h.hours ≠ none) ∧
    (h.type = some .dateTime → h.window.start ≠ none ∧ h.window.finish ≠ none)

theorem check_eq_ok_iff {h h' : Hold} : check h = .ok h' ↔ h.Complete ∧ h' = h := by
  unfold check Complete
  split
  · next missing => exact iff_of_false nofun fun ⟨⟨byHours, _⟩, _⟩ => byHours missing.1 missing.2
  · next hours =>
    split
    · next missing =>
      refine iff_of_false nofun fun ⟨⟨_, byMoments⟩, _⟩ => ?_
      obtain ⟨start, finish⟩ := byMoments missing.1
      exact missing.2.elim start finish
    · next moments =>
      rw [Except.ok.injEq]
      constructor
      · rintro rfl
        refine ⟨⟨fun type none => hours ⟨type, none⟩, fun type => ⟨?_, ?_⟩⟩, rfl⟩
        · exact fun none => moments ⟨type, Or.inl none⟩
        · exact fun none => moments ⟨type, Or.inr none⟩
      · exact fun ⟨_, same⟩ => same.symm

end Hold

namespace Terms

open Vocabulary

variable {t : Terms} {h : Hold}

theorem read_eq_ok_iff :
    t.read = .ok h ↔ t.Mean h ∧ h.window.Ordered ∧ (∀ n, h.hours = some n → 0 < n) ∧ h.Complete := by
  have type (o : Option HoldType) :
      (Field.optional t.type fun v => Field.parseWord HoldType v (some "holdType")) = .ok o ↔
        t.type = .none ∧ o = none ∨ ∃ w : HoldType, Names t.type w ∧ o = some w := by
    rw [Field.optional_eq_ok_iff]
    simp only [Field.parseWord_eq_ok_iff]
    refine or_congr Iff.rfl ⟨fun named => named.2, fun named => ⟨?_, named⟩⟩
    obtain ⟨w, ⟨l, same, -⟩, -⟩ := named
    rw [same]
    nofun
  have hours (o : Option Int) : Field.optional t.hours Hold.readHours = .ok o ↔
      (t.hours = .none ∧ o = none ∨ ∃ n : ℤ, t.hours.number? = some (n : ℚ) ∧ o = some n) ∧
        ∀ n, o = some n → 0 < n := by
    rw [Field.optional_eq_ok_iff]
    simp only [Hold.readHours_eq_ok_iff]
    constructor
    · rintro (⟨none, rfl⟩ | ⟨-, n, ⟨number, positive⟩, rfl⟩)
      · exact ⟨Or.inl ⟨none, rfl⟩, nofun⟩
      · refine ⟨Or.inr ⟨n, number, rfl⟩, fun m same => ?_⟩
        cases same
        exact positive
    · rintro ⟨⟨none, rfl⟩ | ⟨n, number, rfl⟩, positive⟩
      · exact Or.inl ⟨none, rfl⟩
      · refine Or.inr ⟨fun nothing => ?_, n, ⟨number, positive n rfl⟩, rfl⟩
        rw [nothing] at number
        cases number
  unfold read Hold.read
  rw [bind_eq_ok_iff]
  constructor
  · rintro ⟨w, window, rest⟩
    obtain ⟨o, typed, rest⟩ := bind_eq_ok_iff.mp rest
    obtain ⟨p, timed, checked⟩ := bind_eq_ok_iff.mp rest
    obtain ⟨complete, rfl⟩ := Hold.check_eq_ok_iff.mp checked
    obtain ⟨start, finish, ordered⟩ := Window.read_eq_ok_iff.mp window
    obtain ⟨timed, positive⟩ := (hours p).mp timed
    exact ⟨⟨start, finish, (type o).mp typed, timed⟩, ordered, positive, complete⟩
  · rintro ⟨mean, ordered, positive, complete⟩
    refine ⟨h.window, Window.read_eq_ok_iff.mpr ⟨mean.start, mean.finish, ordered⟩, ?_⟩
    refine bind_eq_ok_iff.mpr ⟨h.type, (type _).mpr mean.type, ?_⟩
    refine bind_eq_ok_iff.mpr ⟨h.hours, (hours _).mpr ⟨mean.hours, positive⟩, ?_⟩
    exact Hold.check_eq_ok_iff.mpr ⟨complete, rfl⟩

namespace Mean

variable (mean : t.Mean h)
include mean

end Mean

end Terms

end Thermostat
