import Mathlib.Data.List.Forall2

/-! Computations that can fail, taken apart step by step. -/
namespace Thermostat

variable {ε α β : Type}

theorem bind_eq_ok_iff {x : Except ε α} {f : α → Except ε β} {b : β} :
    x >>= f = .ok b ↔ ∃ a, x = .ok a ∧ f a = .ok b := by
  cases x with
  | error e =>
    constructor
    · intro h
      cases h
    · rintro ⟨a, h, -⟩
      cases h
  | ok a =>
    constructor
    · intro h
      exact ⟨a, rfl, h⟩
    · rintro ⟨_, same, h⟩
      cases same
      exact h

theorem mapError_eq_ok_iff {ε' : Type} {x : Except ε α} {f : ε → ε'} {a : α} :
    x.mapError f = .ok a ↔ x = .ok a := by
  cases x with
  | error e =>
    constructor <;>
    · intro h
      cases h
  | ok b =>
    constructor <;>
    · intro h
      cases h
      rfl

theorem map_eq_ok_iff {x : Except ε α} {f : α → β} {b : β} :
    x.map f = .ok b ↔ ∃ a, x = .ok a ∧ f a = b := by
  cases x with
  | error e =>
    constructor
    · intro h
      cases h
    · rintro ⟨a, h, -⟩
      cases h
  | ok a =>
    constructor
    · intro h
      cases h
      exact ⟨a, rfl, rfl⟩
    · rintro ⟨_, same, rfl⟩
      cases same
      rfl

theorem map_bind {γ : Type} {x : Except ε α} {f : α → Except ε β} {g : β → γ} :
    (x >>= f).map g = x >>= fun a => (f a).map g := by
  cases x <;> rfl

theorem map_eq_error_iff {x : Except ε α} {f : α → β} {e : ε} : x.map f = .error e ↔ x = .error e := by
  cases x with
  | error e' =>
    constructor <;>
    · intro h
      cases h
      rfl
  | ok a => exact iff_of_false nofun nofun

/-- A computation on all members of a list succeeds just if it does on each of them. -/
theorem mapM_eq_ok_iff {f : α → Except ε β} {l : List α} {bs : List β} :
    l.mapM f = .ok bs ↔ List.Forall₂ (fun a b => f a = .ok b) l bs := by
  induction l generalizing bs with
  | nil =>
    rw [List.mapM_nil, List.forall₂_nil_left_iff]
    constructor
    · intro h
      cases h
      rfl
    · rintro rfl
      rfl
  | cons a l ih =>
    rw [List.mapM_cons, bind_eq_ok_iff, List.forall₂_cons_left_iff]
    constructor
    · rintro ⟨b, first, h⟩
      obtain ⟨bs, rest, h⟩ := bind_eq_ok_iff.mp h
      cases h
      exact ⟨b, bs, first, ih.mp rest, rfl⟩
    · rintro ⟨b, bs, first, rest, rfl⟩
      exact ⟨b, first, bind_eq_ok_iff.mpr ⟨bs, ih.mpr rest, rfl⟩⟩

theorem mapM_ok_iff {f : α → Except ε β} {l : List α} :
    (∃ bs, l.mapM f = .ok bs) ↔ ∀ a ∈ l, ∃ b, f a = .ok b := by
  induction l with
  | nil => exact iff_of_true ⟨[], rfl⟩ nofun
  | cons a l ih =>
    rw [List.forall_mem_cons, ← ih]
    constructor
    · rintro ⟨bs, h⟩
      obtain ⟨b, rest, first, tail, rfl⟩ := List.forall₂_cons_left_iff.mp (mapM_eq_ok_iff.mp h)
      exact ⟨⟨b, first⟩, rest, mapM_eq_ok_iff.mpr tail⟩
    · rintro ⟨⟨b, first⟩, bs, rest⟩
      exact ⟨b :: bs, mapM_eq_ok_iff.mpr (.cons first (mapM_eq_ok_iff.mp rest))⟩

/-- A computation on all members of a list fails as it does on the first of them on which it fails. -/
theorem first_of_mapM_error {f : α → Except ε β} {l : List α} {e : ε} (failed : l.mapM f = .error e) :
    ∃ before a after, l = before ++ a :: after ∧ (∀ x ∈ before, ∃ b, f x = .ok b) ∧ f a = .error e := by
  induction l with
  | nil => cases failed
  | cons a l ih =>
    rw [List.mapM_cons] at failed
    cases first : f a with
    | error e' =>
      rw [first] at failed
      cases failed
      exact ⟨[], a, l, rfl, nofun, first⟩
    | ok b =>
      have rest : l.mapM f = .error e := by
        rw [first] at failed
        cases later : l.mapM f with
        | error e' =>
          rw [later] at failed
          cases failed
          rfl
        | ok bs =>
          rw [later] at failed
          cases failed
      obtain ⟨before, a', after, rfl, read, error⟩ := ih rest
      exact ⟨a :: before, a', after, rfl, List.forall_mem_cons.mpr ⟨⟨b, first⟩, read⟩, error⟩

/-- A computation fails in no other way than these. -/
def FailsIn (P : ε → Prop) (x : Except ε α) : Prop := ∀ e, x = .error e → P e

namespace FailsIn

variable {P Q : ε → Prop} {x : Except ε α}

theorem ok (a : α) : FailsIn P (.ok a) := nofun

theorem error {e : ε} (holds : P e) : FailsIn P (.error e : Except ε α) := by
  rintro _ ⟨⟩
  exact holds

theorem mono (fails : FailsIn P x) (weaker : ∀ e, P e → Q e) : FailsIn Q x :=
  fun e failed => weaker e (fails e failed)

theorem bind {f : α → Except ε β} (first : FailsIn P x) (rest : ∀ a, x = .ok a → FailsIn P (f a)) :
    FailsIn P (x >>= f) := by
  cases x with
  | error e => exact error (first e rfl)
  | ok a => exact rest a rfl

theorem map (fails : FailsIn P x) (f : α → β) : FailsIn P (x.map f) := by
  cases x with
  | error e => exact error (fails e rfl)
  | ok a => exact ok (f a)

theorem mapError {ε' : Type} {R : ε' → Prop} {f : ε → ε'} (fails : FailsIn P x)
    (maps : ∀ e, P e → R (f e)) : FailsIn R (x.mapError f) := by
  cases x with
  | error e => exact error (maps e (fails e rfl))
  | ok a => exact ok a

theorem foldlM {f : β → α → Except ε β} {l : List α} (each : ∀ a ∈ l, ∀ b, FailsIn P (f b a)) (b : β) :
    FailsIn P (l.foldlM f b) := by
  induction l generalizing b with
  | nil => exact ok b
  | cons a l ih =>
    obtain ⟨first, each⟩ := List.forall_mem_cons.mp each
    rw [List.foldlM_cons]
    exact (first b).bind fun b _ => ih each b

end FailsIn

theorem isSome_mapM {f : α → Option β} {l : List α} (each : ∀ a ∈ l, (f a).isSome = true) :
    (l.mapM f).isSome = true := by
  induction l with
  | nil => rfl
  | cons a l ih =>
    obtain ⟨first, each⟩ := List.forall_mem_cons.mp each
    obtain ⟨b, first⟩ := Option.isSome_iff_exists.mp first
    obtain ⟨bs, rest⟩ := Option.isSome_iff_exists.mp (ih each)
    simp [first, rest]

end Thermostat
