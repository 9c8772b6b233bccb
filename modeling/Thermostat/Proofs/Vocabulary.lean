import Thermostat.Field
import Thermostat.Proofs.Steps

/-! What single arguments are taken for: words of the lists, by themselves or by their exact literals,
texts and flags. -/
namespace Thermostat

namespace Vocabulary

/-- A list has all its words, no two of them are written alike, and its words as texts count as what
they are written as. -/
class Lawful (α : Type) [Vocabulary α] : Prop where
  mem_all : ∀ w : α, w ∈ all (α := α)
  literal_inj : ∀ v w : α, literal v = literal w → v = w
  literal_of_ofWord? : ∀ (u : Word) (w : α), ofWord? u = some w → u.literal = literal w

instance : Lawful HoldType where
  mem_all w := by cases w <;> decide
  literal_inj v w same := by cases v <;> cases w <;> first | rfl | exact absurd same (by decide)
  literal_of_ofWord? u w found := by
    cases u <;> cases found
    rfl

instance : Lawful FanMode where
  mem_all w := by cases w <;> decide
  literal_inj v w same := by cases v <;> cases w <;> first | rfl | exact absurd same (by decide)
  literal_of_ofWord? u w found := by
    cases u <;> cases found
    rfl

instance : Lawful AckType where
  mem_all w := by cases w <;> decide
  literal_inj v w same := by cases v <;> cases w <;> first | rfl | exact absurd same (by decide)
  literal_of_ofWord? u w found := by
    cases u <;> cases found
    rfl

instance : Lawful PlugState where
  mem_all w := by cases w <;> decide
  literal_inj v w same := by cases v <;> cases w <;> first | rfl | exact absurd same (by decide)
  literal_of_ofWord? u w found := by
    cases u <;> cases found
    rfl

variable {α : Type} [Vocabulary α]

/-- A value names a word if it is a text with the content of its literal. A word of the list is such
a text itself. -/
def Names (v : Value) (w : α) : Prop := ∃ l, v = .text l ∧ l.content = Text.ofString (literal w)

variable [Lawful α]

theorem ofLiteral?_eq_some_iff {t : Text} {w : α} :
    ofLiteral? α t = some w ↔ t = Text.ofString (literal w) := by
  constructor
  · intro found
    have same := List.find?_some found
    exact (beq_iff_eq.mp same).symm
  · rintro rfl
    have here : (ofLiteral? α (Text.ofString (literal w))).isSome = true := by
      rw [ofLiteral?, List.find?_isSome]
      exact ⟨w, Lawful.mem_all w, beq_self_eq_true _⟩
    obtain ⟨v, found⟩ := Option.isSome_iff_exists.mp here
    have same := List.find?_some found
    rw [found, Lawful.literal_inj v w (Text.ofString_inj.mp (beq_iff_eq.mp same))]

end Vocabulary

namespace Field

open Vocabulary

/-- A value is taken for a word just if it names it. -/
theorem parseWord_eq_ok_iff {α : Type} [Vocabulary α] [Lawful α] {v : Value}
    {parameter : Option Text} {w : α} :
    parseWord α v parameter = .ok w ↔ Names v w := by
  cases v with
  | text l =>
    have names : Names (.text l) w ↔ l.content = Text.ofString (literal w) := by
      constructor
      · rintro ⟨m, same, content⟩
        cases same
        exact content
      · exact fun content => ⟨l, rfl, content⟩
    rw [names, ← ofLiteral?_eq_some_iff]
    unfold parseWord
    cases l with
    | text t =>
      change _ ↔ ofLiteral? α t = some w
      dsimp only
      cases ofLiteral? α t <;> simp [refuse]
    | word u =>
      change _ ↔ ofLiteral? α (Text.ofString u.literal) = some w
      dsimp only
      cases own : ofWord? (α := α) u with
      | some x =>
        rw [Lawful.literal_of_ofWord? u x own, ofLiteral?_eq_some_iff.mpr rfl]
        simp
      | none => cases ofLiteral? α (Text.ofString u.literal) <;> simp [refuse]
  | _ =>
    refine iff_of_false (fun ok => by cases ok) ?_
    rintro ⟨l, same, -⟩
    cases same

theorem requireText_eq_ok_iff {v : Value} {parameter : Text} {l : Label} :
    requireText v parameter = .ok l ↔ v = .text l ∧ Text.isBlankText l.content = false := by
  cases v with
  | text m =>
    change (if Text.isBlankText m.content = true then _ else Except.ok m) = _ ↔ _
    cases blank : Text.isBlankText m.content with
    | true =>
      rw [if_pos rfl]
      refine iff_of_false nofun ?_
      rintro ⟨same, text⟩
      cases same
      rw [blank] at text
      cases text
    | false =>
      rw [if_neg Bool.false_ne_true, Except.ok.injEq, Value.text.injEq]
      constructor
      · rintro rfl
        exact ⟨rfl, blank⟩
      · exact And.left
  | _ => exact iff_of_false nofun nofun

theorem requireBool_eq_ok_iff {v : Value} {parameter : Text} {b : Bool} :
    requireBool v parameter = .ok b ↔ v = .bool b := by
  cases v <;> simp [requireBool, refuse]

theorem optional_eq_ok_iff {β : Type} {v : Value} {parse : Value → Except Fault β} {o : Option β} :
    optional v parse = .ok o ↔
      v = .none ∧ o = none ∨ v ≠ .none ∧ ∃ b, parse v = .ok b ∧ o = some b := by
  by_cases nothing : v = .none
  · subst nothing
    simp [optional, eq_comm]
  · have given : optional v parse = (parse v).map some := by
      cases v with
      | none => exact absurd rfl nothing
      | _ => rfl
    rw [given, map_eq_ok_iff]
    simp [nothing, eq_comm]

end Field

end Thermostat
