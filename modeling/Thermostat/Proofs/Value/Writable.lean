import Thermostat.Proofs.Decimal.Digits
import Thermostat.Proofs.Steps
import Thermostat.Value.Text

/-! Values whose whole numbers have no more digits than are written out: both of their forms can be
written. -/
namespace Thermostat

/-- A whole number that is written out. -/
def ShortInt (n : Int) : Prop := Decimal.digitCount n.natAbs ≤ maxDigits

theorem ShortInt.intText? {n : Int} (short : ShortInt n) : intText? n = some (toString n) := by
  unfold Thermostat.intText?
  rw [if_neg (Nat.not_lt.mpr short)]

theorem isShort_iff {n : Int} : isShort n = true ↔ ShortInt n := by
  unfold isShort Thermostat.intText? ShortInt
  split <;> simp <;> omega

/-- The whole number that a field holds. -/
def SlotKind.number? : (k : SlotKind) → k.Content → Option Int
  | .temperature _, t => some (Temperature.tenths t)
  | .count, n => some n
  | _, _ => none

namespace Value

/-- The whole numbers in a value and in its parts. -/
inductive Holds : Value → Int → Prop
  | int (n : Int) : Holds (.int n) n
  | number {x : OtherNumber} {n : Int} (mem : n ∈ x.spelled) : Holds (.number x) n
  | temperature (t : Temperature) : Holds (.temperature t) t.tenths
  | item {items : List Value} {v : Value} {n : Int} (mem : v ∈ items) (holds : Holds v n) :
      Holds (.list items) n
  | entry {entries : List (Text × Value)} {e : Text × Value} {n : Int} (mem : e ∈ entries)
      (holds : Holds e.2 n) : Holds (.dict entries) n
  | slot {slots : HoldSlots} {ignored : List (Text × Value)} {s : Slot} {c : s.kind.Content}
      {n : Int} (set : slots s = some c) (number : s.kind.number? c = some n) :
      Holds (.event slots ignored) n
  | ignored {slots : HoldSlots} {ignored : List (Text × Value)} {e : Text × Value} {n : Int}
      (mem : e ∈ ignored) (holds : Holds e.2 n) : Holds (.event slots ignored) n

/-- All whole numbers in a value are written out. -/
def Short (v : Value) : Prop := ∀ n, v.Holds n → ShortInt n

theorem short_none : Short .none := nofun

theorem Short.all_isShort {x : OtherNumber} (short : Short (.number x)) :
    x.spelled.all isShort = true :=
  List.all_eq_true.mpr fun n mem => isShort_iff.mpr (short n (.number mem))

end Value

/-- The contents of a field are written where its number is. -/
theorem SlotKind.literal?_isSome {k : SlotKind} {c : k.Content}
    (short : ∀ n, k.number? c = some n → ShortInt n) : (k.literal? c).isSome = true := by
  cases k with
  | temperature relative =>
    have tenths := short _ rfl
    simp [SlotKind.literal?, Temperature.literal?, tenths.intText?]
  | count =>
    have n := short _ rfl
    simp [SlotKind.literal?, n.intText?]
  | _ => rfl

theorem HoldSlots.literals?_isSome {h : HoldSlots}
    (short : ∀ s c n, h s = some c → s.kind.number? c = some n → ShortInt n) :
    h.literals?.isSome = true := by
  refine isSome_mapM fun s _ => ?_
  rw [Option.isSome_map]
  cases set : h s with
  | none => rfl
  | some c => exact SlotKind.literal?_isSome (short s c · set)

namespace Value

mutual

theorem literal?_isSome : (v : Value) → (short : v.Short) → v.literal?.isSome = true
  | .none, _ => rfl
  | .bool _, _ => rfl
  | .int n, short => by
    have own := short n (.int n)
    simp [literal?, own.intText?]
  | .float _, _ => rfl
  | .decimal _, _ => rfl
  | .number x, short => by
    rw [literal?, if_pos short.all_isShort]
    rfl
  | .text _, _ => rfl
  | .bytes _, _ => rfl
  | .dateTime _, _ => rfl
  | .date _, _ => rfl
  | .temperature t, short => by
    have tenths := short _ (.temperature t)
    simp [literal?, Temperature.literal?, tenths.intText?]
  | .list items, short => by
    have parts := literals?_isSome items fun v mem n holds => short n (.item mem holds)
    simp [literal?, parts]
  | .dict entries, short => by
    have parts := entryLiterals?_isSome entries fun e mem n holds => short n (.entry mem holds)
    simp [literal?, parts]
  | .event slots ignored, short => by
    have fields : slots.literals?.isSome = true :=
      HoldSlots.literals?_isSome fun s c n set number => short n (.slot set number)
    have parts := entryLiterals?_isSome ignored fun e mem n holds => short n (.ignored mem holds)
    obtain ⟨fs, fields⟩ := Option.isSome_iff_exists.mp fields
    obtain ⟨ts, parts⟩ := Option.isSome_iff_exists.mp parts
    simp [literal?, fields, parts]

theorem literals?_isSome : (vs : List Value) → (short : ∀ v ∈ vs, v.Short) →
    (literals? vs).isSome = true
  | [], _ => rfl
  | v :: vs, short => by
    obtain ⟨t, first⟩ := Option.isSome_iff_exists.mp (literal?_isSome v (short v List.mem_cons_self))
    have rest := literals?_isSome vs fun w mem => short w (List.mem_cons_of_mem v mem)
    obtain ⟨ts, rest⟩ := Option.isSome_iff_exists.mp rest
    simp [literals?, first, rest]

theorem entryLiterals?_isSome : (es : List (Text × Value)) → (short : ∀ e ∈ es, e.2.Short) →
    (entryLiterals? es).isSome = true
  | [], _ => rfl
  | (k, v) :: es, short => by
    obtain ⟨t, first⟩ :=
      Option.isSome_iff_exists.mp (literal?_isSome v (short (k, v) List.mem_cons_self))
    have rest := entryLiterals?_isSome es fun e mem => short e (List.mem_cons_of_mem (k, v) mem)
    obtain ⟨ts, rest⟩ := Option.isSome_iff_exists.mp rest
    simp [entryLiterals?, first, rest]

end

end Value

theorem Temperature.text_ok {t : Temperature} (short : ShortInt t.tenths) :
    ∃ s, t.text = .ok s := by
  have room : (Decimal.digitCount t.tenths.natAbs : Int) ≤ Decimal.maxExponent / 4 := by
    have limits : ((maxDigits : Nat) : Int) ≤ Decimal.maxExponent / 4 := by decide
    unfold ShortInt at short
    omega
  obtain ⟨d, tenth⟩ := Decimal.div_ten t.tenths room
  exact ⟨_, by simp only [Temperature.text, Temperature.toLocal, tenth]; rfl⟩

theorem Value.exists_plain {v : Value} (short : v.Short) : ∃ t, v.plain = .ok t := by
  cases v with
  | temperature t =>
    obtain ⟨s, text⟩ := Temperature.text_ok (short _ (.temperature t))
    exact ⟨s, by rw [plain, text]⟩
  | number x => exact ⟨x.plain, if_pos short.all_isShort⟩
  | text l => exact ⟨_, rfl⟩
  | decimal n => exact ⟨_, rfl⟩
  | dateTime d => exact ⟨_, rfl⟩
  | date d => exact ⟨_, rfl⟩
  | _ =>
    obtain ⟨t, literal⟩ := Option.isSome_iff_exists.mp (Value.literal?_isSome _ short)
    exact ⟨t, by simp [plain, literal]⟩

theorem Value.plain?_eq_some_iff {v : Value} {t : Text} : v.plain? = some t ↔ v.plain = .ok t := by
  unfold plain?
  cases v.plain <;> simp [Except.toOption]

theorem Value.plain?_isSome {v : Value} (short : v.Short) : v.plain?.isSome = true := by
  obtain ⟨t, plain⟩ := exists_plain short
  rw [plain?_eq_some_iff.mpr plain]
  rfl

end Thermostat
