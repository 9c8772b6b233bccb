import Thermostat.Proofs.Double.Range
import Thermostat.Proofs.Entries
import Thermostat.Proofs.Json.Number
import Thermostat.Proofs.Steps

/-! What structured text can be read as: values without further structure, lists and objects of them,
and no number with too many digits. -/
namespace Thermostat.Json

/-- The values that structured text is read as, with whole numbers of at most so many digits. -/
inductive Data (limit : Nat) : Value → Prop
  | none : Data limit .none
  | bool (b : Bool) : Data limit (.bool b)
  | int {n : Int} (short : Decimal.digitCount n.natAbs ≤ limit) : Data limit (.int n)
  | float {d : Double} (range : d.Ranged) : Data limit (.float d)
  | text (t : Text) : Data limit (.text (.text t))
  | list {items : List Value} (each : ∀ v ∈ items, Data limit v) : Data limit (.list items)
  | dict {entries : List (Text × Value)} (each : ∀ e ∈ entries, Data limit e.2) :
    Data limit (.dict entries)

variable {limit fuel depth : Nat} {v : Value} {ps rest : List CodePoint}

theorem data_of_mem_words {w : Text × Value} (mem : w ∈ words) : Data limit w.2 := by
  simp only [words, List.mem_cons, List.not_mem_nil, or_false] at mem
  rcases mem with rfl | rfl | rfl | rfl | rfl | rfl
  · exact .none
  · exact .bool true
  · exact .bool false
  · exact .float trivial
  · exact .float trivial
  · exact .float trivial

theorem data_of_readNumber (read : readNumber (some limit) ps = .ok (v, rest)) : Data limit v := by
  rcases readNumber_cases read with ⟨n, rfl, short⟩ | ⟨d, rfl⟩
  · exact .int short
  · exact .float (Double.ranged_ofDecimal d)

/-- The three readers give data with so much fuel, at any depth, from data that they have read before. -/
structure ReadsData (limit fuel : Nat) : Prop where
  value : ∀ {depth ps v rest}, readValue (some limit) fuel depth ps = .ok (v, rest) → Data limit v
  items : ∀ {depth before ps v rest}, (∀ u ∈ before, Data limit u) →
    readItems (some limit) fuel depth before ps = .ok (v, rest) → Data limit v
  entries : ∀ {depth before ps v rest}, (∀ e ∈ before, Data limit e.2) →
    readEntries (some limit) fuel depth before ps = .ok (v, rest) → Data limit v

theorem ReadsData.zero : ReadsData limit 0 :=
  ⟨nofun, fun _ => nofun, fun _ => nofun⟩

theorem ReadsData.value_succ (h : ReadsData limit fuel)
    (read : readValue (some limit) (fuel + 1) depth ps = .ok (v, rest)) : Data limit v := by
  unfold readValue at read
  split at read
  · cases read
  · obtain ⟨⟨t, more⟩, -, read⟩ := bind_eq_ok_iff.mp read
    cases read
    exact .text t
  · obtain ⟨inner, -, read⟩ := bind_eq_ok_iff.mp read
    split at read
    · cases read
      exact .list nofun
    · exact h.items (List.forall_mem_nil _) read
  · obtain ⟨inner, -, read⟩ := bind_eq_ok_iff.mp read
    split at read
    · cases read
      exact .dict nofun
    · exact h.entries (List.forall_mem_nil _) read
  · split at read
    · next w v' found =>
      cases read
      exact data_of_mem_words (List.mem_of_find?_eq_some found)
    · exact data_of_readNumber read

theorem ReadsData.items_succ (h : ReadsData limit fuel) {before : List Value}
    (given : ∀ u ∈ before, Data limit u)
    (read : readItems (some limit) (fuel + 1) depth before ps = .ok (v, rest)) : Data limit v := by
  unfold readItems at read
  obtain ⟨⟨u, more⟩, first, read⟩ := bind_eq_ok_iff.mp read
  have items : ∀ u' ∈ u :: before, Data limit u' := List.forall_mem_cons.mpr ⟨h.value first, given⟩
  dsimp only at read
  split at read
  · cases read
    exact .list fun u' mem => items u' (List.mem_reverse.mp mem)
  · exact h.items items read
  · cases read

theorem ReadsData.entries_succ (h : ReadsData limit fuel) {before : List (Text × Value)}
    (given : ∀ e ∈ before, Data limit e.2)
    (read : readEntries (some limit) (fuel + 1) depth before ps = .ok (v, rest)) : Data limit v := by
  unfold readEntries at read
  split at read
  · obtain ⟨⟨name, more⟩, -, read⟩ := bind_eq_ok_iff.mp read
    dsimp only at read
    split at read
    · obtain ⟨⟨u, more⟩, first, read⟩ := bind_eq_ok_iff.mp read
      have entries : ∀ e ∈ Entries.set name u before, Data limit e.2 := by
        intro e mem
        rcases Entries.mem_set mem with rfl | old
        · exact h.value first
        · exact given e old
      dsimp only at read
      split at read
      · cases read
        exact .dict entries
      · exact h.entries entries read
      · cases read
    · cases read
  · cases read

theorem readsData (limit fuel : Nat) : ReadsData limit fuel := by
  induction fuel with
  | zero => exact .zero
  | succ fuel ih => exact ⟨ih.value_succ, ih.items_succ, ih.entries_succ⟩

/-- Whatever structured text is read as is data. -/
theorem data_of_read {text : Text} (ok : read (some limit) depth text = .ok v) : Data limit v := by
  unfold read at ok
  dsimp only at ok
  split at ok
  · cases ok
  · split at ok
    · cases ok
    · cases ok
    · cases ok
    · next u rest found =>
      split at ok
      · cases ok
        exact (readsData limit _).value found
      · cases ok

end Thermostat.Json
