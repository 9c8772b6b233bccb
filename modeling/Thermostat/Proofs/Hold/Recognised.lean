import Thermostat.Hold.Event

/-! Entries whose names no field has: they are set aside with a warning each, and nothing else of a
hold depends on them. -/
namespace Thermostat.HoldEvent

variable {scale : TemperatureScale}

/-- The entries that have the name of a field, in their order. -/
def recognised (entries : List (Text × Value)) : List (Text × Value) :=
  entries.filter fun e => (Slot.ofWireName? e.1).isSome

/-- The fields of a hold, or the fault in their stead, come from the entries that are recognised. -/
theorem map_slots_addEntries (h g : HoldEvent) (same : h.slots = g.slots)
    (entries : List (Text × Value)) :
    (h.addEntries scale entries).2.map slots =
      (g.addEntries scale (recognised entries)).2.map slots := by
  induction entries generalizing h g with
  | nil => exact congrArg Except.ok same
  | cons e entries ih =>
    obtain ⟨name, v⟩ := e
    cases known : Slot.ofWireName? name with
    | none =>
      have dropped : recognised ((name, v) :: entries) = recognised entries := by
        simp [recognised, known]
      rw [dropped]
      simp only [addEntries, known]
      exact ih _ _ same
    | some s =>
      have kept : recognised ((name, v) :: entries) = (name, v) :: recognised entries := by
        simp [recognised, known]
      rw [kept]
      simp only [addEntries, known]
      cases s.kind.read scale s.wireName v with
      | error f => rfl
      | ok c =>
        refine ih _ _ ?_
        rw [same]

theorem map_slots_ofEntries {entries others : List (Text × Value)}
    (same : recognised entries = recognised others) :
    (ofEntries scale entries).2.map slots = (ofEntries scale others).2.map slots := by
  unfold ofEntries
  rw [map_slots_addEntries empty empty rfl entries, same,
    ← map_slots_addEntries empty empty rfl others]

/-- All that is recorded when entries are read is a warning about one that is not recognised. -/
theorem mem_records_addEntries {h : HoldEvent} {entries : List (Text × Value)} {r : Log.Record}
    (mem : r ∈ (h.addEntries scale entries).1) :
    ∃ e ∈ entries, Slot.ofWireName? e.1 = none ∧ ignoredRecord e.1 e.2 = r := by
  induction entries generalizing h with
  | nil => cases mem
  | cons e entries ih =>
    have later {h : HoldEvent} (mem : r ∈ (h.addEntries scale entries).1) :
        ∃ e' ∈ e :: entries, Slot.ofWireName? e'.1 = none ∧ ignoredRecord e'.1 e'.2 = r := by
      obtain ⟨e', given, unknown⟩ := ih mem
      exact ⟨e', List.mem_cons_of_mem e given, unknown⟩
    unfold addEntries at mem
    split at mem
    · next unknown =>
      rcases List.mem_cons.mp mem with first | rest
      · exact ⟨e, List.mem_cons_self, unknown, first.symm⟩
      · exact later rest
    · split at mem
      · cases mem
      · exact later mem

end Thermostat.HoldEvent
