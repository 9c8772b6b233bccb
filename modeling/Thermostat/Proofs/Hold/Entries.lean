import Thermostat.Hold.Event
import Thermostat.Proofs.Entries
import Thermostat.Proofs.Steps

/-! Holds read from entries: each entry counts as it does alone, and their order does not matter. -/
namespace Thermostat

theorem Slot.ofWireName?_eq_some_iff {name : Text} {s : Slot} :
    ofWireName? name = some s ↔ name = Text.ofString s.wireName := by
  constructor
  · intro found
    have same := List.find?_some found
    exact (beq_iff_eq.mp same).symm
  · rintro rfl
    exact ofWireName?_wireName s

theorem Slot.wireName_inj {s t : Slot} : s.wireName = t.wireName ↔ s = t := by
  constructor
  · intro same
    have found := ofWireName?_wireName s
    rw [same, ofWireName?_wireName] at found
    exact (Option.some.inj found).symm
  · exact congrArg wireName

theorem SlotKind.same_self (k : SlotKind) (c : k.Content) : k.same c c = true := by
  cases k <;> simp [same, equal] <;> rfl

theorem HoldSlots.same_self (h : HoldSlots) : h.same h = true := by
  refine List.all_eq_true.mpr fun s _ => ?_
  cases h s with
  | none => rfl
  | some c => exact s.kind.same_self c

namespace HoldEvent

variable {scale : TemperatureScale} {h h' : HoldEvent} {entries : List (Text × Value)}

/-- The hold that an entry describes by itself. -/
def alone (scale : TemperatureScale) (e : Text × Value) : Except Fault HoldEvent :=
  (ofEntries scale [e]).2

/-- What an entry that can be read adds to a hold: its field, or an entry that is set aside. -/
def extend (h g : HoldEvent) : HoldEvent :=
  ⟨fun s => (g.slots s).or (h.slots s), h.ignored ++ g.ignored⟩

theorem slots_extend (h g : HoldEvent) (s : Slot) :
    (h.extend g).slots s = (g.slots s).or (h.slots s) := rfl

theorem alone_unknown {name : Text} (unknown : Slot.ofWireName? name = none) (v : Value) :
    alone scale (name, v) = .ok ⟨.empty, [(name, v)]⟩ := by
  simp [alone, ofEntries, addEntries, unknown, empty]

theorem alone_known (s : Slot) (v : Value) :
    alone scale (s.wireName, v) =
      (s.kind.read scale s.wireName v).map fun c => ⟨HoldSlots.empty.put s c, []⟩ := by
  simp only [alone, ofEntries, addEntries, Slot.ofWireName?_wireName]
  cases s.kind.read scale s.wireName v <;> rfl

theorem extend_put (h : HoldEvent) (s : Slot) (c : s.kind.Content) :
    h.extend ⟨HoldSlots.empty.put s c, []⟩ = { h with slots := h.slots.put s c } := by
  have slots (t : Slot) : ((HoldSlots.empty.put s c) t).or (h.slots t) = h.slots.put s c t := by
    by_cases same : s = t
    · subst same
      simp
    · rw [HoldSlots.put_of_ne _ c same, HoldSlots.put_of_ne _ c same]
      rfl
  simp only [extend, slots, List.append_nil]

/-- Entries are added one after the other, each as it is read alone. -/
theorem addEntries_cons (scale : TemperatureScale) (h : HoldEvent) (e : Text × Value)
    (entries : List (Text × Value)) :
    (h.addEntries scale (e :: entries)).2 =
      alone scale e >>= fun g => ((h.extend g).addEntries scale entries).2 := by
  obtain ⟨name, v⟩ := e
  cases known : Slot.ofWireName? name with
  | none =>
    rw [alone_unknown known]
    simp only [addEntries, known]
    rfl
  | some s =>
    have wire := Slot.ofWireName?_eq_some_iff.mp known
    subst wire
    rw [alone_known]
    simp only [addEntries, known]
    cases s.kind.read scale s.wireName v with
    | error f => rfl
    | ok c =>
      change _ = ((h.extend ⟨HoldSlots.empty.put s c, []⟩).addEntries scale entries).2
      rw [extend_put]

/-- An entry alone sets no other field than that of its name, and sets it if there is one. -/
theorem isSome_alone_iff {e : Text × Value} {g : HoldEvent} (read : alone scale e = .ok g) (s : Slot) :
    (g.slots s).isSome = true ↔ e.1 = Text.ofString s.wireName := by
  obtain ⟨name, v⟩ := e
  cases known : Slot.ofWireName? name with
  | none =>
    rw [alone_unknown known] at read
    cases read
    refine iff_of_false (by simp [HoldSlots.empty]) fun same => ?_
    rw [Slot.ofWireName?_eq_some_iff.mpr same] at known
    cases known
  | some t =>
    have wire := Slot.ofWireName?_eq_some_iff.mp known
    subst wire
    rw [alone_known] at read
    obtain ⟨c, -, rfl⟩ := map_eq_ok_iff.mp read
    rw [Text.ofString_inj, Slot.wireName_inj]
    by_cases same : t = s
    · subst same
      simp
    · simp [HoldSlots.put_of_ne _ c same, HoldSlots.empty, same]

/-- Entries can be read just if each of them can be read alone; then they add up. -/
theorem addEntries_eq (scale : TemperatureScale) (h : HoldEvent) (entries : List (Text × Value)) :
    (h.addEntries scale entries).2 =
      (entries.mapM (alone scale)).map fun gs => gs.foldl extend h := by
  induction entries generalizing h with
  | nil => rfl
  | cons e entries ih =>
    rw [addEntries_cons, List.mapM_cons]
    cases alone scale e with
    | error f => rfl
    | ok g =>
      change ((h.extend g).addEntries scale entries).2 = _
      rw [ih (h.extend g)]
      cases entries.mapM (alone scale) <;> rfl

/-- What an entry alone sets aside. -/
def aside (scale : TemperatureScale) (e : Text × Value) : List (Text × Value) :=
  match alone scale e with
  | .ok g => g.ignored
  | .error _ => []

section Added

variable {gs : List HoldEvent} (read : List.Forall₂ (fun e g => alone scale e = .ok g) entries gs)
include read

theorem flatMap_ignored : gs.flatMap HoldEvent.ignored = entries.flatMap (aside scale) := by
  induction read with
  | nil => rfl
  | cons first _ ih =>
    simp only [List.flatMap_cons, ih, aside, first]

theorem ignored_foldl (h : HoldEvent) :
    (gs.foldl extend h).ignored = h.ignored ++ gs.flatMap HoldEvent.ignored := by
  induction read generalizing h with
  | nil => exact (List.append_nil _).symm
  | @cons e g entries gs first rest ih =>
    rw [List.foldl_cons, ih, List.flatMap_cons, extend, List.append_assoc]

/-- A field that no entry names stays as it was. -/
theorem slots_foldl_absent (h : HoldEvent) {s : Slot}
    (absent : Entries.get? entries (Text.ofString s.wireName) = none) :
    (gs.foldl extend h).slots s = h.slots s := by
  induction read generalizing h with
  | nil => rfl
  | @cons e g entries gs first rest ih =>
    rw [Entries.get?_cons] at absent
    split at absent
    · cases absent
    · next other =>
      have unset : g.slots s = none := by
        have set := (isSome_alone_iff first s).not.mpr other
        rwa [Bool.not_eq_true, Option.isSome_eq_false_iff, Option.isNone_iff_eq_none] at set
      rw [List.foldl_cons, ih _ absent, slots_extend, unset, Option.none_or]

/-- A field that one entry names is what that entry sets alone. -/
theorem slots_foldl_present (nodup : (entries.map (·.1)).Nodup) (h : HoldEvent) {s : Slot} {v : Value}
    (present : Entries.get? entries (Text.ofString s.wireName) = some v) :
    ∃ g, alone scale (s.wireName, v) = .ok g ∧ (g.slots s).isSome = true ∧
      (gs.foldl extend h).slots s = g.slots s := by
  induction read generalizing h with
  | nil => cases present
  | @cons e g entries gs first rest ih =>
    obtain ⟨fresh, nodup⟩ := List.nodup_cons.mp nodup
    rw [Entries.get?_cons] at present
    rw [List.foldl_cons]
    split at present
    · next same =>
      obtain ⟨name, w⟩ := e
      cases present
      change name = Text.ofString s.wireName at same
      subst same
      have set := (isSome_alone_iff first s).mpr rfl
      refine ⟨g, first, set, ?_⟩
      rw [slots_foldl_absent rest _ (Entries.get?_eq_none_iff.mpr fresh), slots_extend,
        Option.or_of_isSome set]
    · exact ih nodup _ present

end Added

/-- A hold is put together from what its entries describe alone: each field is that of the entry with
its name, and what is set aside is what they set aside. -/
structure Composed (scale : TemperatureScale) (entries : List (Text × Value)) (h : HoldEvent) :
    Prop where
  absent : ∀ s, Entries.get? entries (Text.ofString s.wireName) = none → h.slots s = none
  present : ∀ s v, Entries.get? entries (Text.ofString s.wireName) = some v →
    ∃ g, alone scale (s.wireName, v) = .ok g ∧ h.slots s = g.slots s ∧ h.slots s ≠ none
  ignored : ∃ gs, entries.mapM (alone scale) = .ok gs ∧ h.ignored = gs.flatMap HoldEvent.ignored

/-- Two holds that cannot be told apart but by the order of what they have set aside. -/
structure Alike (h g : HoldEvent) : Prop where
  equal : h.slots.same g.slots = true
  params : h.slots.params = g.slots.params
  ignored : h.ignored.Perm g.ignored

theorem ofEntries_eq_ok_iff :
    (ofEntries scale entries).2 = .ok h ↔
      ∃ gs, entries.mapM (alone scale) = .ok gs ∧ gs.foldl extend empty = h := by
  rw [ofEntries, addEntries_eq, map_eq_ok_iff]

theorem ofEntries_eq_error_iff {f : Fault} :
    (ofEntries scale entries).2 = .error f ↔ entries.mapM (alone scale) = .error f := by
  rw [ofEntries, addEntries_eq, map_eq_error_iff]

theorem ofEntries_ok_iff :
    (∃ h, (ofEntries scale entries).2 = .ok h) ↔ ∀ e ∈ entries, ∃ g, alone scale e = .ok g := by
  rw [← mapM_ok_iff]
  constructor
  · rintro ⟨h, ok⟩
    obtain ⟨gs, read, -⟩ := ofEntries_eq_ok_iff.mp ok
    exact ⟨gs, read⟩
  · rintro ⟨gs, read⟩
    exact ⟨_, ofEntries_eq_ok_iff.mpr ⟨gs, read, rfl⟩⟩

theorem composed_of_ofEntries (nodup : (entries.map (·.1)).Nodup)
    (ok : (ofEntries scale entries).2 = .ok h) : Composed scale entries h := by
  obtain ⟨gs, read, rfl⟩ := ofEntries_eq_ok_iff.mp ok
  have each := mapM_eq_ok_iff.mp read
  refine ⟨fun s absent => slots_foldl_absent each empty absent, fun s v present => ?_,
    gs, read, ignored_foldl each empty⟩
  obtain ⟨g, alone, set, same⟩ := slots_foldl_present each nodup empty present
  refine ⟨g, alone, same, ?_⟩
  rw [same]
  exact Option.isSome_iff_ne_none.mp set

theorem Composed.ignored_eq (composed : Composed scale entries h) :
    h.ignored = entries.flatMap (aside scale) := by
  obtain ⟨gs, read, same⟩ := composed.ignored
  rw [same, flatMap_ignored (mapM_eq_ok_iff.mp read)]

/-- Entries in another order make up the same hold. -/
theorem Composed.alike {others : List (Text × Value)} (nodup : (entries.map (·.1)).Nodup)
    (perm : others.Perm entries) (composed : Composed scale entries h)
    (other : Composed scale others h') : Alike h' h := by
  have found (name : Text) : Entries.get? others name = Entries.get? entries name :=
    Entries.get?_perm perm nodup name
  have slots : h'.slots = h.slots := by
    funext s
    cases here : Entries.get? entries (Text.ofString s.wireName) with
    | none => rw [composed.absent s here, other.absent s ((found _).trans here)]
    | some v =>
      obtain ⟨g, alone, same, -⟩ := composed.present s v here
      obtain ⟨g', alone', same', -⟩ := other.present s v ((found _).trans here)
      rw [alone] at alone'
      cases alone'
      rw [same, same']
  refine ⟨?_, by rw [slots], ?_⟩
  · rw [slots]
    exact h.slots.same_self
  · rw [composed.ignored_eq, other.ignored_eq]
    exact perm.flatMap_right (aside scale)

/-- What entries make up depends on each of them alone, and not on their order. -/
structure Composes (scale : TemperatureScale) (entries : List (Text × Value)) : Prop where
  succeeds : (∃ h, (ofEntries scale entries).2 = .ok h) ↔ ∀ e ∈ entries, ∃ g, alone scale e = .ok g
  composed : ∀ h, (ofEntries scale entries).2 = .ok h → Composed scale entries h
  reordered : ∀ others, others.Perm entries →
    ((∃ h, (ofEntries scale others).2 = .ok h) ↔ ∃ h, (ofEntries scale entries).2 = .ok h) ∧
      ∀ h h', (ofEntries scale entries).2 = .ok h → (ofEntries scale others).2 = .ok h' → Alike h' h

theorem ofEntries_composes (scale : TemperatureScale) {entries : List (Text × Value)}
    (nodup : (entries.map (·.1)).Nodup) : Composes scale entries := by
  refine ⟨ofEntries_ok_iff, fun h ok => composed_of_ofEntries nodup ok, fun others perm => ?_⟩
  have nodup' : (others.map (·.1)).Nodup := (perm.map _).nodup_iff.mpr nodup
  constructor
  · rw [ofEntries_ok_iff, ofEntries_ok_iff]
    exact forall_congr' fun e => imp_congr_left perm.mem_iff
  · intro h h' ok ok'
    exact (composed_of_ofEntries nodup ok).alike nodup perm (composed_of_ofEntries nodup' ok')

/-- A fan mode and a reading, with an entry between them that is set aside. -/
theorem ofEntries_composes_fan :
    (([("fan", .string "on"), ("holdType", .none), ("coolHoldTemp", .int 21)] :
        List (Text × Value)).map (·.1)).Nodup ∧
      Composes .celsius [("fan", .string "on"), ("holdType", .none), ("coolHoldTemp", .int 21)] := by
  have nodup : (([("fan", .string "on"), ("holdType", .none), ("coolHoldTemp", .int 21)] :
      List (Text × Value)).map (·.1)).Nodup := by decide
  exact ⟨nodup, ofEntries_composes .celsius nodup⟩

end HoldEvent

end Thermostat
