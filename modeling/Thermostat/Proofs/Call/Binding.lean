import Thermostat.Call.Signature
import Thermostat.Proofs.Entries

/-! Binding arguments: which arguments fit a signature, and what each parameter then stands for. -/
namespace Thermostat

theorem Arguments.value_eq (a : Arguments) (name : String) :
    a.value name = (Entries.get? a name).getD .none := rfl

theorem Arguments.value_of_forall {P : Value → Prop} {a : Arguments} (nothing : P .none)
    (each : ∀ e ∈ a, P e.2) (name : String) : P (a.value name) := by
  rw [Arguments.value_eq]
  cases found : Entries.get? a name with
  | none => exact nothing
  | some v => exact each _ (Entries.mem_of_get? found)

namespace Signature

def names (s : Signature) : List String := s.parameters.map Parameter.name

/-- Parameters have different names, and none has that of the receiver. -/
def Distinct (s : Signature) : Prop := (receiver :: s.names).Nodup

instance (s : Signature) : Decidable s.Distinct := inferInstanceAs (Decidable (List.Nodup _))

/-- Arguments fit if there are not too many by place, each one by name is for a parameter that has
none by place, and every other parameter without a default has one by name. -/
structure Fits (s : Signature) (placed : List Value) (named : List (Text × Value)) : Prop where
  room : placed.length ≤ s.parameters.length
  known : ∀ e ∈ named, ∃ p ∈ s.parameters.drop placed.length, e.1 = Text.ofString p.name
  complete : ∀ p ∈ s.parameters.drop placed.length, p.default = none →
    ∃ e ∈ named, e.1 = Text.ofString p.name

/-- Names that parameters already have by place. -/
def taken (s : Signature) (byPlace : Nat) : List String :=
  receiver :: (s.parameters.take byPlace).map Parameter.name

theorem namesFault_eq_none_iff (s : Signature) (byPlace : Nat) (ks : List Text) :
    s.namesFault byPlace ks = none ↔
      ∀ k ∈ ks, (∀ n ∈ s.taken byPlace, Text.ofString n ≠ k) ∧
        ∃ p ∈ s.parameters, Text.ofString p.name = k := by
  induction ks with
  | nil => simp [namesFault]
  | cons k ks ih =>
    have first : ((s.taken byPlace).any (Text.ofString · == k) = true) ↔
        ∃ n ∈ s.taken byPlace, Text.ofString n = k := by simp
    have second : (s.parameters.any (Text.ofString ·.name == k) = true) ↔
        ∃ p ∈ s.parameters, Text.ofString p.name = k := by simp
    unfold namesFault
    change (if (s.taken byPlace).any (Text.ofString · == k) = true then _ else _) = none ↔ _
    by_cases taken : (s.taken byPlace).any (Text.ofString · == k) = true
    · obtain ⟨n, mem, same⟩ := first.mp taken
      rw [if_pos taken]
      simp only [reduceCtorEq, false_iff]
      intro all
      exact (all k List.mem_cons_self).1 n mem same
    · have free : ∀ n ∈ s.taken byPlace, Text.ofString n ≠ k := fun n mem same =>
        taken (first.mpr ⟨n, mem, same⟩)
      rw [if_neg taken]
      by_cases known : s.parameters.any (Text.ofString ·.name == k) = true
      · rw [if_pos known, ih, List.forall_mem_cons]
        exact ⟨fun h => ⟨⟨free, second.mp known⟩, h⟩, fun h => h.2⟩
      · rw [if_neg known]
        simp only [reduceCtorEq, false_iff]
        intro all
        exact known (second.mpr (all k List.mem_cons_self).2)

theorem missingNames_eq_nil_iff (parameters : List Parameter) (named : List (Text × Value)) :
    missingNames parameters named = [] ↔
      ∀ p ∈ parameters, p.default = none → ∃ e ∈ named, e.1 = Text.ofString p.name := by
  have each (p : Parameter) : (p.default.isNone && !Entries.has named (Text.ofString p.name)) = false ↔
      (p.default = none → ∃ e ∈ named, e.1 = Text.ofString p.name) := by
    cases p.default <;> simp [Entries.has]
  unfold missingNames
  rw [List.map_eq_nil_iff, List.filter_eq_nil_iff]
  exact forall₂_congr fun p _ => by rw [Bool.not_eq_true, each p]

/-- With different names, a name is known and free if it is that of a parameter behind those that
have an argument by place. -/
theorem Distinct.known_iff {s : Signature} (distinct : s.Distinct) (byPlace : Nat) (k : Text) :
    ((∀ n ∈ s.taken byPlace, Text.ofString n ≠ k) ∧ ∃ p ∈ s.parameters, Text.ofString p.name = k) ↔
      ∃ p ∈ s.parameters.drop byPlace, k = Text.ofString p.name := by
  have split : s.taken byPlace ++ (s.parameters.drop byPlace).map Parameter.name =
      receiver :: s.names := by
    simp only [taken, names, List.cons_append, ← List.map_append, List.take_append_drop]
  have nodup : (receiver :: s.names).Nodup := distinct
  rw [← split] at nodup
  have apart := (List.nodup_append.mp nodup).2.2
  constructor
  · rintro ⟨free, p, mem, rfl⟩
    rw [← List.take_append_drop byPlace s.parameters, List.mem_append] at mem
    rcases mem with before | behind
    · exact absurd rfl (free p.name (List.mem_cons_of_mem _ (List.mem_map_of_mem before)))
    · exact ⟨p, behind, rfl⟩
  · rintro ⟨p, mem, rfl⟩
    refine ⟨fun n taken same => ?_, p, List.mem_of_mem_drop mem, rfl⟩
    exact apart n taken p.name (List.mem_map_of_mem mem) (Text.ofString_inj.mp same)

/-- What each parameter stands for: the argument at its place, or that of its name, or its default. -/
def bound (s : Signature) (placed : List Value) (named : List (Text × Value)) : Arguments :=
  ((s.parameters.take placed.length).map Parameter.name).zip placed ++
    (s.parameters.drop placed.length).map fun p =>
      (p.name, (Entries.get? named (Text.ofString p.name)).getD (p.default.getD .none))

theorem bind_eq_ok_iff (s : Signature) (placed : List Value) (named : List (Text × Value))
    (a : Arguments) :
    s.bind placed named = .ok a ↔
      s.namesFault placed.length (named.map (·.1)) = none ∧ placed.length ≤ s.parameters.length ∧
        missingNames (s.parameters.drop placed.length) named = [] ∧ a = s.bound placed named := by
  unfold bind
  cases s.namesFault placed.length (named.map (·.1)) with
  | some m => simp
  | none =>
    by_cases room : s.parameters.length < placed.length
    · simp [room, Nat.not_le.mpr room]
    · cases missing : missingNames (s.parameters.drop placed.length) named with
      | nil => simp [room, missing, Nat.not_lt.mp room, bound, eq_comm]
      | cons n ns => simp [room, missing]

/-- Binding succeeds for the arguments that fit, and for no others. -/
theorem Distinct.bind_eq_ok_iff {s : Signature} (distinct : s.Distinct) (placed : List Value)
    (named : List (Text × Value)) (a : Arguments) :
    s.bind placed named = .ok a ↔ s.Fits placed named ∧ a = s.bound placed named := by
  have names : s.namesFault placed.length (named.map (·.1)) = none ↔
      ∀ e ∈ named, ∃ p ∈ s.parameters.drop placed.length, e.1 = Text.ofString p.name := by
    rw [namesFault_eq_none_iff, List.forall_mem_map]
    exact forall₂_congr fun e _ => distinct.known_iff placed.length e.1
  rw [Signature.bind_eq_ok_iff, names, missingNames_eq_nil_iff]
  exact ⟨fun ⟨known, room, complete, eq⟩ => ⟨⟨room, known, complete⟩, eq⟩,
    fun ⟨fits, eq⟩ => ⟨fits.known, fits.room, fits.complete, eq⟩⟩

/-- Which arguments fit depends on how many there are by place, and on the names of the others. -/
theorem bind_eq_error_congr {s : Signature} {placed placed' : List Value}
    {named named' : List (Text × Value)} (length : placed'.length = placed.length)
    (names : named'.map (·.1) = named.map (·.1)) {m : Mismatch}
    (misfit : s.bind placed named = .error m) : s.bind placed' named' = .error m := by
  have has (name : Text) : Entries.has named' name = Entries.has named name := by
    rw [Bool.eq_iff_iff, Entries.has_iff, Entries.has_iff, names]
  unfold bind at misfit ⊢
  simp only [length, names, missingNames, has] at misfit ⊢
  split at misfit
  · exact misfit
  · split at misfit
    · next many =>
      rw [if_pos many]
      exact misfit
    · next room =>
      rw [if_neg room]
      split at misfit
      · cases misfit
      · exact misfit

theorem names_bound (s : Signature) {placed : List Value} (named : List (Text × Value))
    (room : placed.length ≤ s.parameters.length) : (s.bound placed named).map (·.1) = s.names := by
  have front : (((s.parameters.take placed.length).map Parameter.name).zip placed).map Prod.fst =
      (s.parameters.take placed.length).map Parameter.name :=
    List.map_fst_zip (by simp [room])
  simp only [bound, List.map_append, front, List.map_map]
  change _ ++ (s.parameters.drop placed.length).map Parameter.name = _
  rw [← List.map_append, List.take_append_drop, names]

/-- What holds of all that is given, and of all that stands for missing arguments, holds of all
arguments. -/
theorem forall_bound {P : Value → Prop} {s : Signature} {placed : List Value}
    {named : List (Text × Value)} (byPlace : ∀ v ∈ placed, P v) (byName : ∀ e ∈ named, P e.2)
    (missing : ∀ p ∈ s.parameters, P (p.default.getD .none)) :
    ∀ e ∈ s.bound placed named, P e.2 := by
  intro e mem
  rcases List.mem_append.mp mem with front | rest
  · exact byPlace _ (List.of_mem_zip front).2
  · obtain ⟨p, param, rfl⟩ := List.mem_map.mp rest
    dsimp only
    cases given : Entries.get? named (Text.ofString p.name) with
    | none => exact missing p (List.mem_of_mem_drop param)
    | some v => exact byName _ (Entries.mem_of_get? given)

/-- By place, the first parameter takes the first argument; without any, the one of its name. -/
theorem value_bound_first {s : Signature} {p : Parameter} {ps : List Parameter}
    (first : s.parameters = p :: ps) (placed : List Value) (named : List (Text × Value)) :
    (s.bound placed named).value p.name =
      (placed.head?.or (Entries.get? named (Text.ofString p.name))).getD (p.default.getD .none) := by
  rw [Arguments.value_eq]
  cases placed with
  | nil =>
    simp only [bound, first, List.length_nil, List.drop_zero, List.take_zero, List.map_nil,
      List.zip_nil_left, List.nil_append, List.map_cons, Entries.get?_cons, if_true,
      List.head?_nil, Option.none_or, Option.getD_some]
  | cons v vs =>
    simp only [bound, first, List.length_cons, List.take_succ_cons, List.map_cons,
      List.zip_cons_cons, List.cons_append, Entries.get?_cons, if_true, List.head?_cons,
      Option.some_or, Option.getD_some]

/-- A parameter takes the argument at its place, else the one of its name, else its default. -/
theorem Distinct.value_bound {s : Signature} (distinct : s.Distinct) {placed : List Value}
    (named : List (Text × Value)) (room : placed.length ≤ s.parameters.length) {i : Nat}
    {p : Parameter} (place : s.parameters[i]? = some p) :
    (s.bound placed named).value p.name =
      (placed[i]?.or (Entries.get? named (Text.ofString p.name))).getD (p.default.getD .none) := by
  have nodup : ((s.bound placed named).map (·.1)).Nodup := by
    rw [names_bound s named room]
    exact (List.nodup_cons.mp distinct).2
  rw [Arguments.value_eq]
  cases given : placed[i]? with
  | some v =>
    have before : i < placed.length := (List.getElem?_eq_some_iff.mp given).1
    have entry : (p.name, v) ∈ s.bound placed named := by
      refine List.mem_append_left _ (List.mem_of_getElem? (i := i) ?_)
      rw [List.getElem?_zip_eq_some, List.getElem?_map, List.getElem?_take_of_lt before, place]
      exact ⟨rfl, given⟩
    rw [Entries.get?_of_mem nodup entry]
    rfl
  | none =>
    have behind : placed.length ≤ i := List.getElem?_eq_none_iff.mp given
    have mem : p ∈ s.parameters.drop placed.length := by
      refine List.mem_of_getElem? (i := i - placed.length) ?_
      rw [List.getElem?_drop, Nat.add_sub_cancel' behind, place]
    have entry : (p.name, (Entries.get? named (Text.ofString p.name)).getD (p.default.getD .none)) ∈
        s.bound placed named := List.mem_append_right _ (List.mem_map.mpr ⟨p, mem, rfl⟩)
    rw [Entries.get?_of_mem nodup entry]
    rfl

/-- Behind the arguments by place, each parameter takes the argument of its name or else its default. -/
theorem Distinct.value_bound_rest {s : Signature} (distinct : s.Distinct) {placed : List Value}
    (named : List (Text × Value)) (room : placed.length ≤ s.parameters.length) {p : Parameter}
    (mem : p ∈ s.parameters.drop placed.length) :
    (s.bound placed named).value p.name =
      (Entries.get? named (Text.ofString p.name)).getD (p.default.getD .none) := by
  obtain ⟨i, place⟩ := List.getElem?_of_mem mem
  rw [List.getElem?_drop] at place
  have behind : placed[placed.length + i]? = none := List.getElem?_eq_none (Nat.le_add_right _ _)
  rw [distinct.value_bound named room place, behind, Option.none_or]

theorem Distinct.value_bound_named {s : Signature} (distinct : s.Distinct)
    (named : List (Text × Value)) {p : Parameter} (mem : p ∈ s.parameters) :
    (s.bound [] named).value p.name =
      (Entries.get? named (Text.ofString p.name)).getD (p.default.getD .none) :=
  distinct.value_bound_rest named (Nat.zero_le _) mem

end Signature

end Thermostat
