import Thermostat.CommandLine.Run
import Thermostat.Proofs.Json.Depth
import Thermostat.Proofs.Text.Whole

/-! The arguments of an action from their text: an object, a complaint, or more depth than there is. -/
namespace Thermostat

theorem Action.ofName?_eq_some_iff {name : String} {a : Action} : ofName? name = some a ↔ name = a.name := by
  constructor
  · intro found
    have same := List.find?_some found
    exact (beq_iff_eq.mp same).symm
  · rintro rfl
    exact ofName?_name a

namespace CommandLine

theorem findAction?_eq_some_iff {name : Text} {a : Action} :
    findAction? name = some a ↔ actionName name = Text.ofString a.name := by
  unfold findAction?
  rw [Option.bind_eq_some_iff]
  simp only [Action.ofName?_eq_some_iff, Text.toString?_eq_some_iff, exists_eq_right]

/-- The arguments that the entries of an object stand for, with moments for those that name one. -/
def argumentsOf (entries : List (Text × Value)) : List (Text × Value) :=
  entries.map fun e => (e.1, readMoment e.1 e.2)

variable {depth : Nat} {action arguments : Text}

theorem readArguments_eq_ok_iff {text : Text} {named : List (Text × Value)} :
    readArguments depth text = .ok named ↔
      ∃ entries, Json.read (some digitLimit) depth text = .ok (.dict entries) ∧
        named = argumentsOf entries := by
  unfold readArguments
  split
  · next read => simp [read]
  · next read => simp [read]
  · next read => simp [read]
  · next entries read =>
    rw [read]
    simp only [Except.ok.injEq, Value.dict.injEq]
    constructor
    · intro same
      exact ⟨entries, rfl, same.symm⟩
    · rintro ⟨_, rfl, same⟩
      exact same.symm
  · next v other read =>
    rw [read]
    refine iff_of_false nofun ?_
    rintro ⟨entries, same, -⟩
    exact other entries (Except.ok.inj same)

/-- Reading arguments is given up just where lists and objects stand too deep in one another. -/
theorem readArguments_eq_failure_iff {text : Text} {kind message : String} :
    readArguments depth text = .error (.failure kind message) ↔
      ∃ c, Json.read (some digitLimit) depth text = .error (.tooDeep c) ∧
        kind = "RecursionError" ∧ message = Json.ReadError.message (.tooDeep c) := by
  unfold readArguments
  split
  · next read => simp [read]
  · next c read =>
    rw [read]
    constructor
    · intro same
      cases same
      exact ⟨c, rfl, rfl, rfl⟩
    · rintro ⟨d, same, rfl, rfl⟩
      cases same
      rfl
  · next e _ deep read =>
    rw [read]
    refine iff_of_false nofun ?_
    rintro ⟨c, same, -⟩
    exact deep c (Except.error.inj same)
  · next read => simp [read]
  · next read => simp [read]

/-- The arguments of a known action have lists and objects that stand too deep in one another. -/
structure TooDeep (depth : Nat) (action arguments : Text) : Prop where
  known : ∃ a : Action, actionName action = Text.ofString a.name
  deep : ∃ c, Json.read (some digitLimit) depth arguments = .error (.tooDeep c)

/-- What is too deep with more depth is too deep with less of it. -/
theorem TooDeep.of_le {depth' : Nat} (le : depth ≤ depth') (tooDeep : TooDeep depth' action arguments) :
    TooDeep depth action arguments := by
  obtain ⟨c, deep⟩ := tooDeep.deep
  refine ⟨tooDeep.known, ?_⟩
  rcases Json.read_of_le le (some digitLimit) arguments with same | shallow
  · exact ⟨c, same.trans deep⟩
  · exact shallow

/-- Arguments with no more opening brackets than there is depth are not too deep. -/
theorem not_tooDeep_of_brackets (few : Json.brackets arguments.points ≤ depth) :
    ¬ TooDeep depth action arguments := by
  rintro ⟨-, c, deep⟩
  exact Json.read_not_tooDeep few c deep

/-- Arguments that begin with more brackets than there is depth are too deep. -/
theorem tooDeep_of_brackets {a : Action} (known : actionName action = Text.ofString a.name) {n : Nat}
    (deep : depth < n) (rest : List CodePoint) :
    TooDeep depth action ⟨List.replicate n (.char '[') ++ rest⟩ :=
  ⟨⟨a, known⟩, .list, Json.read_brackets deep rest⟩

/-- A machine without further accounts, and with room for lists and objects to stand in one another. -/
def sampleMachine : Machine := ⟨"", ⟨.ofText "/home/user", []⟩, 900⟩

end CommandLine

end Thermostat
