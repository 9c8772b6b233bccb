import Thermostat.Action.Request
import Thermostat.Proofs.Call.Binding
import Thermostat.Proofs.Steps

/-! The request of an action, described without the action: made under the signature of its kind from
arguments by name. What an action makes is what it describes. -/
namespace Thermostat

namespace Arguments

/-- The arguments but those of some names. -/
def without (a : Arguments) (names : List String) : Arguments :=
  a.filter fun e => !names.contains e.1

def named (a : Arguments) : List (Text × Value) := a.map fun e => (Text.ofString e.1, e.2)

theorem value_cons (name : String) (v : Value) (a : Arguments) (n : String) :
    value ((name, v) :: a) n = if name = n then v else a.value n := by
  rw [value_eq, value_eq, Entries.get?_cons]
  by_cases h : name = n <;> simp [h]

theorem value_without (a : Arguments) {names : List String} {n : String} (free : n ∉ names) :
    (a.without names).value n = a.value n := by
  rw [value_eq, value_eq, without,
    Entries.get?_filter (fun k => !names.contains k) (by simpa using free)]

theorem names_without (a : Arguments) (names : List String) :
    (a.without names).map (·.1) = (a.map (·.1)).filter fun n => !names.contains n := by
  rw [List.filter_map]
  rfl

theorem get?_named (a : Arguments) (n : String) :
    Entries.get? a.named (Text.ofString n) = Entries.get? a n :=
  Entries.get?_map_of_injective (fun _ _ => Text.ofString_inj.mp) a n

end Arguments

namespace Signature

variable {s : Signature} {a : Arguments} (names : ∀ n, n ∈ a.map (·.1) ↔ n ∈ s.names)
include names

/-- Arguments by name fit that have just the names of the parameters. -/
theorem fits_named : s.Fits [] a.named := by
  refine ⟨Nat.zero_le _, ?_, ?_⟩
  · intro e mem
    obtain ⟨x, given, rfl⟩ := List.mem_map.mp mem
    obtain ⟨p, param, same⟩ := List.mem_map.mp ((names x.1).mp (List.mem_map_of_mem given))
    exact ⟨p, param, congrArg Text.ofString same.symm⟩
  · intro p mem _
    obtain ⟨x, given, same⟩ := List.mem_map.mp ((names p.name).mpr (List.mem_map_of_mem mem))
    exact ⟨_, List.mem_map_of_mem given, congrArg Text.ofString same⟩

theorem Distinct.value_named (distinct : s.Distinct) {n : String} (mem : n ∈ s.names) :
    (s.bound [] a.named).value n = a.value n := by
  obtain ⟨p, param, rfl⟩ := List.mem_map.mp mem
  rw [distinct.value_bound_named a.named param, Arguments.get?_named, Arguments.value_eq]
  obtain ⟨v, found⟩ := Option.isSome_iff_exists.mp (Entries.get?_isSome_iff.mpr ((names _).mpr mem))
  rw [found, Option.getD_some, Option.getD_some]

end Signature

namespace RequestKind

/-- Makes a request of a kind from arguments by place and by name. -/
def construct (k : RequestKind) (placed : List Value) (named : List (Text × Value)) :
    Except Mismatch Request.Making :=
  (k.signature.bind placed named).map k.make

theorem signature_distinct (k : RequestKind) : k.signature.Distinct := by cases k <;> decide

/-- A request can be made just from arguments that fit, and then from what they stand for. -/
theorem construct_eq_ok_iff {k : RequestKind} {placed : List Value} {named : List (Text × Value)}
    {making : Request.Making} :
    k.construct placed named = .ok making ↔
      k.signature.Fits placed named ∧ k.make (k.signature.bound placed named) = making := by
  unfold construct
  rw [map_eq_ok_iff]
  simp only [k.signature_distinct.bind_eq_ok_iff]
  constructor
  · rintro ⟨a, ⟨fits, rfl⟩, made⟩
    exact ⟨fits, made⟩
  · rintro ⟨fits, made⟩
    exact ⟨_, ⟨fits, rfl⟩, made⟩

/-- A request depends on no other arguments than those of its parameters. -/
theorem make_congr (k : RequestKind) {a b : Arguments}
    (same : ∀ n ∈ k.signature.names, a.value n = b.value n) : k.make a = k.make b := by
  cases k <;>
    simp only [Signature.names, signature, parameters, required, optional, List.map_cons,
      List.map_nil, List.forall_mem_cons, List.not_mem_nil, false_implies, implies_true, and_true]
      at same <;>
    simp only [make, same]

/-- Where all parameters have an argument by name and there are no others, the request is made from
these. -/
theorem construct_named (k : RequestKind) {a : Arguments}
    (names : ∀ n, n ∈ a.map (·.1) ↔ n ∈ k.signature.names) :
    k.construct [] a.named = .ok (k.make a) := by
  refine construct_eq_ok_iff.mpr ⟨Signature.fits_named names, k.make_congr fun n mem => ?_⟩
  exact k.signature_distinct.value_named names mem

end RequestKind

namespace Action

/-- The kind of request that an action makes; a hold is set in two ways. -/
def kind : Action → RequestKind
  | .acknowledge => .acknowledge
  | .controlPlug => .controlPlug
  | .createVacation => .createVacation
  | .deleteVacation => .deleteVacation
  | .resetPreferences => .resetPreferences
  | .resumeProgram => .resumeProgram
  | .sendMessage => .sendMessage
  | .setHold => .setHold
  | .setHoldParams => .setHold
  | .setOccupied => .setOccupied
  | .updateSensor => .updateSensor

/-- The entries of a hold as an action is given them. -/
def requireEntries : Value → Except Fault (List (Text × Value))
  | .dict entries => .ok entries
  | v => refuse (.notMapping v.typeName)

theorem requireEntries_eq_ok_iff {v : Value} {entries : List (Text × Value)} :
    requireEntries v = .ok entries ↔ v = .dict entries := by
  cases v <;> simp [requireEntries, refuse]

theorem forall_holdEntries {P : Value → Prop} {a : Arguments} (each : ∀ name, P (a.value name)) :
    ∀ e ∈ holdEntries a, P e.2 := by
  have given (name argument : String) : ∀ e ∈ givenEntry name (a.value argument), P e.2 := by
    intro e mem
    unfold givenEntry at mem
    split at mem
    · cases mem
    · rw [List.mem_singleton.mp mem]
      exact each argument
  simp only [holdEntries, List.forall_mem_append]
  exact ⟨⟨given _ _, given _ _⟩, given _ _⟩

/-- The arguments of an action without its selection, as the request takes them under their own
names: readings of a vacation are converted, and the entries of a hold become its event. -/
def handed (scale : TemperatureScale) (action : Action) (a : Arguments) : Except Fault Arguments :=
  match action with
  | .createVacation => do
    let cool ← Field.temperature (a.value "cool_hold_temp") scale false "coolHoldTemp"
    let heat ← Field.temperature (a.value "heat_hold_temp") scale false "heatHoldTemp"
    .ok (("cool_hold_temp", .temperature cool) :: ("heat_hold_temp", .temperature heat) ::
      a.without ["selection", "cool_hold_temp", "heat_hold_temp"])
  | .setHold => do
    let event ← (HoldEvent.ofEntries scale (holdEntries a)).2
    .ok (("event", event.toValue) ::
      a.without ["selection", "cool_hold_temp", "heat_hold_temp", "hold_climate_ref"])
  | .setHoldParams => do
    let entries ← requireEntries (a.value "params")
    let event ← (HoldEvent.ofEntries scale entries).2
    .ok (("event", event.toValue) :: a.without ["selection", "params"])
  | _ => .ok (a.without ["selection"])

/-- The arguments of an action describe a request: it is made under the signature of its kind from
what is handed on, by name. -/
def Describes (scale : TemperatureScale) (action : Action) (a : Arguments) (r : Request) : Prop :=
  ∃ b making, action.handed scale a = .ok b ∧ action.kind.construct [] b.named = .ok making ∧
    making.2 = .ok r

theorem signature_distinct (action : Action) : action.signature.Distinct := by
  cases action <;> decide

theorem selection_first (action : Action) :
    ∃ p ps, action.signature.parameters = p :: ps ∧ p.name = "selection" ∧ p.default = none := by
  cases action <;> exact ⟨_, _, rfl, rfl, rfl⟩

theorem default_eq_none (action : Action) {p : Parameter} (mem : p ∈ action.signature.parameters) :
    p.default.getD .none = .none := by
  obtain ⟨doc, -, rfl⟩ := List.mem_map.mp mem
  dsimp only
  split <;> rfl

variable {scale : TemperatureScale} {action : Action} {a b : Arguments}

theorem names_handed (names : a.map (·.1) = action.signature.names)
    (ok : action.handed scale a = .ok b) (n : String) :
    n ∈ b.map (·.1) ↔ n ∈ action.kind.signature.names := by
  have rest (dropped : List String) :
      (a.without dropped).map (·.1) = action.signature.names.filter fun n => !dropped.contains n := by
    rw [Arguments.names_without, names]
  have same {l l' : List String} (h : (∀ n ∈ l, n ∈ l') ∧ ∀ n ∈ l', n ∈ l) : n ∈ l ↔ n ∈ l' :=
    ⟨h.1 n, h.2 n⟩
  cases action
  case createVacation =>
    obtain ⟨cool, -, ok⟩ := bind_eq_ok_iff.mp ok
    obtain ⟨heat, -, ok⟩ := bind_eq_ok_iff.mp ok
    cases ok
    simp only [List.map_cons, rest]
    exact same (by decide)
  case setHold =>
    obtain ⟨event, -, ok⟩ := bind_eq_ok_iff.mp ok
    cases ok
    simp only [List.map_cons, rest]
    exact same (by decide)
  case setHoldParams =>
    obtain ⟨entries, -, ok⟩ := bind_eq_ok_iff.mp ok
    obtain ⟨event, -, ok⟩ := bind_eq_ok_iff.mp ok
    cases ok
    simp only [List.map_cons, rest]
    exact same (by decide)
  all_goals
    cases ok
    rw [rest]
    exact same (by decide)

private theorem makeRequest_plain {scale : TemperatureScale} {action : Action} {a : Arguments}
    (makes : action.makeRequest scale a = action.kind.make a)
    (hands : action.handed scale a = .ok (a.without ["selection"]))
    (apart : ∀ n ∈ action.kind.signature.names, n ∉ ["selection"]) :
    (action.makeRequest scale a).2 =
      action.handed scale a >>= fun b => (action.kind.make b).2 := by
  rw [makes, hands]
  exact congrArg Prod.snd (action.kind.make_congr fun n mem => (a.value_without (apart n mem)).symm)

private theorem make_hold (event : HoldEvent) (a : Arguments) (dropped : List String)
    (apart : ∀ n ∈ ["hold_type", "hold_hours", "start_date_time", "end_date_time"], n ∉ dropped) :
    RequestKind.setHold.make (("event", event.toValue) :: a.without dropped) =
      Request.silent (Request.ofSetHold event.toValue (a.value "hold_type") (a.value "hold_hours")
        (a.value "start_date_time") (a.value "end_date_time")) := by
  simp only [List.forall_mem_cons, List.not_mem_nil, false_implies, implies_true, and_true] at apart
  simp [RequestKind.make, Arguments.value_cons, Arguments.value_without, apart]

private theorem holdOfEntries_eq (scale : TemperatureScale) (entries : List (Text × Value))
    (a : Arguments) (dropped : List String)
    (apart : ∀ n ∈ ["hold_type", "hold_hours", "start_date_time", "end_date_time"], n ∉ dropped) :
    (holdOfEntries scale entries a).2 =
      ((HoldEvent.ofEntries scale entries).2 >>= fun event =>
        .ok (("event", event.toValue) :: a.without dropped)) >>= fun b =>
          (RequestKind.setHold.make b).2 := by
  unfold holdOfEntries
  obtain ⟨records, result⟩ := HoldEvent.ofEntries scale entries
  cases result with
  | error f => rfl
  | ok event => exact (congrArg Prod.snd (make_hold event a dropped apart)).symm

private theorem vacation_eq (scale : TemperatureScale) (a : Arguments) :
    vacation scale a =
      handed scale .createVacation a >>= fun b => (RequestKind.createVacation.make b).2 := by
  unfold vacation handed
  cases Field.temperature (a.value "cool_hold_temp") scale false "coolHoldTemp" with
  | error f => rfl
  | ok cool =>
    cases Field.temperature (a.value "heat_hold_temp") scale false "heatHoldTemp" with
    | error f => rfl
    | ok heat =>
      change Request.ofCreateVacation _ _ _ _ _ _ _ = (RequestKind.createVacation.make _).2
      simp [RequestKind.make, Request.silent, Arguments.value_cons, Arguments.value_without]

/-- What an action makes is what its kind makes of the arguments that are handed on. -/
theorem makeRequest_eq (scale : TemperatureScale) (action : Action) (a : Arguments) :
    (action.makeRequest scale a).2 =
      action.handed scale a >>= fun b => (action.kind.make b).2 := by
  cases action
  case createVacation => exact vacation_eq scale a
  case setHold =>
    refine holdOfEntries_eq scale (holdEntries a) a _ ?_
    decide
  case setHoldParams =>
    unfold makeRequest handed requireEntries
    cases a.value "params" with
    | dict entries =>
      refine holdOfEntries_eq scale entries a _ ?_
      decide
    | _ => rfl
  all_goals exact makeRequest_plain rfl rfl (by decide)

/-- What an action makes is the request that its arguments describe. -/
theorem describes_iff (names : a.map (·.1) = action.signature.names) (r : Request) :
    action.Describes scale a r ↔ (action.makeRequest scale a).2 = .ok r := by
  rw [makeRequest_eq, bind_eq_ok_iff]
  constructor
  · rintro ⟨b, making, ok, made, request⟩
    rw [action.kind.construct_named (names_handed names ok)] at made
    cases made
    exact ⟨b, ok, request⟩
  · rintro ⟨b, ok, made⟩
    exact ⟨b, _, ok, action.kind.construct_named (names_handed names ok), made⟩

end Action

end Thermostat
