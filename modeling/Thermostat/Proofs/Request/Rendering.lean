import Thermostat.Proofs.Action.Descriptor
import Thermostat.Proofs.Hold.Policy
import Thermostat.Proofs.Request.Payload
import Thermostat.Proofs.Request.Writable

/-! What a request sends of what it stores: each field that is set under one name of its own, in the
form of its kind, and nothing else. -/
namespace Thermostat

/-- What a field of a request stores. A moment is stored as its date and its time. -/
inductive Stored
  | flag (b : Bool)
  | number (n : Int)
  | temperature (t : Temperature)
  | text (l : Label)
  | word (w : Word)
  | date (d : Date)
  | time (t : TimeOfDay)

/-- The form in which what is stored is sent: words as their literals, temperatures in tenths, texts
with the same content. -/
def Stored.Shown : Stored → Param → Prop
  | .flag b, p => p = .flag b
  | .number n, p => p = .number n
  | .temperature t, p => p = .number t.tenths
  | .text l, p => ∃ m, p = .text m ∧ m.content = l.content
  | .word w, p => p = .text (.text w.literal)
  | .date d, p => p = .text (.text d.wire)
  | .time t, p => p = .text (.text t.wire)

/-- A field of a request: the argument that it comes from, the name that it is sent under, and what it
stores, if it is set. -/
structure StoredField where
  parameter : String
  name : String
  value : Option Stored

def SlotKind.stored : (k : SlotKind) → k.Content → Stored
  | .flag, b => .flag b
  | .temperature _, t => .temperature t
  | .fanMode, w => .word (.fanMode w)
  | .ventilatorMode, w => .word (.ventilatorMode w)
  | .count, n => .number n
  | .label, l => .text l

def HoldSlots.stored (h : HoldSlots) : List StoredField :=
  Slot.all.map fun s => ⟨"event", s.wireName, (h s).map s.kind.stored⟩

def Window.stored (w : Window) : List StoredField :=
  [⟨"start_date_time", "startDate", w.start.map (.date ·.date)⟩,
   ⟨"start_date_time", "startTime", w.start.map (.time ·.time)⟩,
   ⟨"end_date_time", "endDate", w.finish.map (.date ·.date)⟩,
   ⟨"end_date_time", "endTime", w.finish.map (.time ·.time)⟩]

def Hold.stored (h : Hold) : List StoredField :=
  h.window.stored ++
    [⟨"hold_type", "holdType", h.type.map (.word ∘ .holdType)⟩,
     ⟨"hold_hours", "holdHours", h.hours.map .number⟩]

namespace Request

/-- All fields of a request, whether they are set or not. -/
def stored : Request → List StoredField
  | acknowledge thermostat ackRef ackType remindLater =>
    [⟨"thermostat_identifier", "thermostatIdentifier", some (.text thermostat)⟩,
     ⟨"ack_ref", "ackRef", some (.text ackRef)⟩,
     ⟨"ack_type", "ackType", some (.word (.ackType ackType))⟩,
     ⟨"remind_me_later", "remindMeLater", remindLater.map .flag⟩]
  | controlPlug plug state hold =>
    ⟨"plug_name", "plugName", some (.text plug)⟩ ::
      ⟨"plug_state", "plugState", some (.word (.plugState state))⟩ :: hold.stored
  | createVacation name cool heat window fan fanMinutes =>
    [⟨"name", "name", some (.text name)⟩,
     ⟨"cool_hold_temp", "coolHoldTemp", some (.temperature cool)⟩,
     ⟨"heat_hold_temp", "heatHoldTemp", some (.temperature heat)⟩] ++ window.stored ++
      [⟨"fan", "fan", fan.map (.word ∘ .fanMode)⟩,
       ⟨"fan_min_on_time", "fanMinOnTime", fanMinutes.map .number⟩]
  | deleteVacation name => [⟨"name", "name", some (.text name)⟩]
  | resetPreferences => []
  | resumeProgram all => [⟨"resume_all", "resumeAll", all.map .flag⟩]
  | sendMessage text => [⟨"text", "text", some (.text text)⟩]
  | setHold event hold => event.slots.stored ++ hold.stored
  | setOccupied occupied hold => ⟨"occupied", "occupied", some (.flag occupied)⟩ :: hold.stored
  | updateSensor name deviceId sensorId =>
    [⟨"name", "name", some (.text name)⟩, ⟨"device_id", "deviceId", some (.text deviceId)⟩,
     ⟨"sensor_id", "sensorId", some (.text sensorId)⟩]

/-- The window of a request that takes one. -/
def window? : Request → Option Window
  | controlPlug _ _ hold => some hold.window
  | createVacation _ _ _ window _ _ => some window
  | setHold _ hold => some hold.window
  | setOccupied _ hold => some hold.window
  | _ => none

theorem window_stored {r : Request} {w : Window} (taken : r.window? = some w) :
    ∀ f ∈ w.stored, f ∈ r.stored := by
  have policy (h : Hold) : ∀ f ∈ h.window.stored, f ∈ h.stored := fun f => List.mem_append_left _
  intro f mem
  cases r with
  | controlPlug plug state hold =>
    cases taken
    exact List.mem_cons_of_mem _ (List.mem_cons_of_mem _ (policy hold f mem))
  | createVacation name cool heat window fan fanMinutes =>
    cases taken
    exact List.mem_append_left _ (List.mem_append_right _ mem)
  | setHold event hold =>
    cases taken
    exact List.mem_append_right _ (policy hold f mem)
  | setOccupied occupied hold =>
    cases taken
    exact List.mem_cons_of_mem _ (policy hold f mem)
  | _ => cases taken

end Request

/-- A field is sent under its name in the form of what it stores, and left out if it is not set. -/
def StoredField.SentAs (f : StoredField) (g : String × Option Param) : Prop :=
  f.name = g.1 ∧ Option.Rel Stored.Shown f.value g.2

namespace StoredField

theorem sentAs_some {parameter name : String} {s : Stored} {p : Param} (shown : s.Shown p) :
    SentAs ⟨parameter, name, some s⟩ (name, some p) := ⟨rfl, .some shown⟩

theorem sentAs_map {α : Type} {parameter name : String} {o : Option α} {store : α → Stored}
    {send : α → Param} (shown : ∀ a, (store a).Shown (send a)) :
    SentAs ⟨parameter, name, o.map store⟩ (name, o.map send) := by
  refine ⟨rfl, ?_⟩
  cases o with
  | none => exact .none
  | some a => exact .some (shown a)

end StoredField

open StoredField

theorem exists_rel_of_mem {α β : Type} {R : α → β → Prop} {as : List α} {bs : List β}
    (rel : List.Forall₂ R as bs) {a : α} (mem : a ∈ as) : ∃ b ∈ bs, R a b := by
  induction rel with
  | nil => cases mem
  | cons first _ ih =>
    rcases List.mem_cons.mp mem with rfl | rest
    · exact ⟨_, List.mem_cons_self, first⟩
    · obtain ⟨b, mem, related⟩ := ih rest
      exact ⟨b, List.mem_cons_of_mem _ mem, related⟩

theorem Stored.shown_text (l : Label) : (Stored.text l).Shown (.text l) := ⟨l, rfl, rfl⟩

theorem SlotKind.shown_stored (k : SlotKind) (c : k.Content) : (k.stored c).Shown (k.param c) := by
  cases k with
  | label =>
    have shown (l : Label) : (Stored.text l).Shown (labelParam l) := by
      cases l with
      | text t => exact ⟨.text t, rfl, rfl⟩
      | word w => cases w <;> exact ⟨_, rfl, rfl⟩
    exact shown c
  | _ => rfl

theorem Window.stored_fields (w : Window) : List.Forall₂ SentAs w.stored w.fields := by
  have date (o : Option DateTime) (parameter name : String) : SentAs
      ⟨parameter, name, o.map (.date ·.date)⟩ (name, o.map fun d => .text (.text d.date.wire)) :=
    sentAs_map fun _ => rfl
  have time (o : Option DateTime) (parameter name : String) : SentAs
      ⟨parameter, name, o.map (.time ·.time)⟩ (name, o.map fun d => .text (.text d.time.wire)) :=
    sentAs_map fun _ => rfl
  exact .cons (date _ _ _) (.cons (time _ _ _) (.cons (date _ _ _) (.cons (time _ _ _) .nil)))

theorem Hold.stored_fields (h : Hold) : List.Forall₂ SentAs h.stored h.fields := by
  refine List.rel_append h.window.stored_fields (.cons ?_ (.cons ?_ .nil))
  · exact sentAs_map fun w => rfl
  · exact sentAs_map fun n => rfl

theorem HoldSlots.stored_fields (h : HoldSlots) : List.Forall₂ SentAs h.stored h.fields := by
  unfold stored fields
  rw [List.forall₂_map_left_iff, List.forall₂_map_right_iff]
  exact List.forall₂_same.mpr fun s _ => sentAs_map fun c => s.kind.shown_stored c

namespace Request

theorem stored_fields (r : Request) : List.Forall₂ SentAs r.stored r.fields := by
  cases r with
  | acknowledge thermostat ackRef ackType remindLater =>
    exact .cons (sentAs_some (Stored.shown_text _)) (.cons (sentAs_some (Stored.shown_text _))
      (.cons (sentAs_some rfl) (.cons (sentAs_map fun b => rfl) .nil)))
  | controlPlug plug state hold =>
    exact .cons (sentAs_some (Stored.shown_text _)) (.cons (sentAs_some rfl) hold.stored_fields)
  | createVacation name cool heat window fan fanMinutes =>
    refine List.rel_append (List.rel_append ?_ window.stored_fields) ?_
    · exact .cons (sentAs_some (Stored.shown_text _)) (.cons (sentAs_some rfl)
        (.cons (sentAs_some rfl) .nil))
    · exact .cons (sentAs_map fun w => rfl) (.cons (sentAs_map fun n => rfl) .nil)
  | deleteVacation name => exact .cons (sentAs_some (Stored.shown_text _)) .nil
  | resetPreferences => exact .nil
  | resumeProgram all => exact .cons (sentAs_map fun b => rfl) .nil
  | sendMessage text => exact .cons (sentAs_some (Stored.shown_text _)) .nil
  | setHold event hold => exact List.rel_append event.slots.stored_fields hold.stored_fields
  | setOccupied occupied hold => exact .cons (sentAs_some rfl) hold.stored_fields
  | updateSensor name deviceId sensorId =>
    exact .cons (sentAs_some (Stored.shown_text _)) (.cons (sentAs_some (Stored.shown_text _))
      (.cons (sentAs_some (Stored.shown_text _)) .nil))

theorem get?_params (r : Request) (name : String) :
    Entries.get? r.params name = (Entries.get? r.fields name).join := by
  rw [params_eq]
  refine Params.get?_ofFields ?_ name
  rw [names_fields]
  exact r.kind.nodup_partNames

/-- A hold sends each field of its event under the name of the field. -/
theorem get?_slot (event : HoldEvent) (hold : Hold) (s : Slot) :
    Entries.get? (setHold event hold).params s.wireName = (event.slots s).map s.kind.param := by
  have field : (s.wireName, (event.slots s).map s.kind.param) ∈ (setHold event hold).fields :=
    List.mem_append_left _ (List.mem_map_of_mem s.mem_all)
  have nodup : ((setHold event hold).fields.map (·.1)).Nodup := by
    rw [names_fields]
    exact RequestKind.setHold.nodup_partNames
  rw [get?_params, Entries.get?_of_mem nodup field, Option.join_some]

/-- What is sent under the name of a field is what the field stores. -/
theorem shown_of_mem_stored {r : Request} {f : StoredField} (mem : f ∈ r.stored) :
    Option.Rel Stored.Shown f.value (Entries.get? r.params f.name) := by
  obtain ⟨g, field, name, shown⟩ := exists_rel_of_mem r.stored_fields mem
  have nodup : (r.fields.map (·.1)).Nodup := by
    rw [names_fields]
    exact r.kind.nodup_partNames
  rw [get?_params, name, Entries.get?_of_mem nodup field]
  exact shown

theorem names_stored (r : Request) : r.stored.map StoredField.name = r.kind.partNames := by
  rw [← names_fields]
  exact List.forall₂_eq_eq_eq ▸ List.rel_map (fun _ _ sent => sent.1) r.stored_fields

theorem mem_stored_of_mem_params {r : Request} {p : String × Param} (mem : p ∈ r.params) :
    ∃ f ∈ r.stored, f.name = p.1 ∧ Option.Rel Stored.Shown f.value (some p.2) := by
  have found := Entries.get?_of_mem r.nodup_params mem
  have name : p.1 ∈ r.stored.map StoredField.name := by
    rw [names_stored, ← names_fields]
    have sent := List.mem_map_of_mem (f := Prod.fst) mem
    rw [params_eq] at sent
    exact (Params.names_ofFields r.fields).subset sent
  obtain ⟨f, field, same⟩ := List.mem_map.mp name
  have shown := shown_of_mem_stored field
  rw [same, found] at shown
  exact ⟨f, field, same, shown⟩

end Request

/-- The parts that a hold's type and hours are sent as. -/
def Hold.policyParams (h : Hold) : Params :=
  (h.type.map fun t => ("holdType", Param.word t)).toList ++
    (h.hours.map fun n => ("holdHours", Param.number n)).toList

theorem Hold.params_eq_append (h : Hold) : h.params = h.window.params ++ h.policyParams :=
  List.append_assoc _ _ _

namespace Request

/-- The groups of parts that are merged: those of the event or of the request's own fields, those of
the window, and those of the hold policy or of the options behind the window. -/
def groups : Request → List Params
  | controlPlug plug state hold =>
    [[("plugName", .text plug), ("plugState", .word state)], hold.window.params, hold.policyParams]
  | createVacation name cool heat window fan fanMinutes =>
    [[("name", .text name), ("coolHoldTemp", .number cool.tenths),
      ("heatHoldTemp", .number heat.tenths)], window.params,
     (fan.map fun m => ("fan", Param.word m)).toList ++
       (fanMinutes.map fun n => ("fanMinOnTime", Param.number n)).toList]
  | setHold event hold => [event.slots.params, hold.window.params, hold.policyParams]
  | setOccupied occupied hold =>
    [[("occupied", .flag occupied)], hold.window.params, hold.policyParams]
  | r => [r.params]

theorem flatten_groups (r : Request) : r.groups.flatten = r.params := by
  cases r with
  | createVacation name cool heat window fan fanMinutes => simp [groups, params]
  | _ => simp [groups, params, Hold.params_eq_append]

theorem merge_groups (r : Request) : r.groups.foldl Entries.setAll [] = r.params := by
  have nodup : (([] ++ r.groups.flatten : Params).map (·.1)).Nodup := by
    rw [List.nil_append, flatten_groups]
    exact r.nodup_params
  rw [Entries.foldl_setAll_eq_append nodup, List.nil_append, flatten_groups]

theorem groups_apart (r : Request) :
    r.groups.Pairwise fun ps qs => ∀ n ∈ ps.map (·.1), n ∉ qs.map (·.1) := by
  have nodup := r.nodup_params
  rw [← flatten_groups, List.map_flatten, List.nodup_flatten, List.pairwise_map] at nodup
  exact nodup.2.imp fun apart n first second => apart first second

/-- What a request sends is a rendering of what it stores, complete and without collisions. -/
structure Rendered (r : Request) : Prop where
  fields : ∀ f ∈ r.stored, Option.Rel Stored.Shown f.value (Entries.get? r.params f.name)
  only : ∀ p ∈ r.params, ∃ f ∈ r.stored, f.name = p.1 ∧ f.value.isSome = true
  plain : ∀ p ∈ r.params,
    (∃ b, p.2 = .flag b) ∨ (∃ n, p.2 = .number n) ∨ ∃ l, p.2 = .text l
  apart : r.groups.Pairwise fun ps qs => ∀ n ∈ ps.map (·.1), n ∉ qs.map (·.1)
  merged : r.groups.foldl Entries.setAll [] = r.params

theorem rendered (r : Request) : r.Rendered := by
  refine ⟨fun f => shown_of_mem_stored, fun p mem => ?_, fun p mem => ?_, r.groups_apart,
    r.merge_groups⟩
  · obtain ⟨f, field, same, shown⟩ := mem_stored_of_mem_params mem
    refine ⟨f, field, same, ?_⟩
    cases value : f.value with
    | none =>
      rw [value] at shown
      cases shown
    | some s => rfl
  · cases p.2 with
    | flag b => exact Or.inl ⟨b, rfl⟩
    | number n => exact Or.inr (Or.inl ⟨n, rfl⟩)
    | text l => exact Or.inr (Or.inr ⟨l, rfl⟩)

end Request

/-- What a field stores was read from a value: texts may have been cut, and of a moment it is the date
or the time. -/
def Stored.ReadFrom : Stored → Value → Prop
  | .flag b, v => v = .bool b
  | .number n, v => v.number? = some (n : ℚ)
  | .temperature t, v => v = .temperature t
  | .text l, v => ∃ m, v = .text m ∧ l.content.points <+: m.content.points
  | .word w, v => ∃ l, v = .text l ∧ l.content = Text.ofString w.literal
  | .date d, v => ∃ m, v = .dateTime m ∧ m.date = d
  | .time t, v => ∃ m, v = .dateTime m ∧ m.time = t

theorem Stored.not_readFrom_none {s : Stored} : ¬ s.ReadFrom .none := by
  cases s <;> simp [ReadFrom, Value.number?]

/-- A field holds what was read from its argument; without an argument it is not set. -/
def StoredField.From (a : Arguments) (f : StoredField) : Prop :=
  match f.value with
  | none => a.value f.parameter = .none
  | some s => s.ReadFrom (a.value f.parameter)

theorem StoredField.From.isSome_iff {a : Arguments} {f : StoredField} (given : f.From a) :
    f.value.isSome = true ↔ a.value f.parameter ≠ .none := by
  unfold From at given
  cases value : f.value with
  | none =>
    rw [value] at given
    simp [given]
  | some s =>
    rw [value] at given
    refine iff_of_true rfl fun nothing => ?_
    rw [nothing] at given
    exact s.not_readFrom_none given

/-- Fields, but those of an event, hold what was read from their arguments. -/
def GivenBy (a : Arguments) (fields : List StoredField) : Prop :=
  ∀ f ∈ fields, f.parameter ≠ "event" → f.From a

namespace GivenBy

open Stored

variable {a : Arguments}

theorem nil : GivenBy a [] := nofun

theorem cons {f : StoredField} {fields : List StoredField} (first : f.From a)
    (rest : GivenBy a fields) : GivenBy a (f :: fields) := by
  unfold GivenBy
  rw [List.forall_mem_cons]
  exact ⟨fun _ => first, rest⟩

theorem append {fields more : List StoredField} (front : GivenBy a fields) (back : GivenBy a more) :
    GivenBy a (fields ++ more) := by
  unfold GivenBy
  rw [List.forall_mem_append]
  exact ⟨front, back⟩

section Required

variable {parameter name : String} {fields : List StoredField} (rest : GivenBy a fields)
include rest

theorem text {title : Text} {l : Label}
    (ok : Field.requireText (a.value parameter) title = .ok l) :
    GivenBy a (⟨parameter, name, some (.text l)⟩ :: fields) := by
  refine cons ?_ rest
  obtain ⟨value, -⟩ := Field.requireText_eq_ok_iff.mp ok
  exact ⟨l, value, List.prefix_refl _⟩

theorem word {α : Type} [Vocabulary α] [Vocabulary.Lawful α] {title : Option Text} {w : α}
    {u : Word} (ok : Field.parseWord α (a.value parameter) title = .ok w)
    (literal : u.literal = Vocabulary.literal w) :
    GivenBy a (⟨parameter, name, some (.word u)⟩ :: fields) := by
  refine cons ?_ rest
  obtain ⟨l, value, content⟩ := Field.parseWord_eq_ok_iff.mp ok
  exact ⟨l, value, content.trans (congrArg Text.ofString literal.symm)⟩

theorem flag {title : Text} {b : Bool} (ok : Field.requireBool (a.value parameter) title = .ok b) :
    GivenBy a (⟨parameter, name, some (.flag b)⟩ :: fields) :=
  cons (Field.requireBool_eq_ok_iff.mp ok) rest

theorem temperature {title : String} {t : Temperature}
    (ok : Request.requireTemperature (a.value parameter) title = .ok t) :
    GivenBy a (⟨parameter, name, some (.temperature t)⟩ :: fields) := by
  refine cons ?_ rest
  change a.value parameter = .temperature t
  cases value : a.value parameter with
  | temperature u =>
    rw [value] at ok
    cases ok
    rfl
  | _ =>
    rw [value] at ok
    cases ok

/-- A field that may be left out is read as the others are where its argument is given. -/
theorem optional {α : Type} {parse : Value → Except Fault α} {o : Option α} {store : α → Stored}
    (ok : Field.optional (a.value parameter) parse = .ok o)
    (read : ∀ x, parse (a.value parameter) = .ok x → (store x).ReadFrom (a.value parameter)) :
    GivenBy a (⟨parameter, name, o.map store⟩ :: fields) := by
  refine cons ?_ rest
  rcases Field.optional_eq_ok_iff.mp ok with ⟨nothing, rfl⟩ | ⟨-, x, parsed, rfl⟩
  · exact nothing
  · exact read x parsed

end Required

theorem window {w : Window}
    (read : Window.read (a.value "start_date_time") (a.value "end_date_time") = .ok w) :
    GivenBy a w.stored := by
  obtain ⟨start, finish, -⟩ := Window.read_eq_ok_iff.mp read
  have date {parameter name : String} {o : Option DateTime}
      (value : a.value parameter = Window.momentValue o) :
      StoredField.From a ⟨parameter, name, o.map (.date ·.date)⟩ := by
    cases o with
    | none => exact value
    | some d => exact ⟨d, value, rfl⟩
  have time {parameter name : String} {o : Option DateTime}
      (value : a.value parameter = Window.momentValue o) :
      StoredField.From a ⟨parameter, name, o.map (.time ·.time)⟩ := by
    cases o with
    | none => exact value
    | some d => exact ⟨d, value, rfl⟩
  exact cons (date start) (cons (time start) (cons (date finish) (cons (time finish) nil)))

theorem hold {h : Hold} (read : a.terms.read = .ok h) : GivenBy a h.stored := by
  obtain ⟨mean, ordered, -⟩ := Terms.read_eq_ok_iff.mp read
  have type : StoredField.From a
      ⟨"hold_type", "holdType", h.type.map (.word ∘ .holdType)⟩ := by
    rcases mean.type with ⟨nothing, absent⟩ | ⟨w, named, present⟩
    · rw [absent]
      exact nothing
    · rw [present]
      exact named
  have hours : StoredField.From a ⟨"hold_hours", "holdHours", h.hours.map .number⟩ := by
    rcases mean.hours with ⟨nothing, absent⟩ | ⟨n, number, present⟩
    · rw [absent]
      exact nothing
    · rw [present]
      exact number
  have ends := Window.read_eq_ok_iff.mpr ⟨mean.start, mean.finish, ordered⟩
  exact (GivenBy.window ends).append (cons type (cons hours nil))

theorem event (slots : HoldSlots) : GivenBy a slots.stored := by
  intro f mem other
  obtain ⟨s, -, rfl⟩ := List.mem_map.mp mem
  exact absurd rfl other

end GivenBy

theorem Request.readFanMinutes_eq_ok_iff {v : Value} {n : Int} :
    readFanMinutes v = .ok n ↔
      v.number? = some (n : ℚ) ∧ leastFanMinutes ≤ n ∧ n ≤ greatestFanMinutes := by
  unfold readFanMinutes
  rw [bind_eq_ok_iff]
  constructor
  · rintro ⟨m, whole, ok⟩
    split at ok
    · next within =>
      cases ok
      exact ⟨Field.requireInt_eq_ok_iff.mp whole, within⟩
    · cases ok
  · rintro ⟨number, within⟩
    exact ⟨n, Field.requireInt_eq_ok_iff.mpr number, if_pos within⟩

/-- The fields of a request that was made hold what was read from its arguments. -/
theorem RequestKind.given_of_make {k : RequestKind} {a : Arguments} {r : Request}
    (ok : (k.make a).2 = .ok r) : GivenBy a r.stored := by
  cases made_of_make ok with
  | acknowledge thermostat ackRef ackType later =>
    refine .text (.text (.word (.optional .nil later fun b ok => ?_) ackType rfl) ackRef) thermostat
    exact Field.requireBool_eq_ok_iff.mp ok
  | controlPlug plug state hold => exact .text (.word (.hold hold) state rfl) plug
  | createVacation name cool heat window fan minutes =>
    refine .append (.append ?_ (.window window)) ?_
    · exact .text (.temperature (.temperature .nil heat) cool) name
    · refine .optional (.optional .nil minutes fun n ok => ?_) fan fun w ok => ?_
      · exact (Request.readFanMinutes_eq_ok_iff.mp ok).1
      · exact Field.parseWord_eq_ok_iff.mp ok
  | deleteVacation name => exact .text .nil name
  | resetPreferences => exact .nil
  | resumeProgram all =>
    exact .optional .nil all fun b ok => Field.requireBool_eq_ok_iff.mp ok
  | sendMessage text short => exact .text .nil text
  | cutMessage text long =>
    obtain ⟨value, -⟩ := Field.requireText_eq_ok_iff.mp text
    exact .cons ⟨_, value, List.take_prefix _ _⟩ .nil
  | setHold event hold => exact .append (.event _) (.hold hold)
  | setOccupied occupied hold => exact .flag (.hold hold) occupied
  | updateSensor name short device sensor => exact .text (.text (.text .nil sensor) device) name

namespace Request

variable {r : Request}

theorem name_mem_params_iff {f : StoredField} (mem : f ∈ r.stored) :
    f.name ∈ r.params.map (·.1) ↔ f.value.isSome = true := by
  have shown := shown_of_mem_stored mem
  rw [← Entries.get?_isSome_iff]
  cases value : f.value <;> cases found : Entries.get? r.params f.name <;> rw [value, found] at shown
  · exact Iff.rfl
  · cases shown
  · cases shown
  · exact Iff.rfl

/-- Every parameter without a default has a field that is set. -/
theorem exists_stored_of_required (r : Request) : ∀ p ∈ r.kind.parameters, p.default = none →
    ∃ f ∈ r.stored, f.parameter = p.name ∧ f.value.isSome = true := by
  cases r <;>
    simp [kind, RequestKind.parameters, RequestKind.required, RequestKind.optional, stored]

/-- One end of a window: the argument that gives it, and the names that it is sent under. -/
def windowEnds : List (String × List String) :=
  [("start_date_time", ["startDate", "startTime"]), ("end_date_time", ["endDate", "endTime"])]

/-- Where a request takes a window, each name of an end is that of a field; elsewhere neither the
argument nor the names are known. -/
theorem ends_stored (r : Request) : ∀ e ∈ windowEnds,
    (∀ n ∈ e.2, ∃ f ∈ r.stored, f.name = n ∧ f.parameter = e.1) ∨
      (∀ n ∈ e.2, n ∉ r.kind.partNames) ∧ e.1 ∉ r.kind.signature.names := by
  intro e isEnd
  have held {w : Window} (taken : r.window? = some w) :
      ∀ n ∈ e.2, ∃ f ∈ r.stored, f.name = n ∧ f.parameter = e.1 := by
    have window : ∀ n ∈ e.2, ∃ f ∈ w.stored, f.name = n ∧ f.parameter = e.1 := by
      simp only [windowEnds, List.mem_cons, List.not_mem_nil, or_false] at isEnd
      rcases isEnd with rfl | rfl <;> simp [Window.stored]
    intro n mem
    obtain ⟨f, field, same⟩ := window n mem
    exact ⟨f, window_stored taken f field, same⟩
  cases r with
  | controlPlug plug state hold => exact Or.inl (held rfl)
  | createVacation name cool heat window fan fanMinutes => exact Or.inl (held rfl)
  | setHold event hold => exact Or.inl (held rfl)
  | setOccupied occupied hold => exact Or.inl (held rfl)
  | _ =>
    refine Or.inr ?_
    simp only [windowEnds, List.mem_cons, List.not_mem_nil, or_false] at isEnd
    rcases isEnd with rfl | rfl <;>
      simp [kind, RequestKind.partNames, Signature.names, RequestKind.signature,
        RequestKind.parameters, RequestKind.required, RequestKind.optional]

/-- A request that was made from arguments is a rendering of them: each parameter without a default
is sent, each field holds what was read from its argument and is sent just if that was given, each
end of a window under both of its names or not at all, and of an event all its fields. -/
structure RenderedFrom (a : Arguments) (r : Request) : Prop where
  rendered : r.Rendered
  required : ∀ p ∈ r.kind.parameters, p.default = none →
    ∃ f ∈ r.stored, f.parameter = p.name ∧ f.name ∈ r.params.map (·.1)
  given : ∀ f ∈ r.stored, f.parameter ≠ "event" →
    f.From a ∧ (f.name ∈ r.params.map (·.1) ↔ a.value f.parameter ≠ .none)
  ends : ∀ e ∈ windowEnds, ∀ n ∈ e.2, n ∈ r.params.map (·.1) ↔ a.value e.1 ≠ .none
  event : ∀ slots ignored, a.value "event" = .event slots ignored → ∀ f ∈ slots.stored, f ∈ r.stored

theorem renderedFrom {a : Arguments} (names : a.map (·.1) = r.kind.signature.names)
    (ok : (r.kind.make a).2 = .ok r) : r.RenderedFrom a := by
  have unknown (n : String) (free : n ∉ r.kind.signature.names) : a.value n = .none := by
    rw [← names] at free
    rw [Arguments.value_eq, Entries.get?_eq_none_iff.mpr free, Option.getD_none]
  have given : ∀ f ∈ r.stored, f.parameter ≠ "event" →
      f.From a ∧ (f.name ∈ r.params.map (·.1) ↔ a.value f.parameter ≠ .none) := by
    intro f mem other
    have held := RequestKind.given_of_make ok f mem other
    exact ⟨held, (name_mem_params_iff mem).trans held.isSome_iff⟩
  refine ⟨r.rendered, fun p mem required => ?_, given, fun e isEnd n mem => ?_,
    fun slots ignored event => ?_⟩
  · obtain ⟨f, field, same, set⟩ := exists_stored_of_required r p mem required
    exact ⟨f, field, same, (name_mem_params_iff field).mpr set⟩
  · rcases ends_stored r e isEnd with window | ⟨unsent, free⟩
    · obtain ⟨f, field, rfl, parameter⟩ := window n mem
      have other : f.parameter ≠ "event" := by
        have ends : ∀ e ∈ windowEnds, e.1 ≠ "event" := by decide
        rw [parameter]
        exact ends e isEnd
      rw [(given f field other).2, parameter]
    · refine iff_of_false (fun sent => unsent n mem ?_) fun given => given ?_
      · rw [params_eq] at sent
        rw [← names_fields]
        exact (Params.names_ofFields r.fields).subset sent
      · exact unknown e.1 free
  · have others : ∀ k : RequestKind, k ≠ .setHold → "event" ∉ k.signature.names := by
      intro k
      cases k <;> decide
    cases r with
    | setHold kept hold =>
      cases RequestKind.made_of_make ok with
      | setHold value hold =>
        rw [event] at value
        cases value
        exact fun f => List.mem_append_left _
    | _ =>
      rw [unknown "event" (others _ nofun)] at event
      cases event

end Request

namespace RequestKind

/-- A request that was made renders what it was made from. -/
theorem construct_renders {k : RequestKind} {placed : List Value} {named : List (Text × Value)}
    {records : List Log.Record} {r : Request}
    (made : k.construct placed named = .ok (records, .ok r)) :
    r.kind = k ∧ r.RenderedFrom (k.signature.bound placed named) := by
  obtain ⟨fits, made⟩ := construct_eq_ok_iff.mp made
  have ok : (k.make (k.signature.bound placed named)).2 = .ok r := congrArg Prod.snd made
  have kind := kind_of_make ok
  subst kind
  exact ⟨rfl, Request.renderedFrom (Signature.names_bound _ named fits.room) ok⟩

/-- A hold with a fan mode and a start, until further notice. -/
theorem construct_renders_fan :
    ∃ r, RequestKind.setHold.construct
        [.event (HoldSlots.empty.put .fan FanMode.on) [], .string "indefinite", .none,
          .dateTime ⟨{ year := 2024, month := 5, day := 1 }, .midnight, none⟩] [] = .ok ([], .ok r) ∧
      r.RenderedFrom (RequestKind.setHold.signature.bound
        [.event (HoldSlots.empty.put .fan FanMode.on) [], .string "indefinite", .none,
          .dateTime ⟨{ year := 2024, month := 5, day := 1 }, .midnight, none⟩] []) :=
  ⟨_, rfl, (construct_renders (k := .setHold) rfl).2⟩

end RequestKind

end Thermostat
